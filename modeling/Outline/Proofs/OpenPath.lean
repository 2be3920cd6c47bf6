import Mathlib.Data.List.Chain
import Outline.Proofs.Scoping

/-!
# Scopes of the open path

To every position belong the scopes of the classes and functions on the way from
the root to the latest child.  In a class its own name and the variables below it
are declared, in a function its own name; of each name the first declaration is
kept.

The main statements are that a line leaves blocks and ends scopes in step, that
placing a node opens and declares what belongs to the new position, and that the
trees of a position are a path down to its latest child.
-/

namespace Outline

namespace Grammar

/-- Variables stand in classes only. -/
theorem eq_classBlock_of_admits_field {container : Kind} {earlier : List Kind}
    (admitted : admits container earlier .field = true) :
    container = .classBlock := by
  cases container <;> simp [admits, rootAdmits, functionAdmits, blockAdmits] at admitted ⊢

end Grammar

/-! ## The scopes of trees -/

namespace Scope

/-- The scope with one more declaration, if its name is free. -/
def keep (scope : Scope) (declaration : Entry) : Scope :=
  match scope.find? declaration.name with
  | none => scope.add declaration
  | some _ => scope

@[simp]
theorem keep_owner (scope : Scope) (declaration : Entry) :
    (scope.keep declaration).owner = scope.owner := by
  unfold keep
  cases scope.find? declaration.name <;> rfl

@[simp]
theorem foldl_keep_owner (scope : Scope) (declarations : List Entry) :
    (declarations.foldl keep scope).owner = scope.owner := by
  induction declarations generalizing scope with
  | nil => rfl
  | cons declaration rest induction => rw [List.foldl_cons, induction, keep_owner]

theorem keep_find? (scope : Scope) (declaration : Entry) (name : String) :
    (scope.keep declaration).find? name =
      (scope.find? name).or ([declaration].find? fun entry => entry.name = name) := by
  unfold keep
  cases found : scope.find? declaration.name with
  | none => simp [add, find?]
  | some first =>
      by_cases same : declaration.name = name
      · simp [← same, found]
      · simp [same]

/-- Of the declarations with one name the first is found. -/
theorem foldl_keep_find? (scope : Scope) (declarations : List Entry) (name : String) :
    (declarations.foldl keep scope).find? name =
      (scope.find? name).or (declarations.find? fun entry => entry.name = name) := by
  induction declarations generalizing scope with
  | nil => simp
  | cons declaration rest induction =>
      rw [List.foldl_cons, induction, keep_find?, Option.or_assoc, ← List.find?_append]
      rfl

/-- No name is declared twice. -/
def IsDistinct (scope : Scope) : Prop :=
  (scope.declarations.map Entry.name).Nodup

theorem IsDistinct.keep {scope : Scope} (distinct : scope.IsDistinct) (declaration : Entry) :
    (scope.keep declaration).IsDistinct := by
  unfold Scope.keep
  cases found : scope.find? declaration.name with
  | some first => exact distinct
  | none =>
      have free : ∀ other ∈ scope.declarations, other.name ≠ declaration.name := by
        simpa [find?] using found
      rw [IsDistinct, Scope.add, List.map_append, List.nodup_append]
      refine ⟨distinct, List.nodup_singleton _, ?_⟩
      rintro name member other last rfl
      rcases List.mem_map.mp member with ⟨known, declared, rfl⟩
      exact free known declared (List.mem_singleton.mp last)

theorem IsDistinct.foldl_keep {scope : Scope} (distinct : scope.IsDistinct)
    (declarations : List Entry) :
    (declarations.foldl Scope.keep scope).IsDistinct := by
  induction declarations generalizing scope with
  | nil => exact distinct
  | cons declaration rest induction => exact induction (distinct.keep declaration)

end Scope

namespace Tree

/-- The nodes right below a tree that stand for variables. -/
def fields (tree : Tree) : List Entry :=
  (tree.children.map Tree.entry).filter fun entry => entry.kind = .field

/-- What is declared in the scope of a tree: its own name and, in a class, the variables. -/
def declarations (tree : Tree) : List Entry :=
  (tree.entry :: if tree.entry.kind = .classBlock then tree.fields else []).filter Entry.declares

/-- The scope of a tree in which of each name the first declaration is kept. -/
def scope (tree : Tree) : Scope :=
  tree.declarations.foldl Scope.keep { name := tree.entry.name, owner := some tree.entry }

/-- The scopes of those trees that have one. -/
def scopes (trees : List Tree) : List Scope :=
  (trees.filter fun tree => tree.entry.kind.opensScope).map scope

@[simp]
theorem scope_owner (tree : Tree) : tree.scope.owner = some tree.entry := by
  simp [scope]

theorem scope_find? (tree : Tree) (name : String) :
    tree.scope.find? name = tree.declarations.find? fun entry => entry.name = name := by
  rw [scope, Scope.foldl_keep_find?]
  rfl

theorem scope_leaf (entry : Entry) : scope ⟨entry, []⟩ = .ofOwner entry := by
  cases named : entry.declares <;>
    simp [scope, declarations, fields, named, Scope.ofOwner, Scope.keep, Scope.find?, Scope.add]

/-- The scope of a tree is determined by the tree's two topmost levels. -/
theorem scope_congr {tree other : Tree} (entry : tree.entry = other.entry)
    (children : tree.children.map Tree.entry = other.children.map Tree.entry) :
    tree.scope = other.scope := by
  rw [scope, scope, declarations, declarations, fields, fields, entry, children]

/-- The tree with a new leaf right below its topmost node. -/
def grow (tree : Tree) (entry : Entry) : Tree where
  entry := tree.entry
  children := tree.children ++ [⟨entry, []⟩]

theorem fields_grow (tree : Tree) (entry : Entry) :
    (tree.grow entry).fields = tree.fields ++ if entry.kind = .field then [entry] else [] := by
  by_cases field : entry.kind = .field <;> simp [fields, grow, field]

/-- A variable that is placed below a class is declared in the scope of the class. -/
theorem scope_grow_field {tree : Tree} {entry : Entry} (inClass : tree.entry.kind = .classBlock)
    (field : entry.kind = .field) (declares : entry.declares = true) :
    (tree.grow entry).scope = tree.scope.keep entry := by
  have added : (tree.grow entry).declarations = tree.declarations ++ [entry] := by
    have same : (tree.grow entry).entry = tree.entry := rfl
    rw [declarations, declarations, fields_grow, same, if_pos inClass, if_pos inClass,
      if_pos field, ← List.cons_append, List.filter_append]
    simp [declares]
  rw [scope, added, List.foldl_append]
  rfl

theorem scope_grow_other (tree : Tree) {entry : Entry}
    (other : entry.kind = .field → entry.declares = false) :
    (tree.grow entry).scope = tree.scope := by
  have same : (tree.grow entry).declarations = tree.declarations := by
    have top : (tree.grow entry).entry = tree.entry := rfl
    rw [declarations, declarations, fields_grow, top]
    by_cases inClass : tree.entry.kind = .classBlock
    · by_cases field : entry.kind = .field
      · simp [inClass, field, other field, List.filter_cons]
      · simp [inClass, field]
    · simp [inClass]
  rw [scope, same]
  rfl

theorem scopes_cons_of_opens {tree : Tree} (opens : tree.entry.kind.opensScope = true)
    (rest : List Tree) :
    scopes (tree :: rest) = tree.scope :: scopes rest := by
  simp [scopes, opens]

theorem scopes_cons_of_closed {tree : Tree} (closed : tree.entry.kind.opensScope = false)
    (rest : List Tree) :
    scopes (tree :: rest) = scopes rest := by
  simp [scopes, closed]

/-- A line that is no deeper than a tree ends the scope of the tree. -/
theorem dropWhile_scopes_cons {tree : Tree} {indent : Int} (ends : indent ≤ tree.entry.indent)
    (rest : List Tree) :
    (scopes (tree :: rest)).dropWhile (fun scope => scope.endsAt indent) =
      (scopes rest).dropWhile fun scope => scope.endsAt indent := by
  cases opens : tree.entry.kind.opensScope with
  | true =>
      rw [scopes_cons_of_opens opens, List.dropWhile_cons_of_pos]
      simpa [Scope.endsAt] using ends
  | false => rw [scopes_cons_of_closed opens]

end Tree

/-! ## The open path -/

namespace Position

/-- The trees around a tree that stands last in them, from the inside to the root. -/
def outer (inner : Tree) : List Block → List Tree
  | [] => []
  | parent :: further => parent.close (some inner) :: outer (parent.close (some inner)) further

/-- The trees of the open blocks, from the inside to the root. -/
def openTrees (position : Position) : List Tree :=
  position.block.close position.latest ::
    outer (position.block.close position.latest) position.enclosing

/-- The latest child and the trees of the open blocks, from the inside to the root. -/
def lineage (position : Position) : List Tree :=
  position.latest.toList ++ position.openTrees

theorem map_entry_openTrees (position : Position) :
    position.openTrees.map Tree.entry = position.path := by
  have around (inner : Tree) (enclosing : List Block) :
      (outer inner enclosing).map Tree.entry = enclosing.map Block.entry := by
    induction enclosing generalizing inner with
    | nil => rfl
    | cons parent further induction => simp [outer, induction, Block.close]
  simp [openTrees, path, around, container, Position.around, Block.close]

/-- The scopes around a tree do not depend on what stands below it. -/
theorem scopes_outer {inner other : Tree} (same : inner.entry = other.entry)
    (enclosing : List Block) :
    Tree.scopes (outer inner enclosing) = Tree.scopes (outer other enclosing) := by
  induction enclosing generalizing inner other with
  | nil => rfl
  | cons parent further induction =>
      have scope : (parent.close (some inner)).scope = (parent.close (some other)).scope := by
        apply Tree.scope_congr
        · rfl
        · simp [Block.close, same]
      have rest := @induction (parent.close (some inner)) (parent.close (some other)) rfl
      cases opens : parent.entry.kind.opensScope with
      | true =>
          rw [outer, outer, Tree.scopes_cons_of_opens opens, Tree.scopes_cons_of_opens opens, scope,
            rest]
      | false =>
          rw [outer, outer, Tree.scopes_cons_of_closed opens, Tree.scopes_cons_of_closed opens,
            rest]

/-- The scopes that belong to a position. -/
def scopes (position : Position) : Scopes where
  inner := Tree.scopes position.lineage

/-! ## Moves -/

theorem lineage_leaveBlock {position : Position} {parent : Block} {further : List Block}
    (enclosing : position.enclosing = parent :: further) :
    (position.leaveBlock parent further).lineage = position.openTrees := by
  simp [lineage, openTrees, leaveBlock, enclosing, outer]

theorem lineage_openChild {position : Position} {child : Tree}
    (latest : position.latest = some child) :
    (position.openChild child).lineage = position.lineage := by
  have entered :
      Block.close { entry := child.entry, finished := child.children.reverse } none = child := by
    cases child
    simp [Block.close]
  simp [lineage, openTrees, openChild, latest, entered, outer]

/-- A line that is not deeper than the innermost block ends the scope of the latest child. -/
theorem Grounded.leaveTo_scopes {position : Position} (grounded : position.Grounded) {indent : Int}
    (shallow : indent ≤ position.column) :
    position.scopes.leaveTo indent =
      ({ inner := Tree.scopes position.openTrees } : Scopes).leaveTo indent := by
  cases latest : position.latest with
  | none => simp [scopes, lineage, latest]
  | some child =>
      have ends : indent ≤ child.entry.indent :=
        shallow.trans_eq (grounded.latest_indent latest).symm
      simp [scopes, lineage, latest, Scopes.leaveTo, Tree.dropWhile_scopes_cons ends]

/-- A line leaves blocks and ends scopes in step. -/
theorem Reaches.leaveTo_scopes {indent : Int} {position reached : Position}
    (reaches : Reaches indent position reached) (grounded : position.Grounded) :
    position.scopes.leaveTo indent = reached.scopes.leaveTo indent := by
  induction reaches with
  | stay => rfl
  | leave enclosing outside later induction =>
      rw [← induction (grounded.leaveBlock enclosing), grounded.leaveTo_scopes outside.le, scopes,
        lineage_leaveBlock enclosing]
  | enter latest container deeper aligned => rw [scopes, scopes, lineage_openChild latest]

/-- The open blocks begin before the column of the innermost one. -/
theorem Grounded.not_endsAt {position : Position} (grounded : position.Grounded) :
    ∀ scope ∈ Tree.scopes position.openTrees, scope.endsAt position.column = false := by
  intro scope member
  simp only [Tree.scopes, List.mem_map, List.mem_filter] at member
  rcases member with ⟨tree, ⟨known, opens⟩, rfl⟩
  have onPath : tree.entry ∈ position.path :=
    position.map_entry_openTrees ▸ List.mem_map_of_mem known
  have notRoot : tree.entry.kind ≠ .root := by
    intro root
    rw [root] at opens
    exact absurd opens (by decide)
  have inside := grounded.bodyIndent_le onPath
  rw [Entry.bodyIndent_of_ne_root notRoot, indentUnit] at inside
  simp only [Scope.endsAt, Tree.scope_owner, Option.any_some, decide_eq_false_iff_not]
  omega

/-- Where a line arrives, the open blocks alone have scopes left. -/
theorem Grounded.leaveTo_column {position : Position} (grounded : position.Grounded) :
    position.scopes.leaveTo position.column = { inner := Tree.scopes position.openTrees } := by
  have stays : (Tree.scopes position.openTrees).dropWhile
      (fun scope => scope.endsAt position.column) = Tree.scopes position.openTrees := by
    rw [List.dropWhile_eq_self_iff]
    intro nonempty
    rw [grounded.not_endsAt _ (List.getElem_mem nonempty)]
    exact Bool.false_ne_true
  rw [grounded.leaveTo_scopes le_rfl, Scopes.leaveTo, stays]

/-! ## Placing -/

theorem openTrees_place (position : Position) (entry : Entry) :
    (position.place entry).openTrees =
      (position.block.close position.latest).grow entry ::
        outer ((position.block.close position.latest).grow entry) position.enclosing := by
  simp [openTrees, place, Block.close, children, Tree.grow]

theorem scopes_place_of_other (position : Position) {entry : Entry}
    (other : entry.kind = .field → entry.declares = false) :
    Tree.scopes (position.place entry).openTrees = Tree.scopes position.openTrees := by
  have around := @scopes_outer ((position.block.close position.latest).grow entry)
    (position.block.close position.latest) rfl position.enclosing
  rw [openTrees_place, openTrees]
  cases opens : position.block.entry.kind.opensScope with
  | true =>
      rw [Tree.scopes_cons_of_opens opens, Tree.scopes_cons_of_opens opens, around,
        Tree.scope_grow_other _ other]
  | false => rw [Tree.scopes_cons_of_closed opens, Tree.scopes_cons_of_closed opens, around]

theorem scopes_place_of_field {position : Position} {entry : Entry}
    (inClass : position.container.kind = .classBlock) (field : entry.kind = .field)
    (declares : entry.declares = true) :
    ∃ scope around, Tree.scopes position.openTrees = scope :: around ∧
      Tree.scopes (position.place entry).openTrees = scope.keep entry :: around := by
  have around := @scopes_outer ((position.block.close position.latest).grow entry)
    (position.block.close position.latest) rfl position.enclosing
  have opens : position.block.entry.kind.opensScope = true := by
    rw [show position.block.entry.kind = .classBlock from inClass]
    rfl
  refine ⟨(position.block.close position.latest).scope, _, Tree.scopes_cons_of_opens opens _, ?_⟩
  rw [openTrees_place, Tree.scopes_cons_of_opens opens, around,
    Tree.scope_grow_field inClass field declares]

end Position

namespace Reading

variable {reading : Reading} {entry : Entry}

/-- A variable is declared in the innermost scope, unless its name is taken there. -/
theorem attach_of_field {scope : Scope} {around : List Scope}
    (inner : reading.scopes.inner = scope :: around) (closed : entry.kind.opensScope = false)
    (declares : entry.declares = true) :
    (reading.attach entry).scopes =
      { inner := scope.keep entry :: around, root := reading.scopes.root } := by
  have current : reading.scopes.current = scope := by
    simp [Scopes.current, inner]
  cases found : scope.find? entry.name with
  | none =>
      rw [(attach_of_free reading closed declares (current ▸ found)).1, current]
      simp [Scopes.replaceCurrent, inner, Scope.keep, found]
  | some first =>
      rw [(attach_of_taken reading closed declares (current ▸ found)).1]
      simp [← inner, Scope.keep, found]

/-- Placing a node opens and declares what belongs to the new position. -/
theorem attach_scopes
    (scopes : reading.scopes = { inner := Tree.scopes reading.position.openTrees })
    (admitted : reading.position.admits entry.kind = true) :
    (reading.attach entry).scopes = (reading.position.place entry).scopes := by
  have leaf : (reading.position.place entry).scopes =
      { inner := Tree.scopes (⟨entry, []⟩ :: (reading.position.place entry).openTrees) } := rfl
  rw [leaf]
  cases opens : entry.kind.opensScope with
  | true =>
      have other : entry.kind = .field → entry.declares = false := by
        intro field
        rw [field] at opens
        exact absurd opens (by decide)
      rw [(attach_of_opensScope reading opens).1, Tree.scopes_cons_of_opens opens,
        Position.scopes_place_of_other _ other, Tree.scope_leaf, scopes]
  | false =>
      rw [Tree.scopes_cons_of_closed opens]
      cases declares : entry.declares with
      | false =>
          rw [(attach_of_not_declares reading opens declares).1,
            Position.scopes_place_of_other _ fun _ => declares, scopes]
      | true =>
          have field : entry.kind = .field := by
            simp only [Entry.declares, Bool.and_eq_true] at declares
            have may := declares.1
            cases kind : entry.kind <;> simp [kind, Kind.opensScope, Kind.mayDeclare] at opens may
            rfl
          have inClass : reading.position.container.kind = .classBlock := by
            apply Grammar.eq_classBlock_of_admits_field
            rw [← field]
            exact admitted
          rcases Position.scopes_place_of_field inClass field declares with
            ⟨scope, around, before, after⟩
          have inner : reading.scopes.inner = scope :: around := by
            rw [scopes, before]
          rw [attach_of_field inner opens declares, after, scopes]

end Reading

/-! ## The path to a node -/

/-- The trees from a tree down to that of a node, each right below the one before it. -/
structure Tree.IsPath (tree : Tree) (node : Entry) (path : List Tree) : Prop where
  first : path.head? = some tree
  chain : path.IsChain fun parent child => child ∈ parent.children
  last : path.getLast?.map Tree.entry = some node

/--
A scope belongs to the tree of its owner.  The scope of a class holds the name
of the class and those of its variables, each bound to the node that comes first.
The scope of a function holds the name of the function at most.
-/
structure Scope.BelongsTo (scope : Scope) (tree : Tree) : Prop where
  owner : scope.owner = some tree.entry
  distinct : scope.IsDistinct
  ofClass : tree.entry.kind = .classBlock → ∀ name, scope.find? name =
    ((tree.entry :: tree.fields).filter Entry.declares).find? fun entry => entry.name = name
  ofFunction : tree.entry.kind = .function →
    scope.declarations = if tree.entry.declares then [tree.entry] else []

theorem Tree.scope_belongsTo (tree : Tree) : tree.scope.BelongsTo tree where
  owner := tree.scope_owner
  distinct := by
    apply Scope.IsDistinct.foldl_keep
    exact List.nodup_nil
  ofClass := by
    intro inClass name
    rw [scope_find?, declarations, if_pos inClass]
  ofFunction := by
    intro function
    have notClass : tree.entry.kind ≠ .classBlock := by simp [function]
    cases declares : tree.entry.declares <;>
      simp [scope, declarations, notClass, declares, Scope.keep, Scope.find?, Scope.add]

namespace Position

theorem getLast?_outer (inner : Tree) (enclosing : List Block) :
    (inner :: outer inner enclosing).getLast? = some (closeAll inner enclosing) := by
  induction enclosing generalizing inner with
  | nil => rfl
  | cons parent further induction =>
      rw [outer, List.getLast?_cons_cons, induction, closeAll_cons]

/-- Each open tree is the last child of the one around it. -/
theorem isChain_outer (inner : Tree) (enclosing : List Block) :
    (inner :: outer inner enclosing).IsChain fun child parent =>
      parent.children.getLast? = some child := by
  induction enclosing generalizing inner with
  | nil => exact List.isChain_singleton _
  | cons parent further induction =>
      refine List.isChain_cons_cons.mpr ⟨?_, induction _⟩
      simp [Block.close]

/-- The lineage of a position is the path to the latest child. -/
theorem isPath_lineage {position : Position} {child : Tree}
    (latest : position.latest = some child) :
    position.toTree.IsPath child.entry position.lineage.reverse where
  first := by
    rw [List.head?_reverse, lineage, latest]
    exact getLast?_outer _ _
  chain := by
    rw [List.isChain_reverse, lineage, latest]
    refine List.isChain_cons_cons.mpr ⟨?_, (isChain_outer _ _).imp ?_⟩
    · simp [Block.close, latest]
    · exact fun child parent last => List.mem_of_getLast? last
  last := by
    rw [List.getLast?_reverse, lineage, latest]
    rfl

end Position

end Outline
