import Outline.Proofs.Closing
import Outline.Proofs.Soundness

/-!
# Open scopes and the last block of a document

A class stands at the top of a document and a function inside a class, so the
open scopes are those of functions inside that of at most one class.  A line
ends them by its column: at the first column all of them, and one unit further
all but that of the class.

The class that is still growing is the last block at the top of the tree.  What
is declared in it is changed only by nodes that are placed right below it.
-/

namespace Outline

/-! ## Where classes and functions stand -/

namespace Grammar

theorem eq_root_of_admits_classBlock {container : Kind} {earlier : List Kind}
    (admitted : admits container earlier .classBlock = true) :
    container = .root := by
  cases container <;> simp [admits, classAdmits, functionAdmits, blockAdmits] at admitted ⊢

/-- Only classes hold what opens a scope or declares a name, and only the root holds classes. -/
theorem not_declares_of_admits {container child : Kind} {earlier : List Kind}
    (admitted : admits container earlier child = true)
    (notRoot : container ≠ .root) (notClass : container ≠ .classBlock) :
    child.opensScope = false ∧ child.mayDeclare = false := by
  cases container <;> cases child <;>
    simp [admits, functionAdmits, blockAdmits] at admitted notRoot notClass <;>
    exact ⟨rfl, rfl⟩

end Grammar

namespace Nested

variable {entry : Entry} {around : List Entry}

theorem eq_root_of_kind (nested : Nested entry around) (kind : entry.kind = .root) :
    entry = .root ∧ around = [] := by
  cases nested with
  | root => exact ⟨rfl, rfl⟩
  | inside outer container fits => exact absurd kind fits.ne_root

/-- A class stands right below the root. -/
theorem around_of_classBlock (nested : Nested entry around) (kind : entry.kind = .classBlock) :
    around = [.root] := by
  cases nested with
  | root => exact absurd kind (by decide)
  | inside outer container fits =>
      rcases fits.admitted with ⟨earlier, admitted⟩
      rw [kind] at admitted
      rcases outer.eq_root_of_kind (Grammar.eq_root_of_admits_classBlock admitted) with
        ⟨rfl, rfl⟩
      rfl

/-- Only a class stands right below the root and accepts children. -/
theorem kind_of_single {parent : Entry} (nested : Nested entry [parent]) :
    entry.kind = .classBlock := by
  rcases nested.of_cons with ⟨outer, fits⟩
  rcases fits.admitted with ⟨earlier, admitted⟩
  have container := nested.isContainer
  rw [outer.eq_root] at admitted
  cases kind : entry.kind <;>
    simp [Grammar.admits, Grammar.rootAdmits, Entry.root, Kind.isContainer, kind]
      at admitted container ⊢

theorem kind_of_deep {parent outer : Entry} {further : List Entry}
    (nested : Nested entry (parent :: outer :: further)) :
    entry.kind ≠ .root ∧ entry.kind ≠ .classBlock := by
  refine ⟨nested.of_cons.2.ne_root, ?_⟩
  intro kind
  simpa using nested.around_of_classBlock kind

end Nested

/-! ## Scopes -/

namespace Scope

/-- The scope that a node opens; it holds the node's own name if there is one. -/
def ofOwner (owner : Entry) : Scope where
  name := owner.name
  owner := some owner
  declarations := if owner.declares then [owner] else []

/-- The scope with one more declaration. -/
def add (scope : Scope) (declaration : Entry) : Scope :=
  { scope with declarations := scope.declarations ++ [declaration] }

/-- The scope finds of each name the first of some nodes that has it. -/
def Names (scope : Scope) (entries : List Entry) : Prop :=
  ∀ name, name ≠ "" → scope.find? name = entries.find? fun entry => entry.name = name

namespace Names

variable {scope : Scope} {entries : List Entry} {entry : Entry}

theorem ofOwner (owner : Entry) (declares : owner.kind.mayDeclare = true) :
    (Scope.ofOwner owner).Names [owner] := by
  intro name named
  by_cases unnamed : owner.name = ""
  · simp [Scope.ofOwner, Entry.declares, unnamed, find?, named]
  · simp [Scope.ofOwner, Entry.declares, declares, unnamed, find?]

theorem add (names : scope.Names entries) : (scope.add entry).Names (entries ++ [entry]) := by
  intro name named
  rw [List.find?_append, ← names name named]
  simp [Scope.add, find?]

theorem of_unnamed (names : scope.Names entries) (unnamed : entry.name = "") :
    scope.Names (entries ++ [entry]) := by
  intro name named
  have other : entry.name ≠ name := fun same => named (same ▸ unnamed)
  rw [List.find?_append, ← names name named]
  simp [other]

/-- A declaration whose name has been taken changes nothing. -/
theorem of_taken (names : scope.Names entries) {first : Entry}
    (taken : scope.find? entry.name = some first) :
    scope.Names (entries ++ [entry]) := by
  intro name named
  rw [List.find?_append, ← names name named]
  by_cases same : entry.name = name
  · rw [← same, taken]
    rfl
  · simp [same]

end Names

end Scope

namespace Scopes

@[simp]
theorem leaveTo_root (scopes : Scopes) (indent : Int) :
    (scopes.leaveTo indent).root = scopes.root :=
  rfl

/-- A line ends all scopes that a deeper line ends. -/
theorem leaveTo_leaveTo (scopes : Scopes) {inner outer : Int} (shallower : outer ≤ inner) :
    (scopes.leaveTo inner).leaveTo outer = scopes.leaveTo outer := by
  rw [leaveTo_min, min_eq_right shallower]

theorem replaceCurrent_current (scopes : Scopes) :
    scopes.replaceCurrent scopes.current = scopes := by
  rcases scopes with ⟨inner, root⟩
  cases inner <;> rfl

/-- The open scopes are some of functions and, around them, those of `classes`. -/
def Layered (scopes : Scopes) (classes : List Scope) : Prop :=
  ∃ functions, scopes.inner = functions ++ classes ∧
    (∀ scope ∈ functions, ∃ owner, scope.owner = some owner ∧ indentUnit ≤ owner.indent) ∧
    ∀ scope ∈ classes, ∃ owner, scope.owner = some owner ∧ owner.indent = 0

namespace Layered

variable {scopes : Scopes} {classes : List Scope}

/-- A line at the first column ends all scopes. -/
theorem leaveTo_zero (layered : scopes.Layered classes) : (scopes.leaveTo 0).inner = [] := by
  rcases layered with ⟨functions, inner, deep, shallow⟩
  simp only [leaveTo, inner, List.dropWhile_eq_nil_iff, List.mem_append]
  rintro scope (member | member)
  · rcases deep scope member with ⟨owner, owned, indent⟩
    simp only [Scope.endsAt, owned, Option.any_some, decide_eq_true_eq]
    exact (Int.natCast_nonneg _).trans indent
  · rcases shallow scope member with ⟨owner, owned, indent⟩
    simp [Scope.endsAt, owned, indent]

/-- A line further right does not end the scope of a class. -/
theorem dropWhile_classes (layered : scopes.Layered classes) {indent : Int}
    (inside : 0 < indent) :
    classes.dropWhile (fun scope => scope.endsAt indent) = classes := by
  rcases layered with ⟨functions, inner, deep, shallow⟩
  cases classes with
  | nil => rfl
  | cons scope rest =>
      rcases shallow scope List.mem_cons_self with ⟨owner, owned, column⟩
      have stays : scope.endsAt indent = false := by
        simpa [Scope.endsAt, owned, column] using inside
      simp [stays]

theorem leaveTo (layered : scopes.Layered classes) {indent : Int} (inside : 0 < indent) :
    (scopes.leaveTo indent).Layered classes := by
  have kept := layered.dropWhile_classes inside
  rcases layered with ⟨functions, inner, deep, shallow⟩
  refine ⟨functions.dropWhile fun scope => scope.endsAt indent, ?_, ?_, shallow⟩
  · simp only [Scopes.leaveTo, inner, List.dropWhile_append, kept]
    split
    · next ended => simp [List.isEmpty_iff.mp ended]
    · rfl
  · exact fun scope member => deep scope ((List.dropWhile_suffix _).subset member)

/-- A line in the body of a class ends the scopes of all functions. -/
theorem leaveTo_unit (layered : scopes.Layered classes) :
    (scopes.leaveTo indentUnit).inner = classes := by
  have inside : (0 : Int) < indentUnit := by decide
  have kept := layered.dropWhile_classes inside
  rcases layered with ⟨functions, inner, deep, shallow⟩
  have ended : functions.dropWhile (fun scope => scope.endsAt indentUnit) = [] := by
    rw [List.dropWhile_eq_nil_iff]
    intro scope member
    rcases deep scope member with ⟨owner, owned, column⟩
    simpa [Scope.endsAt, owned] using column
  simp [Scopes.leaveTo, inner, List.dropWhile_append, ended, kept]

end Layered

end Scopes

/-! ## What attaching declares -/

namespace Reading

variable (reading : Reading) {entry : Entry}

theorem attach_of_opensScope (opens : entry.kind.opensScope = true) :
    (reading.attach entry).scopes =
        { reading.scopes with inner := .ofOwner entry :: reading.scopes.inner } ∧
      (reading.attach entry).findings = reading.findings := by
  cases declares : entry.declares <;>
    simp [attach, openScope, opens, record, declare, declares, Scopes.declare, Scopes.enter,
      Scopes.current, Scope.declare, Scope.find?, Except.map, Scopes.replaceCurrent,
      Scope.ofOwner]

theorem attach_of_not_declares (closed : entry.kind.opensScope = false)
    (silent : entry.declares = false) :
    (reading.attach entry).scopes = reading.scopes ∧
      (reading.attach entry).findings = reading.findings := by
  simp [attach, openScope, closed, declare, silent]

theorem attach_of_free (closed : entry.kind.opensScope = false)
    (declares : entry.declares = true)
    (free : reading.scopes.current.find? entry.name = none) :
    (reading.attach entry).scopes =
        reading.scopes.replaceCurrent (reading.scopes.current.add entry) ∧
      (reading.attach entry).findings = reading.findings := by
  simp [attach, openScope, closed, declare, declares, Scopes.declare, Scope.declare, free,
    Except.map, Scope.add]

theorem attach_of_taken (closed : entry.kind.opensScope = false)
    (declares : entry.declares = true) {first : Entry}
    (taken : reading.scopes.current.find? entry.name = some first) :
    (reading.attach entry).scopes = reading.scopes ∧
      (reading.attach entry).findings =
        { lineNumber := entry.lineNumber
          problem := .alreadyDefined entry.name first.lineNumber } :: reading.findings := by
  simp [attach, openScope, closed, declare, declares, Scopes.declare, Scope.declare, taken,
    Except.map, report]

/-- A name that is declared is reported if it is known, and is known from then on. -/
theorem attach_of_declares (closed : entry.kind.opensScope = false)
    (declares : entry.declares = true) {known : List Entry}
    (names : reading.scopes.current.Names known) :
    ∃ scope, (reading.attach entry).scopes = reading.scopes.replaceCurrent scope ∧
      scope.owner = reading.scopes.current.owner ∧ scope.Names (known ++ [entry]) ∧
      (reading.attach entry).findings =
        ((known.find? fun other => other.name = entry.name).map fun first =>
            { lineNumber := entry.lineNumber
              problem := .alreadyDefined entry.name first.lineNumber }).toList
          ++ reading.findings := by
  have named : entry.name ≠ "" := by
    simp only [Entry.declares, Bool.and_eq_true, bne_iff_ne] at declares
    exact declares.2
  rw [← names entry.name named]
  cases found : reading.scopes.current.find? entry.name with
  | none =>
      rcases attach_of_free reading closed declares found with ⟨scopes, findings⟩
      exact ⟨reading.scopes.current.add entry, scopes, rfl, names.add, findings⟩
  | some first =>
      rcases attach_of_taken reading closed declares found with ⟨scopes, findings⟩
      refine ⟨reading.scopes.current, ?_, rfl, names.of_taken found, findings⟩
      rw [scopes, Scopes.replaceCurrent_current]

end Reading

/-! ## The last block at the top -/

namespace Position

/-- The last node at the top of the tree and the nodes right below it. -/
def top? (position : Position) : Option (Entry × List Entry) :=
  position.toTree.children.getLast?.map fun tree => (tree.entry, tree.children.map Tree.entry)

theorem Reaches.top?_eq {indent : Int} {position reached : Position}
    (reaches : position.Reaches indent reached) :
    reached.top? = position.top? := by
  simp [top?, reaches.toTree_eq]

theorem mem_entries_of_top? {position : Position} {owner : Entry} {members : List Entry}
    (top : position.top? = some (owner, members)) :
    owner ∈ position.toTree.entries := by
  simp only [top?, Option.map_eq_some_iff, Prod.mk.injEq] at top
  rcases top with ⟨tree, last, rfl, -⟩
  rcases List.getLast?_eq_some_iff.mp last with ⟨before, children⟩
  have placed := Tree.placement_mem_of_children [] children
  rw [Tree.entries_eq_placements []]
  exact List.mem_cons_of_mem _ (List.mem_map_of_mem placed)

theorem top?_place_outermost {position : Position} (outermost : position.enclosing = [])
    (entry : Entry) :
    (position.place entry).top? = some (entry, []) := by
  simp [top?, toTree, place, outermost, Block.close]

theorem top?_of_enclosing {position : Position} {outer : Block}
    (enclosing : position.enclosing = [outer]) :
    position.top? = some (position.container, (position.children.map Tree.entry).reverse) := by
  simp [top?, toTree, enclosing, Block.close, container, children]

theorem top?_place_of_enclosing {position : Position} {outer : Block}
    (enclosing : position.enclosing = [outer]) (entry : Entry) :
    (position.place entry).top? =
      some (position.container, (position.children.map Tree.entry).reverse ++ [entry]) := by
  have placed : (position.place entry).enclosing = [outer] := enclosing
  rw [top?_of_enclosing placed]
  simp [place, children, container]

/-- Trees with equal nodes in their first two levels have equal last blocks when closed. -/
theorem closeAll_getLast? (enclosing : List Block) (nonempty : enclosing ≠ [])
    (before after : Tree) (entry : after.entry = before.entry)
    (children : after.children.map Tree.entry = before.children.map Tree.entry) :
    ((closeAll after enclosing).children.getLast?.map
        fun tree => (tree.entry, tree.children.map Tree.entry)) =
      (closeAll before enclosing).children.getLast?.map
        fun tree => (tree.entry, tree.children.map Tree.entry) := by
  induction enclosing generalizing before after with
  | nil => exact absurd rfl nonempty
  | cons parent further induction =>
      cases further with
      | nil => simp [Block.close, entry, children]
      | cons next rest =>
          rw [closeAll_cons, closeAll_cons]
          apply induction (by simp)
          · rfl
          · simp [Block.close, entry]

theorem top?_place_deep {position : Position} {inner outer : Block} {further : List Block}
    (enclosing : position.enclosing = inner :: outer :: further) (entry : Entry) :
    (position.place entry).top? = position.top? := by
  simp only [top?, toTree_eq_closeAll, place, enclosing]
  rw [closeAll_cons _ inner, closeAll_cons _ inner]
  apply closeAll_getLast? _ (by simp)
  · rfl
  · simp [Block.close]

end Position

end Outline
