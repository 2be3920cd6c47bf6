import Outline.Proofs.Soundness

/-!
# Building a tree from its listing

A tree whose nodes stand where their parents admit them is built again from its
listing, the nodes in the order of the document.  `Builds` places the nodes of a
list one after the other, each at a position that it reaches.

The main statement is an induction over trees and lists of trees.  When a tree
has been built, the position has gone inside the tree, and from there it reaches
the place after the tree again.
-/

namespace Outline

/-- A node stands at the column and after the siblings that its parent admits. -/
structure Placement.Fits (placement : Placement) : Prop where
  aligned : placement.child.indent = placement.parent.bodyIndent
  admitted :
    Grammar.admits placement.parent.kind (placement.earlier.map Entry.kind).reverse
      placement.child.kind = true

theorem Placement.IsSound.fits {lines : List Line} {placement : Placement}
    (sound : placement.IsSound lines) :
    placement.Fits where
  aligned := sound.aligned
  admitted := sound.admitted

namespace Tree

theorem placementsAmong_children (around : List Entry) (parent : Entry) (earlier : List Entry)
    (children : List Tree) :
    (placementsAmong around parent earlier children).map Placement.child =
      children.flatMap Tree.entries := by
  induction children generalizing earlier with
  | nil => simp
  | cons child rest induction =>
      simp [induction, entries_eq_placements (parent :: around)]

theorem entries_mk (entry : Entry) (children : List Tree) :
    Tree.entries ⟨entry, children⟩ = entry :: children.flatMap Tree.entries := by
  rw [entries_eq_placements [], placements_mk, placementsAmong_children]

end Tree

namespace Position

/-! ## Whole trees at a position -/

/-- Puts a tree after the children of the innermost open block. -/
def append (position : Position) (tree : Tree) : Position :=
  { position with
    block := { position.block with finished := position.children }
    latest := some tree }

/-- Puts trees one after the other. -/
def appendAll (position : Position) (trees : List Tree) : Position :=
  trees.foldl append position

@[simp]
theorem appendAll_cons (position : Position) (tree : Tree) (rest : List Tree) :
    position.appendAll (tree :: rest) = (position.append tree).appendAll rest :=
  rfl

@[simp]
theorem appendAll_container (position : Position) (trees : List Tree) :
    (position.appendAll trees).container = position.container := by
  induction trees generalizing position with
  | nil => rfl
  | cons tree rest induction => exact induction (position.append tree)

@[simp]
theorem appendAll_column (position : Position) (trees : List Tree) :
    (position.appendAll trees).column = position.column := by
  rw [column, column, appendAll_container]

@[simp]
theorem appendAll_enclosing (position : Position) (trees : List Tree) :
    (position.appendAll trees).enclosing = position.enclosing := by
  induction trees generalizing position with
  | nil => rfl
  | cons tree rest induction => exact induction (position.append tree)

@[simp]
theorem appendAll_children (position : Position) (trees : List Tree) :
    (position.appendAll trees).children = trees.reverse ++ position.children := by
  induction trees generalizing position with
  | nil => rfl
  | cons tree rest induction =>
      rw [appendAll_cons, induction]
      simp [append, children]

/-- A block that is opened and left again is as it was. -/
theorem openChild_leaveBlock {position : Position} {child : Tree}
    (latest : position.latest = some child) :
    (position.openChild child).leaveBlock position.block position.enclosing = position := by
  rcases position with ⟨block, same, enclosing⟩
  rcases child with ⟨entry, children⟩
  simp only at latest
  simp [openChild, leaveBlock, Block.close, latest]

/-- Filling a new block and leaving it puts the whole tree of the block. -/
theorem leaveBlock_appendAll (position : Position) (entry : Entry) (trees : List Tree) :
    (((position.place entry).openChild ⟨entry, []⟩).appendAll trees).leaveBlock
        (position.place entry).block position.enclosing =
      position.append ⟨entry, trees⟩ := by
  have inside := appendAll_children ((position.place entry).openChild ⟨entry, []⟩) trees
  have opened := appendAll_container ((position.place entry).openChild ⟨entry, []⟩) trees
  generalize ((position.place entry).openChild ⟨entry, []⟩).appendAll trees = filled
    at inside opened
  simp only [children, container, openChild] at inside opened
  simp [leaveBlock, Block.close, inside, opened, place, append]

/-! ## Building -/

/-- From a position inside a block, a line reaches what it would reach from the block. -/
theorem Reaches.outer {indent outer : Int} {position reached final : Position}
    (reaches : Reaches indent position reached) (later : Reaches outer reached final)
    (shallower : outer ≤ indent) (outside : outer < reached.column) :
    Reaches outer position final := by
  induction reaches with
  | stay => exact later
  | leave enclosing left further induction =>
      exact .leave enclosing (shallower.trans_lt left) (induction later outside)
  | @enter position child latest container deeper aligned =>
      cases later with
      | stay inside =>
          rcases inside with impossible | inside
          · simp [openChild] at impossible
          · exact absurd outside inside.not_gt
      | leave enclosing left further =>
          simp only [openChild, List.cons.injEq] at enclosing
          rcases enclosing with ⟨rfl, rfl⟩
          exact openChild_leaveBlock latest ▸ further
      | enter known accepts inside => exact absurd outside inside.not_gt

/-- Placing nodes one after the other leads from a position to another one. -/
inductive Builds : List Entry → Position → Position → Prop where
  | nil {position : Position} : Builds [] position position
  | cons {entry : Entry} {rest : List Entry} {position reached final : Position}
      (reaches : Reaches entry.indent position reached)
      (column : reached.column = entry.indent)
      (admitted : reached.admits entry.kind = true)
      (later : Builds rest (reached.place entry) final) :
      Builds (entry :: rest) position final

theorem Builds.append {first second : List Entry} {position middle final : Position}
    (before : Builds first position middle) (after : Builds second middle final) :
    Builds (first ++ second) position final := by
  induction before with
  | nil => exact after
  | cons reaches column admitted later induction =>
      exact .cons reaches column admitted (induction after)

mutual

/-- A tree whose nodes fit is built from its listing at any place that admits it. -/
theorem builds_tree (around : List Entry) (tree : Tree)
    (fits : ∀ placement ∈ tree.placements around, placement.Fits) {position reached : Position}
    (reaches : Reaches tree.entry.indent position reached)
    (column : reached.column = tree.entry.indent)
    (admitted : reached.admits tree.entry.kind = true) :
    ∃ final, Builds tree.entries position final ∧
      Reaches tree.entry.indent final (reached.append tree) := by
  match tree with
  | ⟨entry, []⟩ =>
      refine ⟨reached.place entry, ?_, .stay (.inr column.le)⟩
      rw [Tree.entries_mk]
      exact .cons reaches column admitted .nil
  | ⟨entry, first :: rest⟩ =>
      have deeper : entry.indent < entry.bodyIndent := by
        rw [Entry.bodyIndent_of_ne_root (Grammar.ne_root_of_admits admitted)]
        simp [indentUnit]
      have container : entry.kind.isContainer = true := by
        rw [Tree.placements_mk, Tree.placementsAmong_cons] at fits
        exact Grammar.isContainer_of_admits (fits _ List.mem_cons_self).admitted
      have entered : Reaches ((reached.place entry).openChild ⟨entry, []⟩).column
          (reached.place entry) ((reached.place entry).openChild ⟨entry, []⟩) :=
        .enter rfl container (column.trans_lt deeper) rfl
      rcases builds_forest around (first :: rest) entered fits with ⟨final, built, back⟩
      refine ⟨final, ?_, ?_⟩
      · rw [Tree.entries_mk]
        exact .cons reaches column admitted built
      · have outside : entry.indent < (((reached.place entry).openChild ⟨entry, []⟩).appendAll
            (first :: rest)).column := by
          rw [appendAll_column]
          exact deeper
        -- The way back leaves the block of the tree, and so puts the whole tree.
        refine back.outer (.leave (appendAll_enclosing _ _) outside ?_) deeper.le outside
        exact leaveBlock_appendAll reached entry (first :: rest) ▸ .stay (.inr column.le)

/-- Trees whose nodes fit are built from their listings one after the other. -/
theorem builds_forest (around : List Entry) (trees : List Tree) {position reached : Position}
    (reaches : Reaches reached.column position reached)
    (fits : ∀ placement ∈ Tree.placementsAmong around reached.container
      (reached.children.map Tree.entry).reverse trees, placement.Fits) :
    ∃ final, Builds (trees.flatMap Tree.entries) position final ∧
      Reaches reached.column final (reached.appendAll trees) := by
  match trees with
  | [] =>
      exact ⟨position, .nil, reaches⟩
  | tree :: rest =>
      simp only [Tree.placementsAmong_cons, List.mem_cons, List.mem_append] at fits
      have fitting := fits _ (.inl rfl)
      have aligned : tree.entry.indent = reached.column := fitting.aligned
      have admitted : reached.admits tree.entry.kind = true := by
        simpa [admits, Function.comp_def] using fitting.admitted
      rcases builds_tree (reached.container :: around) tree
        (fun placement member => fits placement (.inr (.inl member))) (aligned ▸ reaches)
        aligned.symm admitted with ⟨middle, first, back⟩
      have further : ∀ placement ∈ Tree.placementsAmong around (reached.append tree).container
          ((reached.append tree).children.map Tree.entry).reverse rest, placement.Fits := by
        intro placement member
        refine fits placement (.inr (.inr ?_))
        simpa [append, children, container] using member
      rcases builds_forest around rest (aligned ▸ back) further with ⟨final, second, after⟩
      exact ⟨final, by simpa using first.append second, after⟩

end

/-- A tree below the root whose nodes fit is built from its listing. -/
theorem exists_builds {tree : Tree} (root : tree.entry = .root)
    (fits : ∀ placement ∈ tree.placements [], placement.Fits) :
    ∃ final, Builds tree.entries.tail initial final ∧ final.toTree = tree := by
  rcases tree with ⟨entry, children⟩
  simp only at root
  subst entry
  rw [Tree.placements_mk] at fits
  have start : Reaches initial.column initial initial := .stay (.inl rfl)
  rcases builds_forest [] children start fits with ⟨final, built, back⟩
  refine ⟨final, by simpa [Tree.entries_mk] using built, ?_⟩
  rw [← back.toTree_eq, toTree, appendAll_enclosing]
  have inside := appendAll_children initial children
  have opened := appendAll_container initial children
  generalize initial.appendAll children = filled at inside opened
  simp only [Position.children, container] at inside opened
  simp [Block.close, inside, opened, initial]

end Position

end Outline
