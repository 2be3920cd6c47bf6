import Outline.Position

/-!
# Placements

Every node of a tree but the topmost one has been placed somewhere: below a
parent, inside the nodes around that parent, and after some siblings.  The
placements of a tree, in the order of the document, hold all that the grammar
and the indentation say about it.

The main statement is that placing a node at a position adds one placement at
the end and changes no other one, while moving through the tree changes none.
-/

namespace Outline

/--
Where a node stands in a tree: its parent, the nodes around the parent from the
inside to the topmost one, the nodes before it below the same parent in the
order of the document, and the node itself.
-/
structure Placement where
  parent : Entry
  around : List Entry
  earlier : List Entry
  child : Entry
  deriving DecidableEq

namespace Tree

mutual

/--
The placements of a tree that stands inside the nodes `around`, a node before
all that stands below it.
-/
def placements (around : List Entry) : Tree → List Placement
  | ⟨entry, children⟩ => placementsAmong around entry [] children

/-- The placements of the trees that stand below `parent` after the nodes `earlier`. -/
def placementsAmong (around : List Entry) (parent : Entry) (earlier : List Entry) :
    List Tree → List Placement
  | [] => []
  | child :: rest =>
    { parent, around, earlier, child := child.entry } ::
      (placements (parent :: around) child
        ++ placementsAmong around parent (earlier ++ [child.entry]) rest)

end

@[simp]
theorem placements_mk (around : List Entry) (entry : Entry) (children : List Tree) :
    placements around ⟨entry, children⟩ = placementsAmong around entry [] children := by
  simp only [placements]

@[simp]
theorem placementsAmong_nil (around : List Entry) (parent : Entry) (earlier : List Entry) :
    placementsAmong around parent earlier [] = [] := by
  simp only [placementsAmong]

@[simp]
theorem placementsAmong_cons
    (around : List Entry) (parent : Entry) (earlier : List Entry) (child : Tree)
    (rest : List Tree) :
    placementsAmong around parent earlier (child :: rest) =
      { parent, around, earlier, child := child.entry } ::
        (placements (parent :: around) child
          ++ placementsAmong around parent (earlier ++ [child.entry]) rest) := by
  simp only [placementsAmong]

theorem placementsAmong_append
    (around : List Entry) (parent : Entry) (earlier : List Entry) (first second : List Tree) :
    placementsAmong around parent earlier (first ++ second) =
      placementsAmong around parent earlier first
        ++ placementsAmong around parent (earlier ++ first.map Tree.entry) second := by
  induction first generalizing earlier with
  | nil => simp
  | cons child rest induction =>
      simp [induction, List.append_assoc]

mutual

/-- The pairs of a node and its parent are those of the placements. -/
theorem preorder_eq_placements (above : Option Entry) (around : List Entry) (tree : Tree) :
    tree.preorder above =
      (above, tree.entry) :: (tree.placements around).map
        fun placement => (some placement.parent, placement.child) := by
  match tree with
  | ⟨entry, children⟩ =>
      rw [preorder, preorderAll_eq_placements entry around [] children, placements_mk]

theorem preorderAll_eq_placements
    (parent : Entry) (around earlier : List Entry) (children : List Tree) :
    preorderAll parent children =
      (placementsAmong around parent earlier children).map
        fun placement => (some placement.parent, placement.child) := by
  match children with
  | [] =>
      simp [preorderAll]
  | child :: rest =>
      rw [preorderAll, preorder_eq_placements (some parent) (parent :: around) child,
        preorderAll_eq_placements parent around (earlier ++ [child.entry]) rest]
      simp

end

/-- The nodes of a tree are its topmost one and those that are placed. -/
theorem entries_eq_placements (around : List Entry) (tree : Tree) :
    tree.entries = tree.entry :: (tree.placements around).map Placement.child := by
  rw [entries, preorder_eq_placements none around]
  simp [Function.comp_def]

/-- A node right below the top of a tree is placed after the nodes before it. -/
theorem placement_mem_of_children
    (around : List Entry) {tree child : Tree} {before after : List Tree}
    (children : tree.children = before ++ child :: after) :
    ⟨tree.entry, around, before.map Tree.entry, child.entry⟩ ∈ tree.placements around := by
  rcases tree with ⟨entry, below⟩
  simp only at children
  subst below
  simp [placementsAmong_append]

end Tree

namespace Position

/-- The nodes around the innermost open block, from the inside to the root. -/
def around (position : Position) : List Entry :=
  position.enclosing.map Block.entry

/-- The placement of a node that is placed at a position. -/
def placement (position : Position) (entry : Entry) : Placement where
  parent := position.container
  around := position.around
  earlier := (position.children.map Tree.entry).reverse
  child := entry

@[simp]
theorem placement_parent (position : Position) (entry : Entry) :
    (position.placement entry).parent = position.container :=
  rfl

@[simp]
theorem placement_child (position : Position) (entry : Entry) :
    (position.placement entry).child = entry :=
  rfl

/-- Closes blocks, from the inside, around a tree. -/
def closeAll (inner : Tree) (enclosing : List Block) : Tree :=
  enclosing.foldl (fun child parent => parent.close (some child)) inner

theorem toTree_eq_closeAll (position : Position) :
    position.toTree = closeAll (position.block.close position.latest) position.enclosing :=
  rfl

@[simp]
theorem closeAll_cons (inner : Tree) (parent : Block) (further : List Block) :
    closeAll inner (parent :: further) = closeAll (parent.close (some inner)) further :=
  rfl

@[simp]
theorem closeAll_nil (inner : Tree) : closeAll inner [] = inner :=
  rfl

theorem initial_entries : initial.toTree.entries = [.root] := by
  simp [initial, toTree, Block.close, Tree.entries, Tree.preorder, Tree.preorderAll]

theorem initial_placements : initial.toTree.placements [] = [] := by
  simp [initial, toTree, Block.close]

theorem close_some_placements (around : List Entry) (parent : Block) (child : Tree) :
    (parent.close (some child)).placements around =
      Tree.placementsAmong around parent.entry [] parent.finished.reverse
        ++ ⟨parent.entry, around, (parent.finished.map Tree.entry).reverse, child.entry⟩
          :: child.placements (parent.entry :: around) := by
  simp [Block.close, Tree.placementsAmong_append]

/--
What is added at the end of the placements of the innermost block is added at
the end of the placements of the whole tree.
-/
theorem closeAll_placements_append
    (enclosing : List Block) (before after : Tree) (added : List Placement)
    (entry : after.entry = before.entry)
    (placements :
      after.placements (enclosing.map Block.entry) =
        before.placements (enclosing.map Block.entry) ++ added) :
    (closeAll after enclosing).placements [] =
      (closeAll before enclosing).placements [] ++ added := by
  induction enclosing generalizing before after with
  | nil =>
      simpa using placements
  | cons parent further induction =>
      rw [closeAll_cons, closeAll_cons]
      apply induction
      · rfl
      · rw [close_some_placements, close_some_placements, entry]
        simp only [List.map_cons] at placements
        simp [placements]

theorem closeAll_entry
    (enclosing : List Block) (before after : Tree) (entry : after.entry = before.entry) :
    (closeAll after enclosing).entry = (closeAll before enclosing).entry := by
  induction enclosing generalizing before after with
  | nil =>
      exact entry
  | cons parent further induction =>
      exact induction _ _ rfl

/-- Placing a node adds its placement at the end of the tree's placements. -/
theorem placements_place (position : Position) (entry : Entry) :
    (position.place entry).toTree.placements [] =
      position.toTree.placements [] ++ [position.placement entry] := by
  apply closeAll_placements_append
  · rfl
  · simp [Block.close, place, Tree.placementsAmong_append, placement, container, around,
      children]

@[simp]
theorem place_toTree_entry (position : Position) (entry : Entry) :
    (position.place entry).toTree.entry = position.toTree.entry :=
  closeAll_entry _ _ _ rfl

/-- Placing a node adds its entry at the end of the tree's entries. -/
theorem entries_place (position : Position) (entry : Entry) :
    (position.place entry).toTree.entries = position.toTree.entries ++ [entry] := by
  rw [Tree.entries_eq_placements [], Tree.entries_eq_placements [], placements_place]
  simp [placement]

end Position

end Outline
