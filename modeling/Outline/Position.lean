import Outline.Grammar
import Outline.Finding
import Outline.Tree

/-!
# Positions in a growing tree

While a document is read, its tree is open along one path: from the root down to
the block whose lines are being read.  All that stands to the left of this path
is finished.  A position holds the blocks of the path and, set apart, the node
placed last in the innermost block, because deeper lines belong to it.
-/

namespace Outline

/-- A node whose lines are being read, with the trees that are finished below it. -/
structure Block where
  entry : Entry
  /-- The finished trees, the one placed last first. -/
  finished : List Tree := []

/-- The tree of a block whose last child is given apart. -/
def Block.close (block : Block) (latest : Option Tree) : Tree where
  entry := block.entry
  children := (latest.toList ++ block.finished).reverse

/-- A place where the next node can be put. -/
structure Position where
  /-- The innermost open block. -/
  block : Block
  /-- The child of the innermost block that deeper lines would belong to. -/
  latest : Option Tree := none
  /-- The blocks around the innermost one, from the inside to the root. -/
  enclosing : List Block := []

namespace Position

/-- The position in an empty document. -/
def initial : Position where
  block := { entry := .root }

/-- The entry of the innermost open block. -/
def container (position : Position) : Entry :=
  position.block.entry

/-- The column at which a line belongs to the innermost open block. -/
def column (position : Position) : Int :=
  position.container.bodyIndent

/-- The trees below the innermost open block, the one placed last first. -/
def children (position : Position) : List Tree :=
  position.latest.toList ++ position.block.finished

/-- Whether the grammar admits a node of a kind at the position. -/
def admits (position : Position) (kind : Kind) : Bool :=
  Grammar.admits position.container.kind (position.children.map fun child => child.entry.kind) kind

/-- Places a node after the children of the innermost open block. -/
def place (position : Position) (entry : Entry) : Position :=
  { position with
    block := { position.block with finished := position.children }
    latest := some { entry, children := [] } }

/--
Opens a child of the innermost block again; the child is given apart from its
siblings.
-/
def openChild (position : Position) (child : Tree) : Position where
  block := { entry := child.entry, finished := child.children.reverse }
  enclosing := position.block :: position.enclosing

/-- Whether a line at a column lies outside the innermost open block. -/
def isLeftAt (position : Position) (indent : Int) : Bool :=
  !position.enclosing.isEmpty && indent < position.column

/-- Closes, from the inside, the blocks that a line at a column lies outside of. -/
def leaveBlocks (indent : Int) (block : Block) (latest : Option Tree) : List Block → Position
  | [] => { block, latest }
  | parent :: further =>
    if indent < block.entry.bodyIndent then
      leaveBlocks indent parent (some (block.close latest)) further
    else
      { block, latest, enclosing := parent :: further }

/-- The position after leaving all blocks that a line at a column lies outside of. -/
def leaveTo (position : Position) (indent : Int) : Position :=
  leaveBlocks indent position.block position.latest position.enclosing

/--
The position at which a line at a column is put, when it has left blocks just
before or not.  A line at the column of the innermost block stays there.  A
deeper line opens the latest child, which must accept children and be one unit
to the left of the line.
-/
def arrive (position : Position) (hasLeft : Bool) (indent : Int) : Except Problem Position :=
  if hasLeft && indent ≠ position.column then
    .error (.rollback position.column indent)
  else if position.column < indent then
    match position.latest with
    | none => .error (.overindented position.column indent)
    | some child =>
      if !child.entry.kind.isContainer then
        .error (.childless child.entry.kind)
      else if indent ≠ child.entry.bodyIndent then
        .error (.overindented child.entry.bodyIndent indent)
      else
        .ok (position.openChild child)
  else
    .ok position

/-- The whole tree, with all blocks closed. -/
def toTree (position : Position) : Tree :=
  position.enclosing.foldl (fun child parent => parent.close (some child))
    (position.block.close position.latest)

end Position

end Outline
