import Outline.Reading

/-!
# Walking through a tree

A document is read here with references into its tree.  The tree is kept whole;
one reference leads to the block in which lines are read, and another one to the
node added last.  Each of them is moved on its own: nothing but the steps
themselves holds it to the other one, or to the edge of the tree.

A reference is the way from a node to the root: the place of the node among its
siblings, then that of its parent, and so on.  A node that has been added is the
last child of its parent, so no reference changes when the tree grows.
-/

namespace Outline

/-- The places among siblings, from a node up to the root. -/
abbrev Reference :=
  List Nat

namespace Tree

/-- The node that a reference leads to. -/
def node? (tree : Tree) : Reference → Option Tree
  | [] => some tree
  | place :: above => (tree.node? above).bind fun parent => parent.children[place]?

/-- The entry at a reference; a reference that leads nowhere counts as the root. -/
def entryAt (tree : Tree) (reference : Reference) : Entry :=
  (tree.node? reference).elim .root Tree.entry

/-- The trees right below a reference. -/
def childrenAt (tree : Tree) (reference : Reference) : List Tree :=
  (tree.node? reference).elim [] Tree.children

/-- A tree with the node at a reference changed. -/
def change (tree : Tree) (f : Tree → Tree) : Reference → Tree
  | [] => f tree
  | place :: above =>
    tree.change (fun parent => { parent with children := parent.children.modify place f }) above

/-- A tree with a node added behind the children of another one. -/
def addAt (tree : Tree) (reference : Reference) (entry : Entry) : Tree :=
  tree.change
    (fun parent => { parent with children := parent.children ++ [{ entry, children := [] }] })
    reference

/--
Goes up from a reference while a line at a column lies outside of the block there,
and tells whether it has gone up at all.
-/
def climb (tree : Tree) (indent : Int) : Reference → Reference × Bool
  | [] => ([], false)
  | place :: above =>
    if indent < (tree.entryAt (place :: above)).bodyIndent then
      ((tree.climb indent above).1, true)
    else
      (place :: above, false)

/-- The last child of a node, or the node itself if it has none. -/
def lastBelow (tree : Tree) (reference : Reference) : Reference :=
  match (tree.childrenAt reference).length with
  | 0 => reference
  | count + 1 => count :: reference

end Tree

/-- What is known about a document after some of its lines. -/
structure Walk where
  tree : Tree := { entry := .root, children := [] }
  /-- The block in which lines are read. -/
  current : Reference := []
  /-- The node added last, which deeper lines are taken to lie below. -/
  last : Reference := []
  scopes : Scopes := .initial
  /-- The annotation that no node has taken yet. -/
  pending : Option String := none
  findings : List Finding := []
  /-- The line after which lines are being passed over. -/
  recovery : Option Recovery := none

namespace Walk

/-- Nothing has been read. -/
def initial : Walk where

/-- The column at which a line belongs to the current block. -/
def column (walk : Walk) : Int :=
  (walk.tree.entryAt walk.current).bodyIndent

/-- Adds a finding. -/
def report (walk : Walk) (lineNumber : Int) (problem : Problem) : Walk :=
  { walk with findings := { lineNumber, problem } :: walk.findings }

/-- Reports a line that cannot be placed; deeper lines than the column are passed over. -/
def reject (walk : Walk) (line : Line) (problem : Problem) (column : Int) : Walk :=
  { walk.report line.number problem with
    recovery := some { failedLine := line.number, column } }

/-- Keeps an annotation for the next node; an annotation that still waits is lost. -/
def annotate (walk : Walk) (line : Line) (text : String) : Walk :=
  let reported :=
    if walk.pending.isSome then walk.report line.number .repeatedNote else walk
  { reported with pending := some text }

/--
Leaves every block that a line at a column lies outside of.  If a block is left,
the node added last is forgotten for the last one in the block that is reached.
-/
def ascend (walk : Walk) (indent : Int) : Walk :=
  let (current, hasLeft) := walk.tree.climb indent walk.current
  { walk with
    scopes := walk.scopes.leaveTo indent
    current
    last := if hasLeft then walk.tree.lastBelow current else walk.last }

/-- Whether a line at a column lies outside of the current block. -/
def ascends (walk : Walk) (indent : Int) : Bool :=
  (walk.tree.climb indent walk.current).2

/--
Goes on to the node added last if a line at a column is deeper than the current
block; that node must accept children and be one unit to the left of the line.
-/
def descend (walk : Walk) (hasLeft : Bool) (indent : Int) : Except Problem Walk :=
  if hasLeft && indent ≠ walk.column then
    .error (.rollback walk.column indent)
  else if walk.column < indent then
    let target := walk.tree.entryAt walk.last
    if !target.kind.isContainer then
      .error (.childless target.kind)
    else if indent ≠ target.bodyIndent then
      .error (.overindented target.bodyIndent indent)
    else
      .ok { walk with current := walk.last }
  else
    .ok walk

/-- Whether the grammar admits a node of a kind in the current block. -/
def admits (walk : Walk) (kind : Kind) : Bool :=
  Grammar.admits (walk.tree.entryAt walk.current).kind
    ((walk.tree.childrenAt walk.current).reverse.map fun child => child.entry.kind) kind

/-- Opens the scope of a node, if its kind has one. -/
def openScope (walk : Walk) (entry : Entry) : Walk :=
  if entry.kind.opensScope then
    { walk with scopes := walk.scopes.enter entry.name (some entry) }
  else
    walk

/-- Declares the name of a node, if it has one. -/
def declare (walk : Walk) (entry : Entry) : Walk :=
  if entry.declares then
    match walk.scopes.declare entry with
    | .ok scopes => { walk with scopes }
    | .error first => walk.report entry.lineNumber (.alreadyDefined entry.name first.lineNumber)
  else
    walk

/-- Adds a node to the current block; it takes the annotation that waits. -/
def attach (walk : Walk) (entry : Entry) : Walk :=
  let added :=
    { walk with
      tree := walk.tree.addAt walk.current entry
      last := (walk.tree.childrenAt walk.current).length :: walk.current
      pending := none }
  (added.openScope entry).declare entry

/-- Reads a structural line in the current block, where lines are expected at a column. -/
def fill (walk : Walk) (line : Line) (text : String) (column : Int) : Walk :=
  match Entry.ofContent? text line.indent line.number walk.pending with
  | none => walk.reject line (.unrecognised text (nearestHeading? text.toList)) column
  | some entry =>
    if walk.admits entry.kind then
      walk.attach entry
    else
      walk.reject line (.misplaced entry.kind (walk.tree.entryAt walk.current).kind) column

/--
Reads a structural line.  Until it has gone on to the node added last it is
expected at the column of the block that it has gone up to.
-/
def build (walk : Walk) (line : Line) (text : String) : Walk :=
  let left := walk.ascend line.indent
  let expected := left.column
  match left.descend (walk.ascends line.indent) line.indent with
  | .error problem => left.reject line problem expected
  | .ok reached =>
    let expected := if expected < line.indent then reached.column else expected
    reached.fill line text expected

/-- Reads a line that is not passed over. -/
def accept (walk : Walk) (line : Line) : Walk :=
  match line.body with
  | .blank | .comment _ => walk
  | .note text => walk.annotate line text
  | .structural text => walk.build line text

/-- Reads one line. -/
def step (walk : Walk) (line : Line) : Walk :=
  if line.body.isSilent then
    walk
  else
    match walk.recovery with
    | none => walk.accept line
    | some recovery =>
      if line.indent ≤ recovery.column then
        { walk with recovery := none }.accept line
      else
        walk

/-- Reads lines one after the other. -/
def run (walk : Walk) (lines : List Line) : Walk :=
  lines.foldl step walk

end Walk

end Outline
