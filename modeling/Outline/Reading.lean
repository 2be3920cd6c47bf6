import Outline.Event
import Outline.Position
import Outline.Recognition
import Outline.Scope

/-!
# Reading a document

A document is read in one pass, as a fold of `Reading.step` over its lines.  A
structural line first leaves the blocks and the scopes that it lies outside of.
Then it is placed, or a problem is found with it; after a problem the lines that
are deeper than the position reached are passed over.  A reading keeps what it
has found and recorded with the last item first.
-/

namespace Outline

/-- A line that could not be placed, while the lines below it are passed over. -/
structure Recovery where
  /-- The line that could not be placed. -/
  failedLine : Int
  /-- The reading resumes at the first line that is not deeper than this. -/
  column : Int
  deriving DecidableEq

/-- What is known about a document after some of its lines. -/
structure Reading where
  /-- Where the next node would be placed. -/
  position : Position := .initial
  scopes : Scopes := .initial
  /-- The annotation that no node has taken yet. -/
  pending : Option String := none
  findings : List Finding := []
  events : List Event := []
  /-- The line after which lines are being passed over. -/
  recovery : Option Recovery := none

namespace Reading

/-- Nothing has been read. -/
def initial : Reading where

/-- Adds a finding. -/
def report (reading : Reading) (lineNumber : Int) (problem : Problem) : Reading :=
  { reading with findings := { lineNumber, problem } :: reading.findings }

/-- Adds an event. -/
def record (reading : Reading) (event : Event) : Reading :=
  { reading with events := event :: reading.events }

/--
Reports a line that cannot be placed.  The lines deeper than the column at which
it was expected will be passed over.
-/
def reject (reading : Reading) (line : Line) (problem : Problem) (column : Int) : Reading :=
  { reading.report line.number problem with
    recovery := some { failedLine := line.number, column } }

/-- Keeps an annotation for the next node; an annotation that still waits is lost. -/
def annotate (reading : Reading) (line : Line) (text : String) : Reading :=
  let reported :=
    if reading.pending.isSome then reading.report line.number .repeatedNote else reading
  { reported with pending := some text }

/-- The events of closing scopes, the innermost first, of `depth` open ones. -/
def closings : Nat → List Scope → List Event
  | _, [] => []
  | depth, scope :: rest => .closed scope.name (depth - 1) :: closings (depth - 1) rest

/-- Leaves the blocks and the scopes that a line at a column lies outside of. -/
def leaveTo (reading : Reading) (indent : Int) : Reading :=
  { reading with
    position := reading.position.leaveTo indent
    scopes := reading.scopes.leaveTo indent
    events := (closings reading.scopes.depth (reading.scopes.endedAt indent)).reverse
      ++ reading.events }

/-- Opens the scope of a node, if its kind has one. -/
def openScope (reading : Reading) (entry : Entry) : Reading :=
  if entry.kind.opensScope then
    let scopes := reading.scopes.enter entry.name (some entry)
    { reading with scopes }.record (.opened entry.name scopes.depth)
  else
    reading

/-- Declares the name of a node, if it has one. -/
def declare (reading : Reading) (entry : Entry) : Reading :=
  if entry.declares then
    match reading.scopes.declare entry with
    | .ok scopes => { reading with scopes }
    | .error first =>
      reading.report entry.lineNumber (.alreadyDefined entry.name first.lineNumber)
  else
    reading

/-- Places a node, which takes the annotation that waits. -/
def attach (reading : Reading) (entry : Entry) : Reading :=
  let placed := { reading with position := reading.position.place entry, pending := none }
  (placed.openScope entry).declare entry

/--
Reads a structural line at the position that it has arrived at, where lines are
expected at a column.
-/
def fill (reading : Reading) (line : Line) (text : String) (column : Int) : Reading :=
  match Entry.ofContent? text line.indent line.number reading.pending with
  | none => reading.reject line (.unrecognised text (nearestHeading? text.toList)) column
  | some entry =>
    if reading.position.admits entry.kind then
      reading.attach entry
    else
      reading.reject line (.misplaced entry.kind reading.position.container.kind) column

/--
Reads a structural line.  Until it has opened a block it is expected at the column
of the block that it has left the others for.
-/
def build (reading : Reading) (line : Line) (text : String) : Reading :=
  let hasLeft := reading.position.isLeftAt line.indent
  let left := reading.leaveTo line.indent
  let expected := left.position.column
  match left.position.arrive hasLeft line.indent with
  | .error problem => left.reject line problem expected
  | .ok position =>
    let expected := if expected < line.indent then position.column else expected
    { left with position }.fill line text expected

/-- Reads a line that is not passed over. -/
def accept (reading : Reading) (line : Line) : Reading :=
  match line.body with
  | .blank | .comment _ => reading
  | .note text => reading.annotate line text
  | .structural text => reading.build line text

/-- Ends the passing over of lines. -/
def resume (reading : Reading) (recovery : Recovery) (line : Line) : Reading :=
  { reading with recovery := none }.record (.resumed recovery.failedLine line.number)

/-- Reads one line. -/
def step (reading : Reading) (line : Line) : Reading :=
  if line.body.isSilent then
    reading
  else
    match reading.recovery with
    | none => reading.accept line
    | some recovery =>
      if line.indent ≤ recovery.column then
        (reading.resume recovery line).accept line
      else
        reading

/-- Reads lines one after the other. -/
def run (reading : Reading) (lines : List Line) : Reading :=
  lines.foldl step reading

/-- Records that no line is left at which the reading could resume. -/
def abandon (reading : Reading) : Reading :=
  match reading.recovery with
  | none => reading
  | some recovery => reading.record (.abandoned recovery.failedLine)

/-- Closes all scopes at the end of a document. -/
def finish (reading : Reading) : Reading :=
  let ended := reading.abandon
  { ended with
    scopes := ended.scopes.leaveAll
    events := (closings ended.scopes.depth ended.scopes.inner).reverse ++ ended.events }

end Reading

end Outline
