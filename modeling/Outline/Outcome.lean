import Outline.FileSystem
import Outline.Reading

/-!
# Outcomes

The outcome of reading a document is its tree, as far as the lines could be
placed, and all findings.  A document is correct when nothing is found.
-/

namespace Outline

/-- What is known about a document after reading it. -/
structure Outcome where
  tree : Tree
  /-- The findings in the order in which they were made. -/
  findings : List Finding
  scopes : Scopes
  events : List Event

namespace Outcome

/-- The outcome of a reading. -/
def ofReading (reading : Reading) : Outcome where
  tree := reading.position.toTree
  findings := reading.findings.reverse
  scopes := reading.scopes
  events := reading.events.reverse

/-- What is known before anything is read. -/
def initial : Outcome :=
  ofReading .initial

/-- The outcome of reading lines. -/
def ofLines (lines : List Line) : Outcome :=
  ofReading (Reading.initial.run lines).finish

/-- The outcome of reading a document. -/
def ofSource (source : String) : Outcome :=
  ofLines (Line.ofSource source)

/--
The outcome of reading the file at a path; a file that cannot be read has an
empty tree.
-/
def ofFile (files : FileSystem) (path : Path) : Outcome :=
  match files.readText path with
  | .ok source => ofSource source
  | .error failure =>
    { initial with findings := [{ lineNumber := 0, problem := .unreadable path.render failure }] }

/-- Whether nothing was found. -/
def isClean (outcome : Outcome) : Bool :=
  outcome.findings.isEmpty

/-- The number of nodes below the root. -/
def nodeCount (outcome : Outcome) : Nat :=
  outcome.tree.entries.length - 1

/-- All events, with the summary of the reading of a named source at the end. -/
def log (outcome : Outcome) (source : String) : List Event :=
  outcome.events ++ [.completed source outcome.nodeCount outcome.findings.length]

end Outcome

end Outline
