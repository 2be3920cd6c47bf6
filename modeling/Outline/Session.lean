import Outline.Outcome

/-!
# Sessions

One reader answers several requests one after the other.  It is cleared before
each of them.
-/

namespace Outline

namespace Reading

/-- Clears all that has been read. -/
def clear (reading : Reading) : Reading :=
  { reading with
    position := .initial
    scopes := .initial
    pending := none
    findings := []
    events := []
    recovery := none }

/-- Reads a text after whatever has been read before. -/
def readSource (reading : Reading) (source : String) : Reading :=
  (reading.clear.run (Line.ofSource source)).finish

/-- Reads the file at a path after whatever has been read before. -/
def readFile (reading : Reading) (files : FileSystem) (path : Path) : Reading :=
  match files.readText path with
  | .ok source => reading.readSource source
  | .error failure => reading.clear.report 0 (.unreadable path.render failure)

end Reading

/-- What a reader can be asked to read: a text, or the file at a path. -/
inductive Request where
  | source (text : String)
  | file (path : Path)

/-- Reads what is asked for, after whatever has been read before. -/
def Reading.answer (reading : Reading) (files : FileSystem) : Request → Reading
  | .source text => reading.readSource text
  | .file path => reading.readFile files path

namespace Outcome

/-- The outcomes of requests that one reader answers in turn. -/
def answers (files : FileSystem) (reading : Reading) : List Request → List Outcome
  | [] => []
  | request :: rest =>
    let next := reading.answer files request
    ofReading next :: answers files next rest

/-- What is known before anything is read, and after each request. -/
def session (files : FileSystem) (requests : List Request) : List Outcome :=
  .initial :: answers files .initial requests

end Outcome

end Outline
