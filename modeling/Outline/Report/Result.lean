import Outline.Session

/-!
# Results of a check

A check reads some documents one after the other, all with one reader; each of
them has a result.
-/

namespace Outline

namespace Report

/-- The result of checking one document. -/
structure Result where
  path : Path
  outcome : Outcome

namespace Result

/-- Checks the document at a path on its own. -/
def ofFile (files : FileSystem) (path : Path) : Result where
  path := path
  outcome := .ofFile files path

/-- Checks the documents at some paths with one reader. -/
def ofFiles (files : FileSystem) (reading : Reading) : List Path → List Result
  | [] => []
  | path :: rest =>
    let next := reading.readFile files path
    { path, outcome := .ofReading next } :: ofFiles files next rest

end Result

end Report

end Outline
