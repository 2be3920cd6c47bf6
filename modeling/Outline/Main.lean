import Outline.Command.Check
import Outline.Ignore.Rule
import Outline.Report.Emoji

/-!
# The program

Takes the files that the arguments lead to, carries out the command line on
them, and writes what comes of it.
-/

namespace Outline

/-- The place on disk at the end of some names from the root. -/
def placeOf (names : List String) : IO IO.FS.DirEntry :=
  return { root := (← IO.currentDir) / "/", fileName := Path.joinParts names }

/-- What is at a place on disk, with all that is below it. -/
partial def readTree (place : IO.FS.DirEntry) : IO FileTree := do
  if ← place.path.isDir then
    let below ← (← place.path.readDir).toList.mapM fun entry => do
      return (entry.fileName, ← readTree entry)
    return .directory below
  else
    return .file (← IO.FS.readBinFile place.path).toList

/-- Adds the directories on the way along a path, and all that is at its end. -/
def FileSystem.load (files : FileSystem) (path : Path) : IO FileSystem := do
  let mut files := files
  let mut way := files.start path
  for name in path.parts do
    way := if name = FileTree.parentStep then way.dropLast else way ++ [name]
    if (files.follow way).toOption.isNone then
      if ← (← placeOf way).path.isDir then
        files := { files with root := FileTree.put (.directory []) files.root way }
  let place ← placeOf way
  if ← place.path.pathExists then
    files := { files with root := FileTree.put (← readTree place) files.root way }
  return files

/-- The file system with nothing but the working directory. -/
def FileSystem.ofWorkingDirectory : IO FileSystem := do
  let names := (← IO.currentDir).components.filter (· != "")
  if straight : FileTree.parentStep ∉ names then
    return {
      root := FileTree.put (.directory []) (.directory []) names
      home := names
      home_straight := straight }
  else
    return { root := .directory [] }

/-- The paths that a command line names. -/
def namedPaths (arguments : List String) : List Path :=
  match Command.Settings.ofArguments arguments with
  | .error _ => []
  | .ok settings => (settings.paths ++ settings.output.toList).map Path.ofString

/-- Writes a file and makes the directories on the way to it. -/
def writeText (path : Path) (text : String) : IO Unit := do
  if path.parts.length > 1 then
    IO.FS.createDirAll path.parent.render
  IO.FS.writeFile path.render text

end Outline

/-- Carries out a command line on the files that it names. -/
def main (arguments : List String) : IO UInt32 := do
  let paths := Outline.namedPaths arguments
  let files ← paths.foldlM Outline.FileSystem.load (← Outline.FileSystem.ofWorkingDirectory)
  let matcher := Outline.Ignore.versionControl
  match Outline.Command.runShown matcher Outline.Report.Emoji.terminal files arguments with
  | .error crash =>
    IO.eprintln (crash.message matcher.message)
    return 1
  | .ok completion =>
    if let some (path, text) := completion.written then
      Outline.writeText path text
    IO.print completion.output
    IO.eprint completion.errors
    return UInt32.ofNat completion.exitCode
