import Outline.FileTree

/-!
# File systems

All files are below one root.  An absolute path starts there, a relative one in
the working directory.  Names and paths have a greatest length; what is longer
is refused before it is looked up.

There are no links, and there are no permissions: whatever is below the root can
be read, and a file can be written wherever nothing is in the way.
-/

namespace Outline

open Outline.Text

/-- The files that can be reached, and where relative paths start. -/
structure FileSystem where
  root : FileTree
  /-- The names that lead from the root to the working directory. -/
  home : List String := []
  /-- The greatest length of a name in bytes. -/
  nameLimit : Nat := 255
  /-- The greatest length of a path in bytes. -/
  pathLimit : Nat := 4095
  home_straight : FileTree.parentStep ∉ home := by first | exact List.not_mem_nil | decide

/-- Why a file cannot be written. -/
inductive WriteFailure where
  /-- Something is in the way, or the path or a name in it is too long. -/
  | refused
  /-- A name holds the null character. -/
  | nullCharacter
  deriving DecidableEq

namespace FileSystem

/-- The names that lead to where a path starts. -/
def start (files : FileSystem) (path : Path) : List String :=
  if path.anchor = "" then files.home else []

/-- What is at the end of some names from the root. -/
def follow (files : FileSystem) (names : List String) : Except ReadFailure FileTree :=
  FileTree.follow files.nameLimit [] files.root names

/-- Whether a path is longer than is allowed. -/
def isTooLong (files : FileSystem) (path : Path) : Bool :=
  files.pathLimit < path.size

/-- What is at a path; nothing is at a path with a null character. -/
def at? (files : FileSystem) (path : Path) : Except ReadFailure FileTree :=
  if path.parts.any Path.hasNull then
    .error .notFound
  else if files.isTooLong path then
    .error .nameTooLong
  else
    files.follow (files.start path ++ path.parts)

/-- The text of the file at a path. -/
def readText (files : FileSystem) (path : Path) : Except ReadFailure String :=
  match files.at? path with
  | .error failure => .error failure
  | .ok (.directory _) => .error .isDirectory
  | .ok (.file bytes) => (FileTree.text bytes).mapError .undecodable

/-- Makes the directories on the way to a path, and the one at the path. -/
def makeDirectory (files : FileSystem) (path : Path) : Option (FileTree × List String) :=
  if files.isTooLong path then
    none
  else
    match files.follow (files.start path) with
    | .ok (.directory _) =>
      FileTree.makeWay files.nameLimit files.root (files.start path) path.parts
    | _ => none

/-- Whether a file may have a name. -/
def admitsName (files : FileSystem) (name : String) : Bool :=
  name != FileTree.parentStep && name.utf8ByteSize ≤ files.nameLimit

/--
Writes a file and makes the directories on the way to it.  A null character is
noticed when its name is come to.
-/
def write (files : FileSystem) (path : Path) (bytes : List UInt8) :
    Except WriteFailure FileSystem :=
  match path.parts.getLast? with
  | none => .error .refused
  | some name =>
    if path.parent.parts.any Path.hasNull then
      .error .nullCharacter
    else
      match files.makeDirectory path.parent with
      | none => .error .refused
      | some (made, way) =>
        if Path.hasNull name then
          .error .nullCharacter
        else if files.isTooLong path || !files.admitsName name then
          .error .refused
        else
          match FileTree.follow files.nameLimit [] made (way ++ [name]) with
          | .ok (.directory _) => .error .refused
          | _ => .ok { files with root := FileTree.put (.file bytes) made (way ++ [name]) }

end FileSystem

end Outline
