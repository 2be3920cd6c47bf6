import Outline.Text.Lines
import Outline.Text.Quoted
import Outline.Text.Utf8

/-!
# File trees

The checker works on a tree of files and directories.  A path is a sequence of
names; it is followed one name at a time, so a parent step needs a directory to
step out of.  At the top a parent step stays where it is.
-/

namespace Outline

open Outline.Text

/-- A file or a directory with all that it holds. -/
inductive FileTree where
  | file (bytes : List UInt8)
  | directory (entries : List (String × FileTree))

/-- A path: the slashes in front, and the names between slashes. -/
structure Path where
  /-- Empty for a relative path. -/
  anchor : String := ""
  /-- The names on the way; no name is empty or a single dot. -/
  parts : List String
  deriving DecidableEq

namespace Path

/-- Two slashes in front are kept, more are one. -/
def anchorOf (text : List Char) : String :=
  match (text.takeWhile (· = '/')).length with
  | 0 => ""
  | 2 => "//"
  | _ => "/"

/-- Reads a path; empty names and single dots are dropped. -/
def ofString (text : String) : Path where
  anchor := anchorOf text.toList
  parts := ((separate (· = '/') text.toList).map String.ofList).filter fun part =>
    part != "" && part != "."

/-- Writes names with slashes between them. -/
def joinParts (parts : List String) : String :=
  String.intercalate "/" parts

/-- Writes a path; the empty relative path is a single dot. -/
def render (path : Path) : String :=
  if path.anchor = "" && path.parts.isEmpty then "." else path.anchor ++ joinParts path.parts

/-- The path to something below a path. -/
def append (path : Path) (below : List String) : Path :=
  { path with parts := path.parts ++ below }

/-- The path without its last name. -/
def parent (path : Path) : Path :=
  { path with parts := path.parts.dropLast }

/-- Whether a name holds the character that ends texts outside. -/
def hasNull (name : String) : Bool :=
  name.toList.contains '\x00'

/-- The length of a path in bytes. -/
def size (path : Path) : Nat :=
  path.render.utf8ByteSize

end Path

/-- Why a file cannot be read. -/
inductive ReadFailure where
  | notFound
  /-- Something on the way is a file. -/
  | notDirectory
  | isDirectory
  /-- The path, or a name in it, is longer than is allowed. -/
  | nameTooLong
  /-- The file is no UTF-8. -/
  | undecodable (error : Utf8.DecodeError)
  deriving DecidableEq

/-- The wording of a failure to read a path. -/
def ReadFailure.message (path : String) : ReadFailure → String
  | notFound => "[Errno 2] No such file or directory: " ++ quoted path
  | notDirectory => "[Errno 20] Not a directory: " ++ quoted path
  | isDirectory => "[Errno 21] Is a directory: " ++ quoted path
  | nameTooLong => "[Errno 36] File name too long: " ++ quoted path
  | undecodable error => error.message

namespace FileTree

/-- The step to the parent directory. -/
def parentStep : String :=
  ".."

/-- The entry of a directory. -/
def child? (entries : List (String × FileTree)) (name : String) : Option FileTree :=
  (entries.find? fun entry => entry.1 = name).map Prod.snd

/--
Follows names from a place in the tree, none of them longer than a limit.  The
directories above the place are given, the nearest first; a parent step from the
top stays there.
-/
def follow (limit : Nat) (above : List FileTree) :
    FileTree → List String → Except ReadFailure FileTree
  | here, [] => .ok here
  | .file _, _ :: _ => .error .notDirectory
  | .directory entries, name :: rest =>
    if name = parentStep then
      match above with
      | [] => follow limit [] (.directory entries) rest
      | parent :: further => follow limit further parent rest
    else if limit < name.utf8ByteSize then
      .error .nameTooLong
    else
      match child? entries name with
      | none => .error .notFound
      | some next => follow limit (.directory entries :: above) next rest

/-- The text of a file, decoded and with its line ends unified. -/
def text (bytes : List UInt8) : Except Utf8.DecodeError String :=
  (Utf8.decode bytes).map fun characters => String.ofList (unifyLineEnds characters)

/-- The entries of a directory with one entry replaced, or added at the end. -/
def setChild (name : String) (tree : FileTree) :
    List (String × FileTree) → List (String × FileTree)
  | [] => [(name, tree)]
  | entry :: rest =>
    if entry.1 = name then
      (name, tree) :: rest
    else
      entry :: setChild name tree rest

/-- The entries of a directory; a file has none. -/
def entries : FileTree → List (String × FileTree)
  | .file _ => []
  | .directory entries => entries

/--
A tree with something put at the end of some names; the directories on the way
are made.
-/
def put (content : FileTree) (tree : FileTree) : List String → FileTree
  | [] => content
  | name :: rest =>
    let below := (child? tree.entries name).getD (.directory [])
    .directory (setChild name (put content below rest) tree.entries)

/--
Makes the directories on a way that begins with some names and goes on with
others.  The result is the tree and the names that lead to the end of the way
without parent steps.  There is none if a file is on the way, or a name that is
too long.
-/
def makeWay (limit : Nat) (tree : FileTree) (way : List String) :
    List String → Option (FileTree × List String)
  | [] => some (tree, way)
  | name :: rest =>
    if name = parentStep then
      makeWay limit tree way.dropLast rest
    else if limit < name.utf8ByteSize then
      none
    else
      match follow limit [] tree (way ++ [name]) with
      | .ok (.file _) => none
      | .ok (.directory _) => makeWay limit tree (way ++ [name]) rest
      | .error _ => makeWay limit (put (.directory []) tree (way ++ [name])) (way ++ [name]) rest

end FileTree

end Outline
