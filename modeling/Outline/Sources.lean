import Outline.FileSystem
import Outline.Ignore.Matcher

/-!
# Finding the documents to check

A file is taken as it is.  A directory is searched, at any depth, for files with
the extension of outline documents; those that its ignore file or the exclusions
ignore are left out.  The search looks at every directory and at every file with
the extension, so it fails if one of their paths is too long.
-/

namespace Outline

open Outline.Text

/-- The end of the name of a document. -/
def documentExtension : String :=
  ".mcbc"

/-- The name of the file of ignore rules. -/
def ignoreFileName : String :=
  ".gitignore"

/-- Why no documents are found. -/
inductive SearchFailure (Fault : Type) where
  | missing (path : Path)
  /-- A path that is looked at is too long, or a name in it. -/
  | tooLong (path : Path)
  /-- The ignore file of a directory cannot be read. -/
  | unreadableRules (path : Path) (failure : ReadFailure)
  /-- A rule of a directory or an exclusion is no rule. -/
  | faultyRule (fault : Fault)
  deriving DecidableEq

/-- The path of the ignore file in a directory. -/
def ignoreFile (directory : Path) : Path :=
  directory.append [ignoreFileName]

/-- The wording of a failed search, given that of faulty rules. -/
def SearchFailure.message {Fault : Type} (ofFault : Fault → String) :
    SearchFailure Fault → String
  | missing path => "Path does not exist: " ++ path.render
  | tooLong path => ReadFailure.nameTooLong.message path.render
  | unreadableRules path failure =>
    "Cannot read ignore file in " ++ path.render ++ ": " ++
      failure.message (ignoreFile path).render
  | faultyRule fault => ofFault fault

namespace FileTree

/-- Whether something is a file. -/
def isFile : FileTree → Bool
  | .file _ => true
  | .directory _ => false

mutual

/-- All that is in a tree, each with the names that lead to it; a directory comes first. -/
def placesBelow : FileTree → List (List String × FileTree)
  | .file bytes => [([], .file bytes)]
  | .directory entries => ([], .directory entries) :: placesAmong entries

/-- All that is in the entries of a directory. -/
def placesAmong : List (String × FileTree) → List (List String × FileTree)
  | [] => []
  | (name, tree) :: rest =>
    (placesBelow tree).map (Prod.map (name :: ·) id) ++ placesAmong rest

end

/-- The names that lead to the files in a directory. -/
def filesAmong (entries : List (String × FileTree)) : List (List String) :=
  ((placesAmong entries).filter fun place => place.2.isFile).map Prod.fst

/-- The names that lead to the directories in a directory. -/
def directoriesAmong (entries : List (String × FileTree)) : List (List String) :=
  ((placesAmong entries).filter fun place => !place.2.isFile).map Prod.fst

end FileTree

/-- Inserts a sequence of names before the first one that is not smaller. -/
def insertOrdered (names : List String) : List (List String) → List (List String)
  | [] => [names]
  | first :: rest =>
    if first < names then
      first :: insertOrdered names rest
    else
      names :: first :: rest

/-- Puts sequences of names into the order of their code points. -/
def inOrder (sequences : List (List String)) : List (List String) :=
  sequences.foldr insertOrdered []

/-- Whether names lead to a document. -/
def isDocument (names : List String) : Bool :=
  names.getLast?.any fun name => documentExtension.toList.isSuffixOf name.toList

/-- The lines of the ignore file in the directory at a path; there may be no such file. -/
def ignoreLines (files : FileSystem) (path : Path) : Except ReadFailure (List String) :=
  match files.at? (ignoreFile path) with
  | .ok (.file bytes) =>
    match FileTree.text bytes with
    | .error error => .error (.undecodable error)
    | .ok text => .ok ((linesOf isLineBoundary text.toList).map String.ofList)
  | .error .nameTooLong => .error .nameTooLong
  | _ => .ok []

/--
What a search of a directory looks at: all directories in it, and then all
documents in order.
-/
def visited (entries : List (String × FileTree)) : List (List String) :=
  FileTree.directoriesAmong entries ++ inOrder ((FileTree.filesAmong entries).filter isDocument)

section

variable (matcher : Ignore.Matcher) (files : FileSystem)

/-- The documents of a directory that rules do not ignore, in order. -/
def documentsOf (rules : List matcher.Rule) (entries : List (String × FileTree)) :
    List (List String) :=
  inOrder ((FileTree.filesAmong entries).filter fun names =>
    isDocument names && !matcher.ignores rules (Path.joinParts names))

/-- The documents at one path. -/
def documentsAt (exclusions : List String) (path : Path) :
    Except (SearchFailure matcher.Fault) (List Path) :=
  match files.at? path with
  | .error .nameTooLong => .error (.tooLong path)
  | .error _ => .error (.missing path)
  | .ok (.file _) => .ok [path]
  | .ok (.directory entries) =>
    match ignoreLines files path with
    | .error failure => .error (.unreadableRules path failure)
    | .ok lines =>
      match matcher.rulesOf (lines ++ exclusions) with
      | .error fault => .error (.faultyRule fault)
      | .ok rules =>
        match ((visited entries).map path.append).find? files.isTooLong with
        | some far => .error (.tooLong far)
        | none => .ok ((documentsOf matcher rules entries).map path.append)

/-- The documents at some paths, path by path. -/
def findDocuments (paths : List Path) (exclusions : List String) :
    Except (SearchFailure matcher.Fault) (List Path) :=
  (paths.mapM (documentsAt matcher files exclusions)).map List.flatten

end

end Outline
