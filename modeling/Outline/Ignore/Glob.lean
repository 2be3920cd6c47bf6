import Outline.Ignore.Matcher

/-!
# Glob patterns

A glob is matched against a path from the left.  Each piece of it takes some
characters and hands the rest to what follows; a piece that may take more or
fewer characters tries the longest choice first.  The first way through decides
how strong the match is.

Pieces are written as a regular expression.  A bracket keeps its members there,
so a range whose ends are in the wrong order is refused when the expression is
read, at the place where it stands.
-/

namespace Outline.Ignore

/-- A set of characters. -/
inductive CharSet where
  | only (character : Char)
  | notSlash
  | notLineFeed
  /-- The characters that are listed between brackets, or all others. -/
  | listed (negated : Bool) (members : List Char)
  deriving DecidableEq

/--
The ranges that are listed in a bracket; a minus between two characters makes a
range of them.
-/
def rangesOf : List Char → List (Char × Char)
  | low :: '-' :: high :: rest => (low, high) :: rangesOf rest
  | character :: rest => (character, character) :: rangesOf rest
  | [] => []

/-- Whether a character is in a set. -/
def CharSet.holds : CharSet → Char → Bool
  | only member, character => character = member
  | notSlash, character => character ≠ '/'
  | notLineFeed, character => character ≠ '\n'
  | listed negated members, character =>
    ((rangesOf members).any fun range => range.1 ≤ character && character ≤ range.2) != negated

/-- A part of a glob. -/
inductive Piece where
  | one (set : CharSet)
  | many (set : CharSet)
  | atLeastOne (set : CharSet)
  /-- Any directories at the front of a path, each with its slash, or nothing. -/
  | leadingDirectories
  /-- A slash and any names behind it, or nothing. -/
  | innerDirectories
  deriving DecidableEq

/-- What happens with the rest of a path. -/
abbrev Continuation :=
  List Char → Option Strength

/-- Takes one character of a set. -/
def takeOne (set : CharSet) (next : Continuation) : Continuation
  | [] => none
  | character :: rest => if set.holds character then next rest else none

/-- Takes as many characters of a set as possible, and fewer if the rest asks for it. -/
def takeMany (set : CharSet) (next : Continuation) : Continuation
  | [] => next []
  | character :: rest =>
    if set.holds character then
      match takeMany set next rest with
      | some strength => some strength
      | none => next (character :: rest)
    else
      next (character :: rest)

/-- Takes something, or nothing if that leads nowhere. -/
def takeOptional (taken next : Continuation) : Continuation :=
  fun path =>
    match taken path with
    | some strength => some strength
    | none => next path

/-- Takes what a piece stands for. -/
def Piece.take (next : Continuation) : Piece → Continuation
  | one set => takeOne set next
  | many set => takeMany set next
  | atLeastOne set => takeOne set (takeMany set next)
  | leadingDirectories =>
    takeOptional
      (takeOne .notLineFeed (takeMany .notLineFeed (takeOne (.only '/') next))) next
  | innerDirectories =>
    takeOptional
      (takeOne (.only '/') (takeOne .notLineFeed (takeMany .notLineFeed next))) next

/-- Takes what a sequence of pieces stands for. -/
def takeAll (pieces : List Piece) (last : Continuation) : Continuation :=
  pieces.foldr (fun piece next => piece.take next) last

/-- Why a text is no glob. -/
inductive GlobFault where
  /-- A bracket is not closed. -/
  | unclosedBracket
  /-- The last backslash has nothing to escape. -/
  | danglingBackslash
  deriving DecidableEq

/-- What the next character of a glob is part of. -/
inductive ScanMode where
  | plain
  | escaped
  /-- A bracket that has just been opened. -/
  | opening
  /-- A bracket with the characters read so far, the last one first. -/
  | bracket (negated : Bool) (members : List Char)

/-- What is known after some characters of a glob. -/
structure Scan where
  /-- What the next character is part of. -/
  mode : ScanMode := .plain
  /-- The pieces read, the last one first. -/
  pieces : List Piece := []

/--
Reads a character inside a bracket; a closing bracket right at the front is a
member.
-/
def Scan.readMember (scan : Scan) (negated : Bool) (members : List Char) (character : Char) :
    Scan :=
  if character = ']' && !members.isEmpty then
    { mode := .plain
      pieces := .one (.listed negated members.reverse) :: scan.pieces }
  else
    { scan with mode := .bracket negated (character :: members) }

/-- Reads a character that is not escaped. -/
def Scan.readPlain (scan : Scan) (character : Char) : Scan :=
  if character = '\\' then
    { scan with mode := .escaped }
  else if character = '[' then
    { scan with mode := .opening }
  else
    let piece : Piece :=
      if character = '*' then
        .many .notSlash
      else if character = '?' then
        .one .notSlash
      else
        .one (.only character)
    { scan with pieces := piece :: scan.pieces }

/-- Reads one character of a glob. -/
def Scan.read (scan : Scan) (character : Char) : Scan :=
  match scan.mode with
  | .plain => scan.readPlain character
  | .escaped => { mode := .plain, pieces := .one (.only character) :: scan.pieces }
  | .opening =>
    if character = '!' || character = '^' then
      { scan with mode := .bracket true [] }
    else
      scan.readMember false [] character
  | .bracket negated members => scan.readMember negated members character

/-- The pieces that the text of one path segment stands for. -/
def globPieces (segment : List Char) : Except GlobFault (List Piece) :=
  let scan := segment.foldl Scan.read {}
  match scan.mode with
  | .plain => .ok scan.pieces.reverse
  | .escaped => .error .danglingBackslash
  | .opening | .bracket .. => .error .unclosedBracket

/-! ## Expressions -/

/-- The characters that have a meaning of their own in an expression. -/
def specials : List Char :=
  "()[]\x7b\x7d?*+-|^$\\.&~# \t\n\r\x0b\x0c".toList

/-- A character that stands for itself in an expression. -/
def literal (character : Char) : List Char :=
  if specials.contains character then ['\\', character] else [character]

/-- A character between the brackets of an expression. -/
def writeMember (character : Char) : List Char :=
  if character = '\\' then ['\\', '\\'] else [character]

/-- A set of characters in an expression. -/
def CharSet.write : CharSet → List Char
  | only character => literal character
  | notSlash => "[^/]".toList
  | notLineFeed => ['.']
  | listed negated members =>
    '[' :: (if negated then ['^'] else []) ++ members.flatMap writeMember ++ [']']

/-- A piece in an expression. -/
def Piece.write : Piece → List Char
  | one set => set.write
  | many set => set.write ++ ['*']
  | atLeastOne set => set.write ++ ['+']
  | leadingDirectories => "(?:.+/)?".toList
  | innerDirectories => "(?:/.+)?".toList

/-- A range whose first character is behind its last one. -/
structure ReversedRange where
  low : Char
  high : Char
  /-- What stands before the range in the expression. -/
  before : List Char
  deriving DecidableEq

/-- The first reversed range among the members of a bracket. -/
def reversedIn? (before : List Char) : List Char → Option ReversedRange
  | low :: '-' :: high :: rest =>
    if high < low then
      some { low, high, before }
    else
      reversedIn? (before ++ writeMember low ++ '-' :: writeMember high) rest
  | character :: rest => reversedIn? (before ++ writeMember character) rest
  | [] => none

/-- The first reversed range of a piece. -/
def Piece.reversed? (before : List Char) : Piece → Option ReversedRange
  | one (.listed negated members) =>
    reversedIn? (before ++ '[' :: if negated then ['^'] else []) members
  | _ => none

/-- The first reversed range among some pieces. -/
def reversedAmong? (before : List Char) : List Piece → Option ReversedRange
  | [] => none
  | piece :: rest =>
    (piece.reversed? before).or (reversedAmong? (before ++ piece.write) rest)

end Outline.Ignore
