import Outline.Text.Word

/-!
# Expressions for texts

An expression describes how a text may go on from some place.  A search that
goes back on its choices finds its matches in a certain order: of two
alternatives the first one is tried first, and a run of characters is tried from
its longest form down or from its shortest form up.  `Expression.ways` lists all
matches in this order.  The first of them is the match of the expression.
-/

namespace Outline.Text

/-- A place in a text. -/
structure Cursor where
  /-- The characters before the place, the nearest one first. -/
  before : List Char := []
  after : List Char
  /-- The part of the text that an expression has captured on the way to the place. -/
  captured : Option (List Char) := none
  deriving DecidableEq

namespace Cursor

/-- The place some characters further on. -/
def move (cursor : Cursor) (count : Nat) : Cursor :=
  { cursor with
    before := (cursor.after.take count).reverse ++ cursor.before
    after := cursor.after.drop count }

/-- How many characters of a class come next. -/
def reach (cursor : Cursor) (accepts : Char → Bool) : Nat :=
  (cursor.after.takeWhile accepts).length

/-- The later place, with the text between both places captured. -/
def captureTo (cursor later : Cursor) : Cursor :=
  { later with
    captured := some (cursor.after.take (cursor.after.length - later.after.length)) }

/-- Whether a word begins or ends at the place. -/
def isAtWordEdge (cursor : Cursor) : Bool :=
  cursor.before.head?.any isWord != cursor.after.head?.any isWord

end Cursor

/-- How a text may go on from some place. -/
inductive Expression where
  /-- The place is at the front of the text. -/
  | front
  /-- The place is at the end of the text, or before a line feed that ends it. -/
  | ending
  /-- A word begins or ends at the place. -/
  | wordEdge
  | literal (text : List Char)
  /-- One character of a class. -/
  | one (accepts : Char → Bool)
  /-- Characters of a class, as many as possible. -/
  | most (accepts : Char → Bool)
  /-- Characters of a class, as few as possible. -/
  | least (accepts : Char → Bool)
  | sequence (first second : Expression)
  /-- The first expression or, where that leads nowhere, the second one. -/
  | either (first second : Expression)
  /-- An expression, the text of which is captured. -/
  | capture (inner : Expression)

namespace Expression

/-- Some expressions, each behind the one before it. -/
def inTurn (parts : List Expression) : Expression :=
  parts.foldr sequence (literal [])

/-- The places to which an expression leads, in the order in which they are tried. -/
def ways : Expression → Cursor → List Cursor
  | front, cursor => if cursor.before = [] then [cursor] else []
  | ending, cursor => if cursor.after = [] ∨ cursor.after = ['\n'] then [cursor] else []
  | wordEdge, cursor => if cursor.isAtWordEdge then [cursor] else []
  | literal text, cursor => if text <+: cursor.after then [cursor.move text.length] else []
  | one accepts, cursor => if cursor.after.head?.any accepts then [cursor.move 1] else []
  | most accepts, cursor => (List.range (cursor.reach accepts + 1)).reverse.map cursor.move
  | least accepts, cursor => (List.range (cursor.reach accepts + 1)).map cursor.move
  | sequence first second, cursor => (first.ways cursor).flatMap second.ways
  | either first second, cursor => first.ways cursor ++ second.ways cursor
  | capture inner, cursor => (inner.ways cursor).map cursor.captureTo

/-- The place to which an expression leads from the front of a text. -/
def match? (expression : Expression) (text : List Char) : Option Cursor :=
  (expression.ways { after := text }).head?

/-- What an expression captures when it is matched against the front of a text. -/
def captured? (expression : Expression) (text : List Char) : Option (List Char) :=
  (expression.match? text).bind Cursor.captured

end Expression

end Outline.Text
