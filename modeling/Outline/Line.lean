import Outline.Text.Blank
import Outline.Text.Lines

/-!
# Lines of an outline document

A document is read line by line.  Each line has an indentation, counted in
columns, and a body: nothing, a comment, an annotation for the next structural
line, or the text of a structural line.  The written form of a line,
`Line.render`, is its indentation in spaces followed by its text.
-/

namespace Outline

open Outline.Text

/-- The number of columns by which a block is indented under its header. -/
def indentUnit : Nat :=
  4

/-- What a line holds after its indentation. -/
inductive LineBody where
  /-- Nothing but white space. -/
  | blank
  /-- A remark, with the two slashes that open it. -/
  | comment (text : String)
  /-- A note on the next structural line, without the at sign that opens it. -/
  | note (text : String)
  /-- The text of one node of the outline. -/
  | structural (text : String)
  deriving DecidableEq

/-- One line of a document. -/
structure Line where
  /-- The place of the line in its document, counted from one. -/
  number : Int
  /-- The column at which the text of the line begins. -/
  indent : Nat
  body : LineBody
  deriving DecidableEq

/--
The column after a blank: a tab moves on to the next multiple of the indentation
unit.
-/
def nextColumn (column : Nat) (blank : Char) : Nat :=
  if blank = '\t' then (column / indentUnit + 1) * indentUnit else column + 1

/-- Only spaces and tabs indent a line. -/
def isIndentation (character : Char) : Bool :=
  character = ' ' || character = '\t'

/-- The characters that may end a line. -/
def isLineEnd (character : Char) : Bool :=
  character = '\r' || character = '\n'

/-- The character that separates the lines of a document. -/
def isLineFeed (character : Char) : Bool :=
  character = '\n'

/-- The body of a line whose indentation and line end have been taken off. -/
def LineBody.ofText (text : List Char) : LineBody :=
  if text.all isBlank then
    .blank
  else
    match text with
    | '/' :: '/' :: _ => .comment (String.ofList (trimEnd isBlank text))
    | '@' :: text => .note (String.ofList (trim isBlank text))
    | _ => .structural (String.ofList (trimEnd isBlank text))

/-- The text of a body; an annotation is given without its at sign. -/
def LineBody.text : LineBody → String
  | .blank => ""
  | .comment text => text
  | .note text => text
  | .structural text => text

/-- Blank lines and comments say nothing about the outline. -/
def LineBody.isSilent : LineBody → Bool
  | .blank => true
  | .comment _ => true
  | .note _ => false
  | .structural _ => false

/-- The written form of a body. -/
def LineBody.render : LineBody → String
  | .blank => ""
  | .comment text => text
  | .note text => "@" ++ text
  | .structural text => text

/-- Reads one line of a document, with or without the characters that end it. -/
def Line.ofRaw (raw : String) (number : Int) : Line :=
  let text := trimEnd isLineEnd raw.toList
  { number
    indent := (text.takeWhile isIndentation).foldl nextColumn 0
    body := .ofText (text.dropWhile isIndentation) }

/-- The written form of a line. -/
def Line.render (line : Line) : String :=
  String.ofList (List.replicate line.indent ' ') ++ line.body.render

/-- Reads raw lines, numbered from one. -/
def Line.ofRaws (raws : List String) : List Line :=
  (raws.zipIdx 1).map fun raw => Line.ofRaw raw.1 raw.2

/-- The lines of a document. -/
def Line.ofSource (source : String) : List Line :=
  Line.ofRaws ((linesOf isLineFeed source.toList).map String.ofList)

end Outline
