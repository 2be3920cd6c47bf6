import Outline.Text.Subsequence
import Outline.Text.Word
import Outline.Tree

/-!
# Recognising structural lines

What a structural line stands for is decided by its heading, the text before its
first colon.  A heading of word characters and blanks must be a keyword; a
conditional or an alternative may also carry any text between its keyword and a
final colon.  A line with no such heading is a statement.  A line whose heading
is made of words, but is no keyword, is not recognised; the nearest keyword can
be suggested for it.
-/

namespace Outline

open Outline.Text

/-- The characters of which a heading is made. -/
def isHeading (character : Char) : Bool :=
  isWord character || isBlank character

/--
The text before the first colon, trimmed, when it is not empty and is made of
words and blanks.
-/
def heading? (content : List Char) : Option (List Char) :=
  let lead := content.takeWhile (· ≠ ':')
  if content.contains ':' && !lead.isEmpty && lead.all isHeading then
    some (trim isBlank lead)
  else
    none

/-- The text after the first colon. -/
def afterColon (content : List Char) : List Char :=
  (content.dropWhile (· ≠ ':')).drop 1

/-- Whether a text is one line that ends in a colon; a line feed may follow. -/
def endsInColon (text : List Char) : Bool :=
  (text.takeWhile (· ≠ '\n')).getLast? = some ':' && (text.dropWhile (· ≠ '\n')).length ≤ 1

/-- Whether a text begins with a whole word and is one line that ends in a colon. -/
def opensWith (word content : List Char) : Bool :=
  let rest := content.drop word.length
  word.isPrefixOf content && !rest.head?.any isWord && endsInColon rest

/-- The headings that a statement may have. -/
def statementHeadings : List String :=
  ["return", "define macro"]

/-- Whether a heading belongs to a statement. -/
def isStatementHeading (heading : List Char) : Bool :=
  statementHeadings.contains (String.ofList heading)

/-- The kind of node that the text of a structural line stands for. -/
def Kind.ofContent? (content : List Char) : Option Kind :=
  match (heading? content).bind fun heading => Kind.ofKeyword? (String.ofList heading) with
  | some kind => some kind
  | none =>
    if opensWith ['i', 'f'] content then
      some .conditional
    else if opensWith ['e', 'l', 's', 'e'] content then
      some .alternative
    else if (heading? content).all isStatementHeading then
      some .statement
    else
      none

/--
The name that a declaration gives: the word after the keyword, its colon and any
blanks.  A declaration whose keyword does not stand at the very front gives no
name.
-/
def declaredName (keyword content : List Char) : List Char :=
  if keyword.isPrefixOf content then
    match (content.drop keyword.length).dropWhile isBlank with
    | ':' :: rest => (rest.dropWhile isBlank).takeWhile isWord
    | _ => []
  else
    []

/-- The entry for the text of a structural line, if the text is recognised. -/
def Entry.ofContent? (content : String) (indent lineNumber : Int) (note : Option String) :
    Option Entry :=
  (Kind.ofContent? content.toList).map fun kind =>
    { kind, content, indent, lineNumber, note
      name :=
        if kind.mayDeclare then
          String.ofList (declaredName kind.label.toList content.toList)
        else
          ""
      description :=
        if kind = .description then
          some (String.ofList (trim isBlank (afterColon content.toList)))
        else
          none }

/-- The headings that are recognised, in the order of their code points. -/
def knownHeadings : List String :=
  ["behavior", "class", "define macro", "description", "else", "func", "if", "inh", "input",
    "module", "output", "return", "var"]

/-- The more similar of two words, the first one when both are equally similar. -/
def moreSimilar (heading : List Char) (best candidate : String) : String :=
  if (Similarity.ofWords heading candidate.toList).exceeds
      (Similarity.ofWords heading best.toList) then
    candidate
  else
    best

/--
The known heading that is most similar to the heading of a line, if it is
similar enough.  Of equally similar ones the first is taken.
-/
def nearestHeading? (content : List Char) : Option String :=
  match heading? content with
  | none | some [] => none
  | some heading =>
    match knownHeadings.filter fun known =>
        (Similarity.ofWords heading known.toList).isClose with
    | [] => none
    | first :: rest => some (rest.foldl (moreSimilar heading) first)

end Outline
