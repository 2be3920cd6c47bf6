import Outline.Text.Blank

/-!
# Terminals

A terminal shows the name of an emoji between two colons as the emoji.  Which
names there are is left to the terminal; a name holds no blanks, and what is
between the colons stays if there is no such emoji.
-/

namespace Outline.Report

open Outline.Text

/-- A way to show texts. -/
structure Terminal where
  /-- What is shown for a name between two colons, if it is the name of an emoji. -/
  emoji? : List Char → Option (List Char)
  /-- What is shown of a text. -/
  display : String → String

/-- Whether a character is printed in ASCII; a blank is. -/
def IsPrinted (character : Char) : Prop :=
  ' ' ≤ character ∧ character ≤ '~'

instance (character : Char) : Decidable (IsPrinted character) :=
  inferInstanceAs (Decidable (_ ∧ _))

/-- No colon comes before the first blank, so a name that is open is not closed. -/
def LeavesOpen (rest : List Char) : Prop :=
  ∃ plain further, rest = plain ++ further ∧ ':' ∉ plain ∧
    ∀ first ∈ further.head?, isBlank first = true

/--
What is shown of a text from the left.  A colon opens a name if the name is
closed before the next blank; else it is shown as it is.
-/
inductive Shows (emoji? : List Char → Option (List Char)) : List Char → List Char → Prop
  | nil : Shows emoji? [] []
  | plain {character : Char} {text shown : List Char} (other : character ≠ ':')
    (rest : Shows emoji? text shown) : Shows emoji? (character :: text) (character :: shown)
  | name {name text shown : List Char} (free : ':' ∉ name)
    (firm : ∀ character ∈ name, isBlank character = false) (rest : Shows emoji? text shown) :
    Shows emoji? (':' :: (name ++ ':' :: text))
      ((emoji? name).getD (':' :: name ++ [':']) ++ shown)
  | colon {text shown : List Char} (leaves : LeavesOpen text) (rest : Shows emoji? text shown) :
    Shows emoji? (':' :: text) (':' :: shown)

namespace Terminal

/-- Whether a character stands for itself wherever it is shown. -/
def isSafe (character : Char) : Bool :=
  character ≠ ':' && character ≠ '"' && character ≠ '\\' && ' ' ≤ character

/-- A terminal changes nothing but names in lines that are printed in ASCII. -/
structure Replaces (terminal : Terminal) : Prop where
  shows (text : String) : (∀ character ∈ text.toList, character = '\n' ∨ IsPrinted character) →
    Shows terminal.emoji? text.toList (terminal.display text).toList
  /-- An emoji holds no punctuation of texts and no control character. -/
  safe {name emoji : List Char} : terminal.emoji? name = some emoji →
    ∀ character ∈ emoji, isSafe character = true

end Terminal

end Outline.Report
