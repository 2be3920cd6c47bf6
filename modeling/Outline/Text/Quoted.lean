import Outline.Text.Printable

/-!
# Quoted texts

A text is shown between quotes with its line ends, its backslashes, its quotes
and all that is not printable written as escapes.  Single quotes are used,
unless the text holds a single quote and no double quote.
-/

namespace Outline.Text

/-- The lowest hexadecimal digits of a number, `count` of them. -/
def hexDigits (count value : Nat) : List Char :=
  ((List.range count).map fun place => Nat.digitChar (value / Nat.pow 16 place % 16)).reverse

/-- A character as it stands between quotes. -/
def quoteChar (quote character : Char) : List Char :=
  if character = quote || character = '\\' then
    ['\\', character]
  else if character = '\t' then
    ['\\', 't']
  else if character = '\n' then
    ['\\', 'n']
  else if character = '\r' then
    ['\\', 'r']
  else if isPrintable character then
    [character]
  else if character.toNat < 0x100 then
    '\\' :: 'x' :: hexDigits 2 character.toNat
  else if character.toNat < 0x10000 then
    '\\' :: 'u' :: hexDigits 4 character.toNat
  else
    '\\' :: 'U' :: hexDigits 8 character.toNat

/-- A text between quotes. -/
def quoted (text : String) : String :=
  let quote := if text.toList.contains '\'' && !text.toList.contains '"' then '"' else '\''
  String.ofList (quote :: text.toList.flatMap (quoteChar quote) ++ [quote])

end Outline.Text
