import Outline.Report.Result
import Outline.Text.Quoted

/-!
# The report as JSON

The results are written as one JSON value, in ASCII, with two spaces per level
and with the names of an object in alphabetical order.
-/

namespace Outline.Report

open Outline.Text

/-- A JSON value. -/
inductive JsonValue where
  | null
  | bool (value : Bool)
  | number (value : Int)
  | text (value : String)
  | array (items : List JsonValue)
  /-- Values by name, in the order in which they are written. -/
  | object (fields : List (String × JsonValue))

namespace JsonValue

/-- A unit of sixteen bits as an escape. -/
def escapeUnit (unit : Nat) : List Char :=
  '\\' :: 'u' :: hexDigits 4 unit

/--
A character as it stands in a text; characters above the basic plane are written
as two surrogates.
-/
def escape (character : Char) : List Char :=
  if character = '"' || character = '\\' then
    ['\\', character]
  else if character = '\n' then
    ['\\', 'n']
  else if character = '\r' then
    ['\\', 'r']
  else if character = '\t' then
    ['\\', 't']
  else if character = '\x0c' then
    ['\\', 'f']
  else if character = '\x08' then
    ['\\', 'b']
  else if ' ' ≤ character && character ≤ '~' then
    [character]
  else if character.toNat < 0x10000 then
    escapeUnit character.toNat
  else
    let above := character.toNat - 0x10000
    escapeUnit (0xD800 + above / 0x400) ++ escapeUnit (0xDC00 + above % 0x400)

/-- A text between double quotes. -/
def writeText (value : String) : String :=
  String.ofList ('"' :: value.toList.flatMap escape ++ ['"'])

/-- The beginning of a line at a level. -/
def newLine (level : Nat) : String :=
  "\n" ++ String.ofList (List.replicate (2 * level) ' ')

mutual

/-- Writes a value that stands at a level. -/
def write (level : Nat) : JsonValue → String
  | null => "null"
  | bool value => if value then "true" else "false"
  | number value => toString value
  | text value => writeText value
  | array [] => "[]"
  | array (item :: rest) =>
    "[" ++ newLine (level + 1) ++ write (level + 1) item ++ writeItems (level + 1) rest
      ++ newLine level ++ "]"
  | object [] => "\x7b\x7d"
  | object (field :: rest) =>
    "\x7b" ++ newLine (level + 1) ++ writeField (level + 1) field ++ writeFields (level + 1) rest
      ++ newLine level ++ "\x7d"

/-- Writes the values after the first one of an array. -/
def writeItems (level : Nat) : List JsonValue → String
  | [] => ""
  | item :: rest => "," ++ newLine level ++ write level item ++ writeItems level rest

/-- Writes a value with its name. -/
def writeField (level : Nat) : String × JsonValue → String
  | (name, value) => writeText name ++ ": " ++ write level value

/-- Writes the values after the first one of an object. -/
def writeFields (level : Nat) : List (String × JsonValue) → String
  | [] => ""
  | field :: rest => "," ++ newLine level ++ writeField level field ++ writeFields level rest

end

/-- Writes a value. -/
def render (value : JsonValue) : String :=
  value.write 0

/-- A text that may be missing. -/
def ofOption : Option String → JsonValue
  | none => null
  | some value => text value

mutual

/-- The value of a tree. -/
def ofTree : Tree → JsonValue
  | ⟨entry, children⟩ =>
    object
      [("annotation", ofOption entry.note), ("children", array (ofTrees children)),
        ("content", text entry.content), ("description", ofOption entry.description),
        ("indent", number entry.indent), ("kind", text entry.kind.label),
        ("line_number", number entry.lineNumber),
        ("name", if entry.name = "" then null else text entry.name)]

/-- The values of some trees. -/
def ofTrees : List Tree → List JsonValue
  | [] => []
  | tree :: rest => ofTree tree :: ofTrees rest

end

/-- The value of a result. -/
def ofResult (result : Result) : JsonValue :=
  object
    [("ast", ofTree result.outcome.tree),
      ("errors", array (result.outcome.findings.map fun finding => text finding.report)),
      ("path", text result.path.render), ("success", bool result.outcome.isClean)]

/-- The value of some results. -/
def ofResults (results : List Result) : JsonValue :=
  object [("files", array (results.map ofResult))]

end JsonValue

end Outline.Report
