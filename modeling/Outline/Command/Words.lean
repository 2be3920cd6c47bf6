import Outline.Text.Digit

/-!
# Words of a command line

A word of a command line is an option, perhaps with an attached value, or a
plain value.  An option may be shortened to any beginning of its long name.
After two dashes all words are plain values.
-/

namespace Outline.Command

open Outline.Text

/-- The options. -/
inductive Flag where
  | help
  | format
  | output
  | exclude
  | verbose
  deriving DecidableEq

namespace Flag

/-- The names of an option. -/
def names : Flag → List String
  | help => ["-h", "--help"]
  | format => ["--format"]
  | output => ["--output"]
  | exclude => ["--exclude"]
  | verbose => ["--verbose"]

/-- Whether an option needs a value. -/
def takesValue : Flag → Bool
  | format | output | exclude => true
  | help | verbose => false

/-- What an option is called in a message. -/
def title (flag : Flag) : String :=
  String.intercalate "/" flag.names

end Flag

/-- A text that is written in one word with an option. -/
inductive Attached where
  /-- The text after a long name and an equals sign. -/
  | assigned (text : String)
  /-- The text after a one-letter name; an equals sign may stand between them. -/
  | joined (text : String)
  deriving DecidableEq

/-- The text that is given to a name behind an equals sign. -/
def Attached.ofGiven (name : List Char) (text : String) : Attached :=
  if ['-', '-'].isPrefixOf name then .assigned text else .joined text

/-- One word of a command line. -/
inductive Word where
  /-- Two dashes; they are not part of the values. -/
  | separator
  | value (text : String)
  | option (flag : Flag) (attached : Option Attached)
  /-- A word that looks like an option. -/
  | unknown (text : String)
  /-- A beginning of the names of several options. -/
  | ambiguous (text : String) (names : List String)
  deriving DecidableEq

/-- The parts of a word before and after its first equals sign, if it has one. -/
def splitAssignment (word : List Char) : List Char × Option (List Char) :=
  match word.dropWhile (· ≠ '=') with
  | [] => (word, none)
  | _ :: text => (word.takeWhile (· ≠ '='), some text)

/-- The option with a given name. -/
def named? (flags : List Flag) (name : String) : Option Flag :=
  flags.find? fun flag => flag.names.contains name

/-- The names that begin with a text, each with its option. -/
def namesFrom (flags : List Flag) (start : List Char) : List (String × Flag) :=
  flags.flatMap fun flag =>
    (flag.names.filter fun name => start.isPrefixOf name.toList).map fun name => (name, flag)

/-- Whether a word is a negative number, as a whole or with a line feed after it. -/
def isNegativeNumber (word : List Char) : Bool :=
  match word with
  | '-' :: rest =>
    let number := if rest.getLast? = some '\n' then rest.dropLast else rest
    let whole := number.takeWhile isDigit
    match number.dropWhile isDigit with
    | [] => !whole.isEmpty
    | '.' :: places => !places.isEmpty && places.all isDigit
    | _ => false
  | _ => false

/-- A word that begins with a dash and is no option. -/
def Word.ofOther (text : String) : Word :=
  if isNegativeNumber text.toList || text.toList.contains ' ' then .value text else .unknown text

/-- A word that begins with two dashes and is no name as a whole. -/
def Word.ofLong (flags : List Flag) (text : String) : Word :=
  let (start, assigned) := splitAssignment text.toList
  match namesFrom flags start with
  | [] => .ofOther text
  | [(_, flag)] => .option flag (assigned.map fun value => .assigned (String.ofList value))
  | several => .ambiguous text (several.map Prod.fst)

/-- A word that begins with one dash and is no name as a whole. -/
def Word.ofShort (flags : List Flag) (text : String) : Word :=
  match named? flags (String.ofList (text.toList.take 2)) with
  | some flag => .option flag (some (.joined (String.ofList (text.toList.drop 2))))
  | none => .ofOther text

/-- A word that begins with a dash and is no name as a whole. -/
def Word.ofUnnamed (flags : List Flag) (text : String) : Word :=
  if ['-', '-'].isPrefixOf text.toList then .ofLong flags text else .ofShort flags text

/-- A word that begins with a dash. -/
def Word.ofDashed (flags : List Flag) (text : String) : Word :=
  match named? flags text with
  | some flag => .option flag none
  | none =>
    match splitAssignment text.toList with
    | (_, none) => .ofUnnamed flags text
    | (name, some given) =>
      match named? flags (String.ofList name) with
      | some flag => .option flag (some (.ofGiven name (String.ofList given)))
      | none => .ofUnnamed flags text

/-- A word before any two dashes. -/
def Word.ofText (flags : List Flag) (text : String) : Word :=
  match text.toList with
  | '-' :: _ :: _ => .ofDashed flags text
  | _ => .value text

/-- The words of a command line. -/
def Word.ofArguments (flags : List Flag) : List String → List Word
  | [] => []
  | text :: rest =>
    if text = "--" then
      .separator :: rest.map .value
    else
      .ofText flags text :: ofArguments flags rest

end Outline.Command
