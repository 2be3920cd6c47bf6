import Mathlib.Data.Char
import Mathlib.Tactic.IntervalCases
import Outline.Report.Json

/-!
# Reading JSON

A reader of JSON goes through a text character by character and keeps the arrays
and objects that are open.  It is strict, and all numbers are whole.  A text is
read back from its escapes.
-/

namespace Outline.Report.JsonValue

open Outline.Text

/-! ## Texts between quotes -/

/-- What the next character of a text between quotes is part of. -/
inductive TextMode where
  | plain
  | escaped
  /-- A unit of sixteen bits, of which some digits are still missing. -/
  | unit (missing value : Nat)
  deriving DecidableEq

/-- What is known after some characters of a text between quotes. -/
structure TextReader where
  /-- The characters read, the last one first. -/
  read : List Char := []
  mode : TextMode := .plain
  /-- The first of two surrogates, while the second one is awaited. -/
  high : Option Nat := none
  deriving DecidableEq

/-- The value of a hexadecimal digit. -/
def hexValue? (character : Char) : Option Nat :=
  if '0' ≤ character && character ≤ '9' then
    some (character.toNat - '0'.toNat)
  else if 'a' ≤ character && character ≤ 'f' then
    some (10 + (character.toNat - 'a'.toNat))
  else if 'A' ≤ character && character ≤ 'F' then
    some (10 + (character.toNat - 'A'.toNat))
  else
    none

/-- What the character after a backslash stands for. -/
def meanings : List (Char × Char) :=
  [('"', '"'), ('\\', '\\'), ('/', '/'), ('b', '\x08'), ('f', '\x0c'), ('n', '\n'), ('r', '\r'),
    ('t', '\t')]

namespace TextReader

/-- Adds a character; none may stand between two surrogates. -/
def push (reader : TextReader) (character : Char) : Option TextReader :=
  match reader.high with
  | none => some { read := character :: reader.read }
  | some _ => none

/-- Adds a unit, which is a character or one of two surrogates. -/
def pushUnit (reader : TextReader) (unit : Nat) : Option TextReader :=
  match reader.high with
  | none =>
    if 0xD800 ≤ unit && unit < 0xDC00 then
      some { read := reader.read, high := some unit }
    else if 0xDC00 ≤ unit && unit < 0xE000 then
      none
    else
      some { read := Char.ofNat unit :: reader.read }
  | some high =>
    if 0xDC00 ≤ unit && unit < 0xE000 then
      some
        { read := Char.ofNat (0x10000 + (high - 0xD800) * 0x400 + (unit - 0xDC00)) :: reader.read }
    else
      none

/-- Reads one character of a text; a quote has to be escaped, and so have controls. -/
def step (reader : TextReader) (character : Char) : Option TextReader :=
  match reader.mode with
  | .plain =>
    if character = '\\' then
      some { reader with mode := .escaped }
    else if character = '"' || character < ' ' then
      none
    else
      reader.push character
  | .escaped =>
    if character = 'u' then
      some { reader with mode := .unit 4 0 }
    else
      (meanings.lookup character).bind reader.push
  | .unit missing value =>
    (hexValue? character).bind fun digit =>
      if missing ≤ 1 then
        reader.pushUnit (value * 16 + digit)
      else
        some { reader with mode := .unit (missing - 1) (value * 16 + digit) }

/-- The text that has been read, unless something of it is missing. -/
def finish? (reader : TextReader) : Option String :=
  if reader.mode = .plain && reader.high.isNone then
    some (String.ofList reader.read.reverse)
  else
    none

end TextReader

/-! ## Values -/

/-- An open array or object with what has been read of it, the last item first. -/
inductive Frame where
  | items (read : List JsonValue)
  | fields (read : List (String × JsonValue))
  /-- An object of which a name has been read, but not its value. -/
  | field (read : List (String × JsonValue)) (name : String)

/-- What the next character is part of. -/
inductive Mode where
  | value
  /-- The first item of an array, or its end. -/
  | firstItem
  /-- The first name of an object, or its end. -/
  | firstName
  | name
  | colon (name : String)
  /-- A comma, or the end of what is open. -/
  | mark
  /-- A text that is a value or a name. -/
  | text (isName : Bool) (reader : TextReader)
  /-- A number with the characters read, the last one first. -/
  | number (read : List Char)
  /-- A word of which some characters are still missing. -/
  | word (missing : List Char) (value : JsonValue)
  /-- Nothing more. -/
  | done (value : JsonValue)

/-- What is known after some characters. -/
structure Reader where
  /-- What is open, from the inside. -/
  frames : List Frame := []
  mode : Mode := .value

/-- The characters that may stand between two parts of a text in JSON. -/
def isGap (character : Char) : Bool :=
  [' ', '\n', '\r', '\t'].contains character

/-- The words for values, each with its first letter apart. -/
def words : List (Char × List Char × JsonValue) :=
  [('n', ['u', 'l', 'l'], null), ('t', ['r', 'u', 'e'], bool true),
    ('f', ['a', 'l', 's', 'e'], bool false)]

/-- The natural number that is written in some digits, without needless zeros. -/
def naturalOf? (digits : List Char) : Option Nat :=
  if digits.isEmpty || (digits.head? = some '0' && digits.length ≠ 1) then
    none
  else
    some (Nat.ofDigitChars 10 digits 0)

/-- The number that is written in digits, perhaps after a minus. -/
def numberOf? : List Char → Option Int
  | '-' :: digits => (naturalOf? digits).map Int.negOfNat
  | digits => (naturalOf? digits).map Int.ofNat

namespace Reader

/-- Puts a value where one is awaited. -/
def deliver (value : JsonValue) : List Frame → Option Reader
  | [] => some { mode := .done value }
  | .items read :: outer => some { frames := .items (value :: read) :: outer, mode := .mark }
  | .field read name :: outer =>
    some { frames := .fields ((name, value) :: read) :: outer, mode := .mark }
  | .fields _ :: _ => none

/-- Reads the first character of a value. -/
def start (frames : List Frame) (character : Char) : Option Reader :=
  if character = '"' then
    some { frames, mode := .text false {} }
  else if character = '[' then
    some { frames := .items [] :: frames, mode := .firstItem }
  else if character = '\x7b' then
    some { frames := .fields [] :: frames, mode := .firstName }
  else if character = '-' || character.isDigit then
    some { frames, mode := .number [character] }
  else
    (words.lookup character).map fun (missing, value) => { frames, mode := .word missing value }

/-- Reads the quote in front of a name. -/
def startName (frames : List Frame) (character : Char) : Option Reader :=
  if character = '"' then some { frames, mode := .text true {} } else none

/-- Reads a character that is not part of a text, a number or a word. -/
def stepBetween (reader : Reader) (character : Char) : Option Reader :=
  if isGap character then
    some reader
  else
    match reader.mode, reader.frames with
    | .value, frames => start frames character
    | .firstItem, frames =>
      if character = ']' then deliver (array []) frames.tail else start frames character
    | .firstName, frames =>
      if character = '\x7d' then deliver (object []) frames.tail else startName frames character
    | .name, frames => startName frames character
    | .colon name, .fields read :: outer =>
      if character = ':' then
        some { frames := .field read name :: outer, mode := .value }
      else
        none
    | .mark, .items read :: outer =>
      if character = ',' then
        some { frames := .items read :: outer, mode := .value }
      else if character = ']' then
        deliver (array read.reverse) outer
      else
        none
    | .mark, .fields read :: outer =>
      if character = ',' then
        some { frames := .fields read :: outer, mode := .name }
      else if character = '\x7d' then
        deliver (object read.reverse) outer
      else
        none
    | _, _ => none

/-- Reads a character of a text, or the quote behind it. -/
def stepText (frames : List Frame) (isName : Bool) (inner : TextReader) (character : Char) :
    Option Reader :=
  if character = '"' && inner.mode = .plain then
    inner.finish?.bind fun read =>
      if isName then some { frames, mode := .colon read } else deliver (text read) frames
  else
    (inner.step character).map fun next => { frames, mode := .text isName next }

/-- Reads a character of a number, or the one behind it. -/
def stepNumber (frames : List Frame) (read : List Char) (character : Char) : Option Reader :=
  if character.isDigit then
    some { frames, mode := .number (character :: read) }
  else
    (numberOf? read.reverse).bind fun value =>
      (deliver (number value) frames).bind fun next => next.stepBetween character

/-- Reads a character of a word. -/
def stepWord (frames : List Frame) (value : JsonValue) (character : Char) :
    List Char → Option Reader
  | [] => none
  | [last] => if character = last then deliver value frames else none
  | awaited :: missing =>
    if character = awaited then some { frames, mode := .word missing value } else none

/-- Reads one character. -/
def step (reader : Reader) (character : Char) : Option Reader :=
  match reader.mode with
  | .text isName inner => stepText reader.frames isName inner character
  | .number read => stepNumber reader.frames read character
  | .word missing value => stepWord reader.frames value character missing
  | _ => reader.stepBetween character

/-- Reads characters one after the other. -/
def run (reader : Reader) (characters : List Char) : Option Reader :=
  characters.foldlM step reader

end Reader

/-- The value that a text stands for.  A line feed is read after it, which ends a number. -/
def read? (text : String) : Option JsonValue :=
  match ({} : Reader).run (text.toList ++ ['\n']) with
  | some ⟨_, .done value⟩ => some value
  | _ => none

/-! ## Spellings of texts -/

theorem hexValue?_digitChar {digit : Nat} (small : digit < 16) :
    hexValue? (Nat.digitChar digit) = some digit := by
  interval_cases digit <;> rfl

namespace TextReader

/-- Some characters between quotes are read as a text, whatever stands before them. -/
def Reads (written text : List Char) : Prop :=
  ∀ read, written.foldlM step { read } = some { read := text.reverse ++ read }

theorem reads_nil : Reads [] [] :=
  fun _ => rfl

theorem Reads.append {first second text rest : List Char} (reads : Reads first text)
    (further : Reads second rest) :
    Reads (first ++ second) (text ++ rest) := by
  intro read
  rw [List.foldlM_append, reads, List.reverse_append, List.append_assoc]
  exact further _

/-- A character that needs no escape stands for itself. -/
theorem reads_singleton {character : Char} (quote : character ≠ '"') (backslash : character ≠ '\\')
    (printed : ' ' ≤ character) :
    Reads [character] [character] := by
  intro read
  have visible : ¬ character < ' ' := not_lt.mpr printed
  simp [step, backslash, quote, visible, push]

/-- An escape of a unit is read as the unit. -/
theorem foldlM_step_escapeUnit {unit : Nat} (small : unit < 0x10000) (read : List Char)
    (high : Option Nat) :
    (escapeUnit unit).foldlM step { read, high } =
      pushUnit { read, mode := .unit 1 (unit / 16), high } unit := by
  have digits : hexDigits 4 unit =
      [Nat.digitChar (unit / 4096 % 16), Nat.digitChar (unit / 256 % 16),
        Nat.digitChar (unit / 16 % 16), Nat.digitChar (unit % 16)] := by
    simp [hexDigits, List.range_succ]
  have value (part : Nat) : hexValue? (Nat.digitChar (part % 16)) = some (part % 16) :=
    hexValue?_digitChar (Nat.mod_lt _ (by decide))
  have front : ((unit / 4096 % 16 * 16 + unit / 256 % 16) * 16 + unit / 16 % 16) = unit / 16 := by
    omega
  have whole : unit / 16 * 16 + unit % 16 = unit := by
    omega
  simp [escapeUnit, digits, step, value, front, whole]

theorem reads_meaning {letter character : Char} (other : letter ≠ 'u')
    (known : meanings.lookup letter = some character) :
    Reads ['\\', letter] [character] := by
  intro read
  simp [step, other, known, push]

/-- A character of the basic plane is one unit, which is no surrogate. -/
theorem reads_escapeUnit {character : Char} (small : character.toNat < 0x10000) :
    Reads (escapeUnit character.toNat) [character] := by
  have valid : character.toNat < 0xD800 ∨ 0xDFFF < character.toNat ∧ character.toNat < 0x110000 :=
    character.valid
  intro read
  rw [foldlM_step_escapeUnit small, pushUnit]
  have single : ¬ (0xD800 ≤ character.toNat && character.toNat < 0xDC00) = true ∧
      ¬ (0xDC00 ≤ character.toNat && character.toNat < 0xE000) = true := by
    simp only [Bool.and_eq_true, decide_eq_true_eq]
    omega
  rw [if_neg single.1, if_neg single.2, Char.ofNat_toNat]
  rfl

theorem pushUnit_high {unit : Nat} (least : 0xD800 ≤ unit) (greatest : unit < 0xDC00)
    (read : List Char) (mode : TextMode) :
    pushUnit { read, mode } unit = some { read, high := some unit } := by
  simp [pushUnit, least, greatest]

theorem pushUnit_low {unit : Nat} (least : 0xDC00 ≤ unit) (greatest : unit < 0xE000)
    (read : List Char) (mode : TextMode) (high : Nat) :
    pushUnit { read, mode, high := some high } unit =
      some
        { read := Char.ofNat (0x10000 + (high - 0xD800) * 0x400 + (unit - 0xDC00)) :: read } := by
  simp [pushUnit, least, greatest]

/-- A character above the basic plane is two units, both of them surrogates. -/
theorem reads_surrogates {character : Char} (large : 0x10000 ≤ character.toNat) :
    Reads
      (escapeUnit (0xD800 + (character.toNat - 0x10000) / 0x400)
        ++ escapeUnit (0xDC00 + (character.toNat - 0x10000) % 0x400))
      [character] := by
  have valid : character.toNat < 0xD800 ∨ 0xDFFF < character.toNat ∧ character.toNat < 0x110000 :=
    character.valid
  obtain ⟨high, first⟩ : ∃ high, 0xD800 + (character.toNat - 0x10000) / 0x400 = high := ⟨_, rfl⟩
  obtain ⟨low, second⟩ : ∃ low, 0xDC00 + (character.toNat - 0x10000) % 0x400 = low := ⟨_, rfl⟩
  have joined : 0x10000 + (high - 0xD800) * 0x400 + (low - 0xDC00) = character.toNat := by
    omega
  intro read
  rw [first, second, List.foldlM_append, foldlM_step_escapeUnit (by omega),
    pushUnit_high (by omega) (by omega), Option.bind_eq_bind, Option.bind_some,
    foldlM_step_escapeUnit (by omega), pushUnit_low (by omega) (by omega), joined,
    Char.ofNat_toNat]
  rfl

/-- Every character is read back from its escape. -/
theorem reads_escape (character : Char) : Reads (escape character) [character] := by
  unfold escape
  split_ifs with special feed back tab page rub printed small
  · simp only [Bool.or_eq_true, decide_eq_true_eq] at special
    rcases special with rfl | rfl <;> exact reads_meaning (by decide) rfl
  · exact feed ▸ reads_meaning (by decide) rfl
  · exact back ▸ reads_meaning (by decide) rfl
  · exact tab ▸ reads_meaning (by decide) rfl
  · exact page ▸ reads_meaning (by decide) rfl
  · exact rub ▸ reads_meaning (by decide) rfl
  · simp only [Bool.or_eq_true, Bool.and_eq_true, decide_eq_true_eq, not_or] at special printed
    exact reads_singleton special.1 special.2 printed.1
  · exact reads_escapeUnit small
  · exact reads_surrogates (not_lt.mp small)

theorem reads_flatMap_escape (text : List Char) : Reads (text.flatMap escape) text := by
  induction text with
  | nil => exact reads_nil
  | cons character rest induction => exact (reads_escape character).append induction

end TextReader

end Outline.Report.JsonValue
