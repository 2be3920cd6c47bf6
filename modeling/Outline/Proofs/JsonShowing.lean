import Outline.Command.Check
import Outline.Proofs.EmojiShowing
import Outline.Proofs.JsonReading

/-!
# What a terminal shows of a report

The report in JSON is printed in ASCII.  It goes through a terminal, which
replaces names between colons in the texts of the report.  All else in the report
is shown as it is written.  Which names there are is left to the terminal.
-/

namespace Outline.Report.JsonValue

open Outline.Text
open Outline.Report.Emoji

/-! ## Escapes -/

theorem eq_blank_of_isPrinted {character : Char} (printed : IsPrinted character)
    (blank : isBlank character = true) :
    character = ' ' := by
  have least : 0x20 ≤ character.toNat := printed.1
  have greatest : character.toNat ≤ 0x7E := printed.2
  have same : character.toNat = 0x20 := by
    simp [isBlank, blankRanges, CodePoints.covers] at blank
    omega
  exact Char.toNat_inj.mp same

theorem isPrinted_digitChar {digit : Nat} (small : digit < 16) :
    IsPrinted (Nat.digitChar digit) ∧ (Nat.digitChar digit).isAlphanum = true := by
  interval_cases digit <;> decide

/--
An escape is printed in ASCII.  It holds the character itself, or a backslash
with letters and digits behind it.
-/
theorem of_mem_escape {character written : Char} (member : written ∈ escape character) :
    IsPrinted written ∧
      (written = character ∨ written = '\\' ∨ written.isAlphanum = true) := by
  have behind (letter : Char) (known : IsPrinted letter ∧ letter.isAlphanum = true)
      (inside : written ∈ ['\\', letter]) :
      IsPrinted written ∧ (written = character ∨ written = '\\' ∨ written.isAlphanum = true) := by
    rcases List.mem_pair.mp inside with rfl | rfl
    · exact ⟨by decide, .inr (.inl rfl)⟩
    · exact ⟨known.1, .inr (.inr known.2)⟩
  have unit {value : Nat} (inside : written ∈ escapeUnit value) :
      IsPrinted written ∧ (written = character ∨ written = '\\' ∨ written.isAlphanum = true) := by
    simp only [escapeUnit, hexDigits, List.mem_cons, List.mem_reverse, List.mem_map] at inside
    rcases inside with front | letter | ⟨place, -, digit⟩
    · exact behind 'u' (by decide) (by simp [front])
    · exact behind 'u' (by decide) (by simp [letter])
    · have small : value / Nat.pow 16 place % 16 < 16 := Nat.mod_lt _ (by decide)
      exact behind _ (isPrinted_digitChar small) (digit ▸ List.mem_cons_of_mem _ List.mem_cons_self)
  unfold escape at member
  split_ifs at member with special feed back tab page rub printed small
  · simp only [Bool.or_eq_true, decide_eq_true_eq] at special
    rcases List.mem_pair.mp member with rfl | rfl
    · exact ⟨by decide, .inr (.inl rfl)⟩
    · exact ⟨by rcases special with rfl | rfl <;> decide, .inl rfl⟩
  · exact behind _ (by decide) member
  · exact behind _ (by decide) member
  · exact behind _ (by decide) member
  · exact behind _ (by decide) member
  · exact behind _ (by decide) member
  · simp only [Bool.and_eq_true, decide_eq_true_eq] at printed
    obtain rfl := List.mem_singleton.mp member
    exact ⟨printed, .inl rfl⟩
  · exact unit member
  · exact (List.mem_append.mp member).elim unit unit

theorem eq_of_mem_escape_colon {character : Char} (member : ':' ∈ escape character) :
    character = ':' := by
  rcases (of_mem_escape member).2 with same | other | other
  · exact same.symm
  · exact absurd other (by decide)
  · exact absurd other (by decide)

theorem eq_of_mem_escape_blank {character blank : Char} (member : blank ∈ escape character)
    (ends : isBlank blank = true) :
    character = ' ' := by
  rcases of_mem_escape member with ⟨printed, source⟩
  obtain rfl := eq_blank_of_isPrinted printed ends
  rcases source with same | other | other
  · exact same.symm
  · exact absurd other (by decide)
  · exact absurd other (by decide)

/-- What stands for a text holds colons and blanks only where the text does. -/
theorem colon_not_mem_flatMap_escape {text : List Char} (free : ':' ∉ text) :
    ':' ∉ text.flatMap escape := by
  intro member
  rcases List.mem_flatMap.mp member with ⟨character, inside, written⟩
  exact free (eq_of_mem_escape_colon written ▸ inside)

theorem isBlank_of_mem_flatMap_escape {text : List Char} (firm : ' ' ∉ text) :
    ∀ character ∈ text.flatMap escape, isBlank character = false := by
  intro character member
  rcases List.mem_flatMap.mp member with ⟨source, inside, written⟩
  by_contra blank
  exact firm (eq_of_mem_escape_blank written (Bool.eq_true_of_not_eq_false blank) ▸ inside)

theorem flatMap_escape_intercalate {separator : Char} (plain : escape separator = [separator])
    (parts : List (List Char)) :
    ([separator].intercalate parts).flatMap escape =
      [separator].intercalate (parts.map (List.flatMap escape)) := by
  match parts with
  | [] => rfl
  | [part] => simp
  | first :: second :: rest =>
      have further := flatMap_escape_intercalate plain (second :: rest)
      rw [List.map_cons] at further
      simp [List.intercalate_cons_cons, plain, further]

/-! ## Texts -/

/-- The emoji that is shown for a name in a text of the report. -/
def emojiFor? (terminal : Terminal) (name : List Char) : Option (List Char) :=
  terminal.emoji? (name.flatMap escape)

/-- A text as a terminal shows it. -/
def shown (terminal : Terminal) (text : String) : String :=
  String.ofList (showText (emojiFor? terminal) text.toList)

/-- What is shown of what stands for a text. -/
def displayed (terminal : Terminal) (text : String) : List Char :=
  replaceNames terminal.emoji? (escaped text)

variable {terminal : Terminal}

theorem replaceNames_escaped_word {word : List Char} (firm : ' ' ∉ word) :
    replaceNames terminal.emoji? (word.flatMap escape) =
      showParts terminal.emoji? ((word.splitOn ':').map (List.flatMap escape)) := by
  have cut : word.flatMap escape =
      [':'].intercalate ((word.splitOn ':').map (List.flatMap escape)) := by
    rw [← flatMap_escape_intercalate (by decide), List.intercalate_splitOn]
  rw [cut, replaceNames_intercalate_colon]
  intro part member
  rcases List.mem_map.mp member with ⟨plain, inside, rfl⟩
  exact ⟨colon_not_mem_flatMap_escape (not_mem_of_mem_splitOn inside),
    isBlank_of_mem_flatMap_escape fun blank => firm (mem_of_mem_splitOn inside blank)⟩

theorem replaceNames_escaped (text : String) :
    replaceNames terminal.emoji? (escaped text) =
      [' '].intercalate
        ((text.toList.splitOn ' ').map fun word =>
          showParts terminal.emoji? ((word.splitOn ':').map (List.flatMap escape))) := by
  have cut : escaped text =
      [' '].intercalate ((text.toList.splitOn ' ').map (List.flatMap escape)) := by
    rw [← flatMap_escape_intercalate (by decide), List.intercalate_splitOn, escaped]
  rw [cut, replaceNames_intercalate_blank (by decide), List.map_map]
  exact congrArg _ (List.map_congr_left fun word member =>
    replaceNames_escaped_word (not_mem_of_mem_splitOn member))

namespace TextReader

theorem reads_of_forall_isSafe {text : List Char}
    (safe : ∀ character ∈ text, Terminal.isSafe character = true) :
    Reads text text := by
  induction text with
  | nil => exact reads_nil
  | cons character text induction =>
      rcases (isSafe_iff character).mp (safe character List.mem_cons_self) with
        ⟨-, quote, backslash, printed⟩
      exact (reads_singleton quote backslash printed).append
        (induction fun other member => safe other (List.mem_cons_of_mem _ member))

/-- A name stands for an emoji or for itself. -/
theorem reads_name (lawful : terminal.Replaces) (name : List Char) :
    Reads ((terminal.emoji? (name.flatMap escape)).getD (':' :: name.flatMap escape ++ [':']))
      ((emojiFor? terminal name).getD (':' :: name ++ [':'])) := by
  have colon : Reads [':'] [':'] := reads_singleton (by decide) (by decide) (by decide)
  rw [emojiFor?]
  cases known : terminal.emoji? (name.flatMap escape) with
  | none => exact colon.append ((reads_flatMap_escape name).append colon)
  | some emoji => exact reads_of_forall_isSafe (lawful.safe known)

theorem reads_showParts (lawful : terminal.Replaces) (parts : List (List Char)) :
    Reads (showParts terminal.emoji? (parts.map (List.flatMap escape)))
      (showParts (emojiFor? terminal) parts) := by
  have colon : Reads [':'] [':'] := reads_singleton (by decide) (by decide) (by decide)
  fun_induction showParts (emojiFor? terminal) parts with
  | case1 => exact reads_nil
  | case2 only => exact reads_flatMap_escape only
  | case3 first last =>
      exact (reads_flatMap_escape first).append (colon.append (reads_flatMap_escape last))
  | case4 first name next rest induction =>
      exact (reads_flatMap_escape first).append ((reads_name lawful name).append induction)

theorem reads_intercalate_blank {Word : Type} {written read : Word → List Char}
    (reads : ∀ word, Reads (written word) (read word)) (words : List Word) :
    Reads ([' '].intercalate (words.map written)) ([' '].intercalate (words.map read)) := by
  match words with
  | [] => exact reads_nil
  | [word] => simpa using reads word
  | first :: second :: rest =>
      have blank : Reads [' '] [' '] := reads_singleton (by decide) (by decide) (by decide)
      simp only [List.map_cons, List.intercalate_cons_cons]
      exact ((reads first).append blank).append (reads_intercalate_blank reads (second :: rest))

/-- What is shown of a text is read as the text with its names replaced. -/
theorem reads_displayed (lawful : terminal.Replaces) (text : String) :
    Reads (displayed terminal text) (shown terminal text).toList := by
  rw [displayed, replaceNames_escaped, shown, String.toList_ofList, showText]
  exact reads_intercalate_blank
    (fun word : List Char => reads_showParts lawful (word.splitOn ':')) _

end TextReader

/-! ## Values -/

mutual

/-- The names in the objects of a value. -/
def names : JsonValue → List String
  | null => []
  | bool _ => []
  | number _ => []
  | text _ => []
  | array items => namesOfItems items
  | object fields => namesOfFields fields

/-- The names in the objects of some values. -/
def namesOfItems : List JsonValue → List String
  | [] => []
  | item :: rest => item.names ++ namesOfItems rest

/-- The names of some values by name, and those in their objects. -/
def namesOfFields : List (String × JsonValue) → List String
  | [] => []
  | (name, value) :: rest => name :: (value.names ++ namesOfFields rest)

end

theorem replaceNames_gap (level : Nat) (rest : List Char) :
    replaceNames terminal.emoji? (gap level ++ rest) =
      gap level ++ replaceNames terminal.emoji? rest :=
  replaceNames_append_of_colon_not_mem (by simp [gap]) rest

theorem leavesOpen_gap (level : Nat) (rest : List Char) : LeavesOpen (gap level ++ rest) :=
  .of_blank (by decide) _

theorem leavesOpen_writeItemsAs (level : Nat) (items : List JsonValue) {rest : List Char}
    (leaves : LeavesOpen rest) :
    LeavesOpen (writeItemsAs escaped level items ++ rest) := by
  cases items with
  | nil => exact leaves
  | cons item items =>
      rw [writeItemsAs, List.cons_append, List.append_assoc]
      exact (leavesOpen_gap level _).cons (by decide)

theorem leavesOpen_writeFieldsAs (level : Nat) (fields : List (String × JsonValue))
    {rest : List Char} (leaves : LeavesOpen rest) :
    LeavesOpen (writeFieldsAs escaped level fields ++ rest) := by
  cases fields with
  | nil => exact leaves
  | cons field fields =>
      rw [writeFieldsAs, List.cons_append, List.append_assoc]
      exact (leavesOpen_gap level _).cons (by decide)

mutual

/-- A terminal changes nothing but the texts of a value, if no name holds a colon. -/
theorem replaceNames_writeAs (value : JsonValue) (level : Nat)
    (plain : ∀ name ∈ value.names, ':' ∉ name.toList) {rest : List Char}
    (leaves : LeavesOpen rest) :
    replaceNames terminal.emoji? (writeAs escaped level value ++ rest) =
      writeAs (displayed terminal) level value ++ replaceNames terminal.emoji? rest := by
  match value with
  | null => exact replaceNames_append_of_colon_not_mem (by simp [writeAs]) rest
  | bool true => exact replaceNames_append_of_colon_not_mem (by simp [writeAs]) rest
  | bool false => exact replaceNames_append_of_colon_not_mem (by simp [writeAs]) rest
  | number value =>
      rw [writeAs, writeAs]
      exact replaceNames_append_of_colon_not_mem
        (fun member => absurd (of_mem_toString member) (by decide)) rest
  | text value =>
      have behind : LeavesOpen ('"' :: rest) := leaves.cons (by decide)
      simp only [writeAs, List.cons_append, List.append_assoc, List.nil_append]
      rw [replaceNames_cons (by decide), behind.replaceNames_append, replaceNames_cons (by decide),
        displayed]
  | array [] => exact replaceNames_append_of_colon_not_mem (by simp [writeAs]) rest
  | array (item :: items) =>
      rw [names, namesOfItems, List.forall_mem_append] at plain
      simp only [writeAs, List.cons_append, List.append_assoc, List.nil_append]
      rw [replaceNames_cons (by decide), replaceNames_gap,
        replaceNames_writeAs item _ plain.1 (leavesOpen_writeItemsAs _ _ (leavesOpen_gap _ _)),
        replaceNames_writeItemsAs items _ plain.2 (leavesOpen_gap _ _), replaceNames_gap,
        replaceNames_cons (by decide)]
  | object [] => exact replaceNames_append_of_colon_not_mem (by simp [writeAs]) rest
  | object ((name, value) :: fields) =>
      rw [names, namesOfFields, List.forall_mem_cons, List.forall_mem_append] at plain
      simp only [writeAs, List.cons_append, List.append_assoc, List.nil_append]
      rw [replaceNames_cons (by decide), replaceNames_gap,
        replaceNames_writeFieldAs name value _ plain.1 plain.2.1
          (leavesOpen_writeFieldsAs _ _ (leavesOpen_gap _ _)),
        replaceNames_writeFieldsAs fields _ plain.2.2 (leavesOpen_gap _ _), replaceNames_gap,
        replaceNames_cons (by decide)]

theorem replaceNames_writeItemsAs (items : List JsonValue) (level : Nat)
    (plain : ∀ name ∈ namesOfItems items, ':' ∉ name.toList) {rest : List Char}
    (leaves : LeavesOpen rest) :
    replaceNames terminal.emoji? (writeItemsAs escaped level items ++ rest) =
      writeItemsAs (displayed terminal) level items ++ replaceNames terminal.emoji? rest := by
  match items with
  | [] => rfl
  | item :: items =>
      rw [namesOfItems, List.forall_mem_append] at plain
      simp only [writeItemsAs, List.cons_append, List.append_assoc]
      rw [replaceNames_cons (by decide), replaceNames_gap,
        replaceNames_writeAs item level plain.1 (leavesOpen_writeItemsAs _ _ leaves),
        replaceNames_writeItemsAs items level plain.2 leaves]

theorem replaceNames_writeFieldAs (name : String) (value : JsonValue) (level : Nat)
    (free : ':' ∉ name.toList) (plain : ∀ name ∈ value.names, ':' ∉ name.toList)
    {rest : List Char} (leaves : LeavesOpen rest) :
    replaceNames terminal.emoji? (writeFieldAs escaped level (name, value) ++ rest) =
      writeFieldAs (displayed terminal) level (name, value) ++
        replaceNames terminal.emoji? rest := by
  simp only [writeFieldAs, List.cons_append, List.append_assoc]
  rw [replaceNames_cons (by decide),
    replaceNames_append_of_colon_not_mem (colon_not_mem_flatMap_escape free),
    replaceNames_cons (by decide)]
  -- The colon behind the name opens nothing, since a blank follows it.
  have colon (further : List Char) :
      replaceNames terminal.emoji? (':' :: ' ' :: further) =
        ':' :: ' ' :: replaceNames terminal.emoji? further :=
    replaceNames_append_blank [':'] (by decide) further
  rw [colon, replaceNames_writeAs value level plain leaves]

theorem replaceNames_writeFieldsAs (fields : List (String × JsonValue)) (level : Nat)
    (plain : ∀ name ∈ namesOfFields fields, ':' ∉ name.toList) {rest : List Char}
    (leaves : LeavesOpen rest) :
    replaceNames terminal.emoji? (writeFieldsAs escaped level fields ++ rest) =
      writeFieldsAs (displayed terminal) level fields ++ replaceNames terminal.emoji? rest := by
  match fields with
  | [] => rfl
  | (name, value) :: fields =>
      rw [namesOfFields, List.forall_mem_cons, List.forall_mem_append] at plain
      simp only [writeFieldsAs, List.cons_append, List.append_assoc]
      rw [replaceNames_cons (by decide), replaceNames_gap,
        replaceNames_writeFieldAs name value level plain.1 plain.2.1
          (leavesOpen_writeFieldsAs _ _ leaves),
        replaceNames_writeFieldsAs fields level plain.2.2 leaves]

end

/-! ## Printed characters -/

/-- A line feed, or a character that is printed in ASCII. -/
def IsWritten (character : Char) : Prop :=
  character = '\n' ∨ IsPrinted character

instance (character : Char) : Decidable (IsWritten character) :=
  inferInstanceAs (Decidable (_ ∨ _))

theorem isWritten_of_all {text : List Char}
    (printed : (text.all fun character => decide (IsWritten character)) = true) :
    ∀ character ∈ text, IsWritten character := by
  simpa using printed

theorem isWritten_escaped (text : String) : ∀ character ∈ escaped text, IsWritten character := by
  intro character member
  rcases List.mem_flatMap.mp member with ⟨source, -, written⟩
  exact .inr (of_mem_escape written).1

theorem isWritten_gap (level : Nat) : ∀ character ∈ gap level, IsWritten character := by
  intro character member
  rcases List.mem_cons.mp member with rfl | blank
  · exact .inl rfl
  · rw [List.eq_of_mem_replicate blank]
    decide

theorem isWritten_toString (value : Int) :
    ∀ character ∈ (toString value).toList, IsWritten character := by
  intro character member
  have digit := of_mem_toString member
  simp only [Bool.or_eq_true, decide_eq_true_eq, Char.isDigit, Bool.and_eq_true] at digit
  rcases digit with rfl | ⟨least, greatest⟩
  · decide
  · exact .inr ⟨Char.le_trans (by decide) least, Char.le_trans greatest (by decide)⟩

mutual

/-- A report in JSON is printed in ASCII. -/
theorem isWritten_writeAs (value : JsonValue) (level : Nat) :
    ∀ character ∈ writeAs escaped level value, IsWritten character := by
  match value with
  | null | bool true | bool false | array [] | object [] =>
      rw [writeAs]
      exact isWritten_of_all (by decide)
  | number value => exact isWritten_toString value
  | text value =>
      rw [writeAs, List.forall_mem_cons]
      simp only [List.forall_mem_append]
      exact ⟨by decide, isWritten_escaped value, isWritten_of_all (by decide)⟩
  | array (item :: items) =>
      rw [writeAs, List.forall_mem_cons]
      simp only [List.forall_mem_append]
      exact ⟨by decide, isWritten_gap _, isWritten_writeAs item _, isWritten_writeItemsAs items _,
        isWritten_gap _, isWritten_of_all (by decide)⟩
  | object (field :: fields) =>
      rw [writeAs, List.forall_mem_cons]
      simp only [List.forall_mem_append]
      exact ⟨by decide, isWritten_gap _, isWritten_writeFieldAs field _,
        isWritten_writeFieldsAs fields _, isWritten_gap _, isWritten_of_all (by decide)⟩

theorem isWritten_writeItemsAs (items : List JsonValue) (level : Nat) :
    ∀ character ∈ writeItemsAs escaped level items, IsWritten character := by
  match items with
  | [] => exact fun _ member => nomatch member
  | item :: items =>
      simp only [writeItemsAs, List.forall_mem_cons, List.forall_mem_append]
      exact ⟨by decide, isWritten_gap _, isWritten_writeAs item _, isWritten_writeItemsAs items _⟩

theorem isWritten_writeFieldAs (field : String × JsonValue) (level : Nat) :
    ∀ character ∈ writeFieldAs escaped level field, IsWritten character := by
  match field with
  | (name, value) =>
      simp only [writeFieldAs, List.forall_mem_cons, List.forall_mem_append]
      exact ⟨by decide, isWritten_escaped name, by decide, by decide, by decide,
        isWritten_writeAs value _⟩

theorem isWritten_writeFieldsAs (fields : List (String × JsonValue)) (level : Nat) :
    ∀ character ∈ writeFieldsAs escaped level fields, IsWritten character := by
  match fields with
  | [] => exact fun _ member => nomatch member
  | field :: fields =>
      simp only [writeFieldsAs, List.forall_mem_cons, List.forall_mem_append]
      exact ⟨by decide, isWritten_gap _, isWritten_writeFieldAs field _,
        isWritten_writeFieldsAs fields _⟩

end

theorem isWritten_render (value : JsonValue) :
    ∀ character ∈ value.render.toList, IsWritten character := by
  rw [render, toList_write]
  exact isWritten_writeAs value 0

/-- What a terminal shows of a value, and ends with a line feed, is a value with other texts. -/
theorem read?_display_render (lawful : terminal.Replaces) {value : JsonValue}
    (plain : ∀ name ∈ value.names, ':' ∉ name.toList) :
    read? (terminal.display value.render ++ "\n") = some (value.mapTexts (shown terminal)) := by
  have nothing : LeavesOpen [] := ⟨[], [], rfl, by simp, by simp⟩
  have displays : (terminal.display value.render).toList =
      writeAs (displayed terminal) 0 value := by
    rw [(lawful.shows _ (isWritten_render value)).eq_replaceNames, render, toList_write]
    simpa using replaceNames_writeAs value 0 plain nothing
  have whole : terminal.display value.render ++ "\n" =
      String.ofList (writeAs (displayed terminal) 0 value ++ ['\n']) := by
    rw [String.ofList_append, ← displays, String.ofList_toList]
  rw [whole]
  exact read?_writeAs (TextReader.reads_displayed lawful) value ['\n'] (by simp [isGap])

/-! ## The report -/

mutual

theorem colon_not_mem_names_ofTree (tree : Tree) :
    ∀ name ∈ (ofTree tree).names, ':' ∉ name.toList := by
  rcases tree with ⟨entry, children⟩
  have option (value : Option String) : (ofOption value).names = [] := by
    cases value <;> rfl
  have name : (if entry.name = "" then null else text entry.name).names = [] := by
    split_ifs <;> rfl
  have below := colon_not_mem_namesOfItems_ofTrees children
  simpa [ofTree, names, namesOfFields, option, name, or_imp, forall_and] using below

theorem colon_not_mem_namesOfItems_ofTrees (trees : List Tree) :
    ∀ name ∈ namesOfItems (ofTrees trees), ':' ∉ name.toList := by
  match trees with
  | [] => simp [ofTrees, namesOfItems]
  | tree :: rest =>
      rw [ofTrees, namesOfItems, List.forall_mem_append]
      exact ⟨colon_not_mem_names_ofTree tree, colon_not_mem_namesOfItems_ofTrees rest⟩

end

theorem colon_not_mem_names_ofResults (results : List Result) :
    ∀ name ∈ (ofResults results).names, ':' ∉ name.toList := by
  have reports (findings : List Finding) :
      namesOfItems (findings.map fun finding => text finding.report) = [] := by
    induction findings with
    | nil => rfl
    | cons finding rest induction => simpa [namesOfItems, names] using induction
  have single (result : Result) : ∀ name ∈ (ofResult result).names, ':' ∉ name.toList := by
    have below := colon_not_mem_names_ofTree result.outcome.tree
    simpa [ofResult, names, namesOfFields, reports, or_imp, forall_and] using below
  have all : ∀ name ∈ namesOfItems (results.map ofResult), ':' ∉ name.toList := by
    induction results with
    | nil => simp [namesOfItems]
    | cons result rest induction =>
        rw [List.map_cons, namesOfItems, List.forall_mem_append]
        exact ⟨single result, induction⟩
  simpa [ofResults, names, namesOfFields] using all

end Outline.Report.JsonValue
