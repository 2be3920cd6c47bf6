import Mathlib.Algebra.BigOperators.Ring.List
import Mathlib.Algebra.Ring.Nat
import Outline.Report.Emoji

/-!
# What a terminal shows of a text

What is shown of a text is described by the words of the text, which are what is
between its blanks, and by the parts of a word between its colons.  Every second
part of a word that has a part behind it is read as a name, whether or not the
name before it was known.  The scan that replaces the names of emoji shows a text
in this way, for any table of emoji.
-/

namespace Outline.Report

open Outline.Text

namespace Emoji

section

variable {emoji? : List Char → Option (List Char)}

/-! ## The scan -/

theorem colon_of_isBlank {character : Char} (blank : isBlank character = true) :
    character ≠ ':' := by
  rintro rfl
  exact absurd blank (by decide)

/-- What has been shown stays in front. -/
theorem finish_foldl_read_append (text shown before : List Char) (name : Option (List Char)) :
    (text.foldl (Scan.read emoji?) ⟨shown ++ before, name⟩).finish =
      before.reverse ++ (text.foldl (Scan.read emoji?) ⟨shown, name⟩).finish := by
  induction text generalizing shown name with
  | nil => cases name <;> simp [Scan.finish]
  | cons character text induction =>
      have stepped : Scan.read emoji? ⟨shown ++ before, name⟩ character =
          ⟨(Scan.read emoji? ⟨shown, name⟩ character).shown ++ before,
            (Scan.read emoji? ⟨shown, name⟩ character).name⟩ := by
        cases name with
        | none => by_cases colon : character = ':' <;> simp [Scan.read, colon]
        | some name =>
            by_cases colon : character = ':'
            · simp [Scan.read, colon]
            · cases blank : isBlank character <;> simp [Scan.read, colon, blank]
      rw [List.foldl_cons, stepped, induction, List.foldl_cons]

theorem finish_foldl_read (text shown : List Char) :
    (text.foldl (Scan.read emoji?) ⟨shown, none⟩).finish =
      shown.reverse ++ replaceNames emoji? text :=
  finish_foldl_read_append text [] shown none

/-- Without colons nothing more is replaced. -/
theorem finish_foldl_read_of_colon_not_mem {text : List Char} (free : ':' ∉ text) (scan : Scan) :
    (text.foldl (Scan.read emoji?) scan).finish = scan.finish ++ text := by
  induction text generalizing scan with
  | nil => simp
  | cons character text induction =>
      rw [List.mem_cons, not_or] at free
      have stepped : (scan.read emoji? character).finish = scan.finish ++ [character] := by
        rcases scan with ⟨shown, _ | name⟩
        · simp [Scan.read, Scan.finish, Ne.symm free.1]
        · cases blank : isBlank character <;>
            simp [Scan.read, Scan.finish, Ne.symm free.1, blank]
      rw [List.foldl_cons, induction free.2, stepped, List.append_assoc, List.singleton_append]

theorem foldl_read_of_colon_not_mem {text : List Char} (free : ':' ∉ text) (shown : List Char) :
    text.foldl (Scan.read emoji?) ⟨shown, none⟩ = ⟨text.reverse ++ shown, none⟩ := by
  induction text generalizing shown with
  | nil => rfl
  | cons character text induction =>
      rw [List.mem_cons, not_or] at free
      rw [List.foldl_cons, Scan.read, if_neg (Ne.symm free.1), induction free.2]
      simp

/-- The characters of a name are gathered. -/
theorem foldl_read_name {text : List Char} (free : ':' ∉ text)
    (firm : ∀ character ∈ text, isBlank character = false) (shown name : List Char) :
    text.foldl (Scan.read emoji?) ⟨shown, some name⟩ = ⟨shown, some (text.reverse ++ name)⟩ := by
  induction text generalizing name with
  | nil => rfl
  | cons character text induction =>
      rw [List.mem_cons, not_or] at free
      have stepped : Scan.read emoji? ⟨shown, some name⟩ character =
          ⟨shown, some (character :: name)⟩ := by
        simp [Scan.read, Ne.symm free.1, firm character List.mem_cons_self]
      rw [List.foldl_cons, stepped,
        induction free.2 fun other member => firm other (List.mem_cons_of_mem _ member)]
      simp

/-! ## What is shown of the parts of a text -/

@[simp]
theorem replaceNames_nil : replaceNames emoji? [] = [] :=
  rfl

theorem replaceNames_append_of_colon_not_mem {plain : List Char} (free : ':' ∉ plain)
    (text : List Char) :
    replaceNames emoji? (plain ++ text) = plain ++ replaceNames emoji? text := by
  rw [replaceNames, List.foldl_append, foldl_read_of_colon_not_mem free, finish_foldl_read]
  simp

theorem replaceNames_cons {character : Char} (other : character ≠ ':') (text : List Char) :
    replaceNames emoji? (character :: text) = character :: replaceNames emoji? text := by
  have free : ':' ∉ [character] := by
    simpa using other.symm
  exact replaceNames_append_of_colon_not_mem free text

/-- A blank ends a name that has been opened. -/
theorem replaceNames_append_blank (first : List Char) {blank : Char} (ends : isBlank blank = true)
    (second : List Char) :
    replaceNames emoji? (first ++ blank :: second) =
      replaceNames emoji? first ++ blank :: replaceNames emoji? second := by
  have stepped (scan : Scan) : scan.read emoji? blank = ⟨blank :: scan.finish.reverse, none⟩ := by
    rcases scan with ⟨shown, _ | name⟩ <;>
      simp [Scan.read, Scan.finish, colon_of_isBlank ends, ends]
  rw [replaceNames, List.foldl_append, List.foldl_cons, stepped, finish_foldl_read]
  simp [replaceNames]

/-- A name between two colons is replaced. -/
theorem replaceNames_name {name : List Char} (free : ':' ∉ name)
    (firm : ∀ character ∈ name, isBlank character = false) (text : List Char) :
    replaceNames emoji? (':' :: (name ++ ':' :: text)) =
      replacement emoji? name ++ replaceNames emoji? text := by
  have opened : Scan.read emoji? {} ':' = ⟨[], some []⟩ := rfl
  have closed : Scan.read emoji? ⟨[], some name.reverse⟩ ':' =
      ⟨(replacement emoji? name).reverse, none⟩ := by
    simp [Scan.read]
  rw [replaceNames, List.foldl_cons, opened, List.foldl_append, foldl_read_name free firm,
    List.append_nil, List.foldl_cons, closed, finish_foldl_read, List.reverse_reverse]

end

end Emoji

open Emoji

variable {emoji? : List Char → Option (List Char)}

theorem LeavesOpen.replaceNames_append {rest : List Char} (leaves : LeavesOpen rest)
    (text : List Char) :
    replaceNames emoji? (text ++ rest) = replaceNames emoji? text ++ replaceNames emoji? rest := by
  rcases leaves with ⟨plain, further, rfl, free, ends⟩
  have inner : replaceNames emoji? (text ++ plain) = replaceNames emoji? text ++ plain := by
    rw [replaceNames, List.foldl_append, finish_foldl_read_of_colon_not_mem free, replaceNames]
  rw [replaceNames_append_of_colon_not_mem free]
  cases further with
  | nil => simp [inner]
  | cons blank further =>
      have blanks : isBlank blank = true := ends blank rfl
      rw [← List.append_assoc, replaceNames_append_blank _ blanks,
        replaceNames_cons (colon_of_isBlank blanks), inner, List.append_assoc]

theorem LeavesOpen.of_blank {blank : Char} (ends : isBlank blank = true) (rest : List Char) :
    LeavesOpen (blank :: rest) :=
  ⟨[], blank :: rest, rfl, by simp, by simpa using ends⟩

theorem LeavesOpen.cons {character : Char} (other : character ≠ ':') {rest : List Char}
    (leaves : LeavesOpen rest) :
    LeavesOpen (character :: rest) := by
  rcases leaves with ⟨plain, further, rfl, free, ends⟩
  exact ⟨character :: plain, further, rfl, by simpa using ⟨other.symm, free⟩, ends⟩

/-- A colon opens a name that is closed before a blank, or it leaves the text open. -/
theorem leavesOpen_or_exists_name (text : List Char) :
    LeavesOpen text ∨ ∃ name further, text = name ++ ':' :: further ∧ ':' ∉ name ∧
      ∀ character ∈ name, isBlank character = false := by
  induction text with
  | nil => exact .inl ⟨[], [], rfl, by simp, by simp⟩
  | cons character text induction =>
      by_cases colon : character = ':'
      · exact .inr ⟨[], text, by simp [colon], by simp, by simp⟩
      · cases blank : isBlank character with
        | true => exact .inl (.of_blank blank text)
        | false =>
            rcases induction with leaves | ⟨name, further, rfl, free, firm⟩
            · exact .inl (leaves.cons colon)
            · refine .inr ⟨character :: name, further, rfl, ?_, ?_⟩
              · simpa using ⟨Ne.symm colon, free⟩
              · exact List.forall_mem_cons.mpr ⟨blank, firm⟩

/-- The scan shows a text as a terminal does. -/
theorem shows_replaceNames (text : List Char) : Shows emoji? text (replaceNames emoji? text) := by
  match text with
  | [] => exact .nil
  | character :: text =>
      by_cases colon : character = ':'
      · subst colon
        rcases leavesOpen_or_exists_name text with leaves | ⟨name, further, rfl, free, firm⟩
        · have opened := @LeavesOpen.replaceNames_append emoji? _ leaves [':']
          rw [List.singleton_append] at opened
          rw [opened]
          exact .colon leaves (shows_replaceNames text)
        · rw [replaceNames_name free firm]
          exact .name free firm (shows_replaceNames further)
      · rw [replaceNames_cons colon]
        exact .plain colon (shows_replaceNames text)
  termination_by text.length

/-- What a terminal shows of a text is what the scan shows. -/
theorem Shows.eq_replaceNames {text shown : List Char} (shows : Shows emoji? text shown) :
    shown = replaceNames emoji? text := by
  induction shows with
  | nil => rfl
  | plain other rest induction => rw [replaceNames_cons other, induction]
  | name free firm rest induction => rw [replaceNames_name free firm, induction, replacement]
  | @colon text shown leaves rest induction =>
      have opened := @LeavesOpen.replaceNames_append emoji? _ leaves [':']
      rw [List.singleton_append] at opened
      rw [opened, induction]
      rfl

namespace Emoji

/-! ## Words and names -/

/-- A word whose names are shown in some way, from the parts between its colons. -/
def showParts (show? : List Char → Option (List Char)) : List (List Char) → List Char
  | [] => []
  | [only] => only
  | [first, last] => first ++ ':' :: last
  | first :: name :: next :: rest =>
    first ++ ((show? name).getD (':' :: name ++ [':']) ++ showParts show? (next :: rest))

/-- The names in a word, from the parts between its colons. -/
def namesOf : List (List Char) → List (List Char)
  | _ :: name :: next :: rest => name :: namesOf (next :: rest)
  | _ => []

/-- What a terminal shows of a word. -/
theorem replaceNames_intercalate_colon {parts : List (List Char)}
    (apart : ∀ part ∈ parts, ':' ∉ part ∧ ∀ character ∈ part, isBlank character = false) :
    replaceNames emoji? ([':'].intercalate parts) = showParts emoji? parts := by
  fun_induction showParts emoji? parts with
  | case1 => simp
  | case2 only =>
      have free : ':' ∉ only := (apart only (by simp)).1
      simpa using @replaceNames_append_of_colon_not_mem emoji? only free []
  | case3 first last =>
      have opened : replaceNames emoji? (':' :: last) = ':' :: last :=
        finish_foldl_read_of_colon_not_mem (apart last (by simp)).1 ⟨[], some []⟩
      simp [List.intercalate_cons_cons,
        replaceNames_append_of_colon_not_mem (apart first (by simp)).1, opened]
  | case4 first name next rest induction =>
      have named := apart name (by simp)
      have further := induction fun part member => apart part (by simp_all)
      simp only [List.intercalate_cons_cons, List.append_assoc, List.singleton_append]
      rw [replaceNames_append_of_colon_not_mem (apart first (by simp)).1,
        replaceNames_name named.1 named.2, further, replacement]

theorem replaceNames_intercalate_blank {blank : Char} (ends : isBlank blank = true)
    (words : List (List Char)) :
    replaceNames emoji? ([blank].intercalate words) =
      [blank].intercalate (words.map (replaceNames emoji?)) := by
  match words with
  | [] => simp
  | [word] => simp
  | first :: second :: rest =>
      have further := replaceNames_intercalate_blank ends (second :: rest)
      rw [List.map_cons] at further
      simp only [List.intercalate_cons_cons, List.append_assoc, List.singleton_append,
        List.map_cons, replaceNames_append_blank first ends, further]

/-! ## Texts -/

/-- A text whose names are shown in some way, word by word. -/
def showText (show? : List Char → Option (List Char)) (text : List Char) : List Char :=
  [' '].intercalate ((text.splitOn ' ').map fun word => showParts show? (word.splitOn ':'))

/-- The names in a text. -/
def namesIn (text : List Char) : List (List Char) :=
  (text.splitOn ' ').flatMap fun word => namesOf (word.splitOn ':')

theorem mem_intercalate {Item : Type} {items part : List Item} {parts : List (List Item)}
    (member : part ∈ parts) {item : Item} (inside : item ∈ part) :
    item ∈ items.intercalate parts := by
  match parts with
  | [only] => simp_all
  | first :: second :: rest =>
      rw [List.intercalate_cons_cons, List.append_assoc, List.mem_append]
      rcases List.mem_cons.mp member with rfl | further
      · exact .inl inside
      · exact .inr (List.mem_append_right _ (mem_intercalate further inside))

section Splitting

variable {Item : Type} [BEq Item] [LawfulBEq Item] {separator : Item}

theorem not_mem_of_mem_splitOn {items part : List Item} (member : part ∈ items.splitOn separator) :
    separator ∉ part := by
  induction items generalizing part with
  | nil => simp_all
  | cons item items induction =>
      rcases List.exists_cons_of_ne_nil (List.splitOn_ne_nil separator items) with
        ⟨first, rest, parts⟩
      rw [List.splitOn_cons_eq_if_modifyHead] at member
      rw [parts] at member induction
      split_ifs at member with same
      · rcases List.mem_cons.mp member with rfl | further
        · simp
        · exact induction further
      · rcases List.mem_cons.mp member with rfl | further
        · rw [List.mem_cons, not_or]
          exact ⟨fun equal => same (by simp [equal]), induction List.mem_cons_self⟩
        · exact induction (List.mem_cons_of_mem _ further)

theorem mem_of_mem_splitOn {items part : List Item} (member : part ∈ items.splitOn separator)
    {item : Item} (inside : item ∈ part) : item ∈ items := by
  have whole : [separator].intercalate (items.splitOn separator) = items :=
    List.intercalate_splitOn separator
  rw [← whole]
  exact mem_intercalate member inside

theorem count_intercalate (separator : Item) {other : Item} (different : separator ≠ other)
    (parts : List (List Item)) :
    ([separator].intercalate parts).count other = (parts.map (List.count other)).sum := by
  match parts with
  | [] => rfl
  | [part] => simp
  | first :: second :: rest =>
      have further := count_intercalate separator different (second :: rest)
      rw [List.map_cons, List.sum_cons] at further
      simp [List.intercalate_cons_cons, List.count_append, different, further]

end Splitting

section Showing

variable {show? : List Char → Option (List Char)}

theorem showParts_of_forall_none {parts : List (List Char)}
    (unknown : ∀ name ∈ namesOf parts, show? name = none) :
    showParts show? parts = [':'].intercalate parts := by
  fun_induction showParts show? parts with
  | case1 => simp
  | case2 => simp
  | case3 => simp [List.intercalate_cons_cons]
  | case4 first name next rest induction =>
      rw [namesOf, List.forall_mem_cons] at unknown
      simp [List.intercalate_cons_cons, unknown.1, induction unknown.2]

/-- Every name that is replaced takes two colons with it. -/
theorem count_showParts (free : ∀ name shown, show? name = some shown → ':' ∉ shown)
    {parts : List (List Char)} (apart : ∀ part ∈ parts, ':' ∉ part) :
    (showParts show? parts).count ':'
        + 2 * (namesOf parts).countP (fun name => (show? name).isSome) =
      ([':'].intercalate parts).count ':' := by
  fun_induction showParts show? parts with
  | case1 => simp [namesOf]
  | case2 => simp [namesOf]
  | case3 => simp [namesOf, List.intercalate_cons_cons]
  | case4 first name next rest induction =>
      have further := induction fun part member => apart part (by simp_all)
      have colons : name.count ':' = 0 := List.count_eq_zero.mpr (apart name (by simp))
      rw [namesOf, List.countP_cons]
      simp only [List.intercalate_cons_cons, List.count_append, ← further, colons]
      cases known : show? name with
      | none =>
          simp [List.count_append, colons]
          omega
      | some shown =>
          have gone : shown.count ':' = 0 := List.count_eq_zero.mpr (free name shown known)
          simp [gone]
          omega

theorem count_showText (free : ∀ name shown, show? name = some shown → ':' ∉ shown)
    (text : List Char) :
    (showText show? text).count ':'
        + 2 * (namesIn text).countP (fun name => (show? name).isSome) =
      text.count ':' := by
  have words (word : List Char) : (showParts show? (word.splitOn ':')).count ':'
      + 2 * (namesOf (word.splitOn ':')).countP (fun name => (show? name).isSome) =
        word.count ':' := by
    rw [count_showParts free fun part member => not_mem_of_mem_splitOn member,
      List.intercalate_splitOn]
  have cut : text.count ':' = ((text.splitOn ' ').map (List.count ':')).sum := by
    rw [← count_intercalate ' ' (by decide), List.intercalate_splitOn]
  rw [showText, namesIn, cut, count_intercalate ' ' (by decide), List.countP_flatMap, List.map_map,
    ← List.sum_map_mul_left, ← List.sum_map_add]
  exact congrArg List.sum (List.map_congr_left fun word _ => words word)

/-- Showing a text changes it if and only if one of its names is known. -/
theorem showText_eq_self_iff (free : ∀ name shown, show? name = some shown → ':' ∉ shown)
    (text : List Char) :
    showText show? text = text ↔ ∀ name ∈ namesIn text, show? name = none := by
  constructor
  · intro same
    have counted := count_showText free text
    rw [same] at counted
    have nothing : (namesIn text).countP (fun name => (show? name).isSome) = 0 := by
      omega
    simpa using List.countP_eq_zero.mp nothing
  · intro unknown
    have words : ∀ word ∈ text.splitOn ' ', showParts show? (word.splitOn ':') = word := by
      intro word member
      rw [showParts_of_forall_none, List.intercalate_splitOn]
      exact fun name inside => unknown name (List.mem_flatMap.mpr ⟨word, member, inside⟩)
    rw [showText, List.map_congr_left words, List.map_id', List.intercalate_splitOn]

end Showing

/-! ## The table -/

theorem isSafe_iff (character : Char) :
    Terminal.isSafe character = true ↔
      character ≠ ':' ∧ character ≠ '"' ∧ character ≠ '\\' ∧ ' ' ≤ character := by
  simp [Terminal.isSafe, and_assoc]

set_option maxRecDepth 100000 in
theorem all_isSafe_names :
    (names.all fun group => group.all fun named => named.2.all Terminal.isSafe) = true := by
  decide +kernel

theorem all_isSafe_variants :
    (variants.all fun variant => variant.2.toList.all Terminal.isSafe) = true := by
  decide

/-- An emoji holds nothing that a terminal or a reader of JSON would take for something else. -/
theorem isSafe_of_mem_emojiOf? {name emoji : List Char} (known : emojiOf? name = some emoji)
    {character : Char} (member : character ∈ emoji) :
    Terminal.isSafe character = true := by
  rw [emojiOf?, Option.map_eq_some_iff] at known
  rcases known with ⟨bare, found, rfl⟩
  rcases List.mem_append.mp member with inside | selecting
  · rw [find?] at found
    rcases List.exists_of_findSome?_eq_some found with ⟨group, inNames, item⟩
    rcases Option.map_eq_some_iff.mp item with ⟨named, first, rfl⟩
    have group_safe := List.all_eq_true.mp all_isSafe_names group inNames
    have named_safe := List.all_eq_true.mp group_safe named (List.mem_of_find?_eq_some first)
    exact List.all_eq_true.mp named_safe character inside
  · rw [splitVariant] at selecting
    split at selecting
    · simp at selecting
    · rename_i variant asked
      have variant_safe := List.all_eq_true.mp all_isSafe_variants variant
        (List.mem_of_find?_eq_some asked)
      exact List.all_eq_true.mp variant_safe character selecting

/-- The terminal that shows the emoji of the table replaces names as it is asked of one. -/
theorem replaces_terminal : terminal.Replaces where
  shows text _ := by
    rw [terminal, String.toList_ofList]
    exact shows_replaceNames text.toList
  safe known _ member := isSafe_of_mem_emojiOf? known member

end Emoji

end Outline.Report
