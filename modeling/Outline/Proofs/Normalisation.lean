import Outline.Proofs.Influence
import Outline.Proofs.Rendering

/-!
# How a line is written does not matter

A line is indented with spaces or with tabs, it may have blanks at its end, and a
carriage return before the line feed that ends it.  None of this can be seen in
the outcome of a document: what a line says depends on the width of its
indentation and on its text, and the outcome depends on what the lines say.

So a document may be brought into the written form of its lines, and any two
documents that differ in such things only have the same outcome.
-/

namespace Outline

namespace Text

variable {drop : Char → Bool}

/-- What follows a last character that stays does not matter before it. -/
theorem trimEnd_append_kept {text : List Char} (tail : List Char)
    (kept : ∀ character ∈ text.getLast?, drop character = false) :
    trimEnd drop (text ++ tail) = text ++ trimEnd drop tail := by
  rw [trimEnd_append]
  split
  · rename_i empty
    rw [empty, List.append_nil, trimEnd_eq_self kept]
  · rfl

/-- A text has the parts between its separators as its lines; an empty last part is no line. -/
theorem splitOn_eq_linesOf (text : List Char) :
    text.splitOn '\n' = linesOf isLineFeed text ∨
      text.splitOn '\n' = linesOf isLineFeed text ++ [[]] := by
  induction text with
  | nil => exact .inr rfl
  | cons first rest induction =>
      rw [List.splitOn, List.splitOnP_cons_eq_if_modifyHead, ← List.splitOn]
      show _ = consLines isLineFeed first (linesOf isLineFeed rest) ∨
        _ = consLines isLineFeed first (linesOf isLineFeed rest) ++ [[]]
      cases ended : isLineFeed first with
      | true =>
          have feed : (first == '\n') = true := by simpa [isLineFeed] using ended
          simpa [feed, consLines, ended] using induction
      | false =>
          have other : (first == '\n') = false := by simpa [isLineFeed] using ended
          cases cut : linesOf isLineFeed rest with
          | nil =>
              have single := (cut ▸ induction).resolve_left (List.splitOnP_ne_nil _ _)
              simp [other, consLines, ended, single]
          | cons line others =>
              rw [cut] at induction
              rcases induction with same | same <;> simp [other, consLines, ended, same]

end Text

open Outline.Text

namespace Line

/-! ## What a raw line says -/

/-- What a raw line says, if it says something. -/
def spoken? (raw : String) : Option Line :=
  if speaks raw then some (ofRaw raw 0) else none

theorem isLineEnd_of_isIndentation {character : Char}
    (indents : isIndentation character = true) : isLineEnd character = false := by
  simp only [isIndentation, Bool.or_eq_true, decide_eq_true_eq] at indents
  rcases indents with rfl | rfl <;> decide

theorem isBlank_of_isIndentation {character : Char}
    (indents : isIndentation character = true) : isBlank character = true := by
  simp only [isIndentation, Bool.or_eq_true, decide_eq_true_eq] at indents
  rcases indents with rfl | rfl <;> decide

/-- Of the indentation of a line only the width matters. -/
theorem ofRaw_indentation {lead other : List Char} (rest : List Char) (number : Int)
    (indentation : ∀ character ∈ lead ++ other, isIndentation character = true)
    (columns : lead.foldl nextColumn 0 = other.foldl nextColumn 0) :
    ofRaw (String.ofList (lead ++ rest)) number = ofRaw (String.ofList (other ++ rest)) number := by
  have parts {start : List Char} (indents : ∀ character ∈ start, isIndentation character = true) :
      ofRaw (String.ofList (start ++ rest)) number =
        { number
          indent := ((trimEnd isLineEnd rest).takeWhile isIndentation).foldl nextColumn
            (start.foldl nextColumn 0)
          body := .ofText ((trimEnd isLineEnd rest).dropWhile isIndentation) } := by
    have whole : trimEnd isLineEnd (start ++ rest) = start ++ trimEnd isLineEnd rest :=
      trimEnd_append_kept rest fun character last =>
        isLineEnd_of_isIndentation (indents character (List.mem_of_getLast? last))
    simp only [ofRaw, String.toList_ofList, whole, List.takeWhile_append_of_pos indents,
      List.dropWhile_append_of_pos indents, List.foldl_append]
  rw [parts fun character member => indentation character (List.mem_append_left _ member),
    parts fun character member => indentation character (List.mem_append_right _ member), columns]

theorem spoken?_of_blank {raw : List Char} (blank : trimEnd isBlank raw = []) :
    spoken? (String.ofList raw) = none := by
  rw [trimEnd_eq_rdropWhile, List.rdropWhile_eq_nil_iff] at blank
  have silent : (ofRaw (String.ofList raw) 0).body = .blank := by
    apply LineBody.ofText_of_blank
    rw [trimEnd_eq_rdropWhile, List.rdropWhile_eq_nil_iff, String.toList_ofList]
    intro character member
    exact blank character (trimEnd_subset raw ((List.dropWhile_sublist _).subset member))
  rw [spoken?, if_neg]
  simp [speaks, isLoud, silent, LineBody.isSilent]

/-- Where something is kept in front of them, blanks at the end of a line do not matter. -/
theorem ofRaw_append_blank {kept tail : List Char} (nonempty : kept ≠ [])
    (firm : ∀ character ∈ kept.getLast?, isBlank character = false)
    (blank : ∀ character ∈ tail, isBlank character = true) (number : Int) :
    ofRaw (String.ofList (kept ++ tail)) number = ofRaw (String.ofList kept) number := by
  have unended : ∀ character ∈ kept.getLast?, isLineEnd character = false :=
    fun character last => LineBody.isLineEnd_eq_false (firm character last)
  have ending : ∀ character ∈ trimEnd isLineEnd tail, isBlank character = true :=
    fun character member => blank character (trimEnd_subset tail member)
  have inside : ∃ character ∈ kept, isIndentation character = false := by
    refine ⟨kept.getLast nonempty, List.getLast_mem nonempty, ?_⟩
    have last := firm _ (List.getLast?_eq_some_getLast nonempty)
    by_contra indents
    simp [isBlank_of_isIndentation (Bool.eq_true_of_not_eq_false indents)] at last
  have text : (kept ++ trimEnd isLineEnd tail).dropWhile isIndentation =
      kept.dropWhile isIndentation ++ trimEnd isLineEnd tail := by
    rw [List.dropWhile_append, if_neg]
    simpa [List.dropWhile_eq_nil_iff] using inside
  have indent : (kept ++ trimEnd isLineEnd tail).takeWhile isIndentation =
      kept.takeWhile isIndentation := by
    rw [List.takeWhile_append, if_neg]
    intro full
    have everything := List.takeWhile_eq_self_iff.mp
      ((List.takeWhile_prefix isIndentation).eq_of_length full)
    rcases inside with ⟨character, member, text⟩
    simp [everything character member] at text
  simp only [ofRaw, String.toList_ofList, trimEnd_append_kept tail unended, trimEnd_eq_self unended,
    text, indent]
  rw [← LineBody.ofText_trimEnd, trimEnd_append_dropped _ ending, LineBody.ofText_trimEnd]

/-- Blanks at the end of a line do not matter. -/
theorem spoken?_trimEnd (raw : List Char) :
    spoken? (String.ofList (trimEnd isBlank raw)) = spoken? (String.ofList raw) := by
  by_cases nothing : trimEnd isBlank raw = []
  · rw [nothing, spoken?_of_blank nothing]
    rfl
  have firm : ∀ character ∈ (trimEnd isBlank raw).getLast?, isBlank character = false :=
    fun character last => drop_eq_false_of_getLast? last
  rcases List.rdropWhile_prefix isBlank raw with ⟨tail, whole⟩
  rw [← trimEnd_eq_rdropWhile] at whole
  have blank : ∀ character ∈ tail, isBlank character = true := by
    have trimmed := trimEnd_append_kept tail firm
    rw [whole, List.self_eq_append_right, trimEnd_eq_rdropWhile, List.rdropWhile_eq_nil_iff]
      at trimmed
    exact trimmed
  have same := ofRaw_append_blank nothing firm blank 0
  rw [whole] at same
  rw [spoken?, spoken?, speaks, speaks, same]

theorem spoken?_append_blank (text : List Char) {tail : List Char}
    (blank : ∀ character ∈ tail, isBlank character = true) :
    spoken? (String.ofList (text ++ tail)) = spoken? (String.ofList text) := by
  rw [← spoken?_trimEnd, trimEnd_append_dropped text blank, spoken?_trimEnd]

/--
Two raw lines have the same text between indentations of the same width and any
blanks at their ends.
-/
inductive WrittenAlike (first second : String) : Prop where
  | intro {lead other text tail last : List Char}
      (parts : first.toList = lead ++ text ++ tail)
      (others : second.toList = other ++ text ++ last)
      (indentation : (lead ++ other).all isIndentation = true)
      (columns : lead.foldl nextColumn 0 = other.foldl nextColumn 0)
      (blank : (tail ++ last).all isBlank = true)

theorem WrittenAlike.spoken?_eq {first second : String} (alike : WrittenAlike first second) :
    spoken? first = spoken? second := by
  cases alike with
  | @intro lead other text tail last parts others indentation columns blank =>
      have same := ofRaw_indentation text 0 (List.all_eq_true.mp indentation) columns
      rcases List.forall_mem_append.mp (List.all_eq_true.mp blank) with ⟨before, after⟩
      rw [← String.ofList_toList (s := first), ← String.ofList_toList (s := second), parts, others,
        spoken?_append_blank _ before, spoken?_append_blank _ after, spoken?, spoken?, speaks,
        speaks, same]

theorem map_spoken?_eq {first second : List String}
    (alike : List.Forall₂ WrittenAlike first second) :
    first.map spoken? = second.map spoken? := by
  induction alike with
  | nil => rfl
  | cons alike rest induction => rw [List.map_cons, List.map_cons, alike.spoken?_eq, induction]

/-- The written form of a raw line. -/
def canonical (raw : String) : String :=
  (ofRaw raw 0).render

theorem ofRaw_canonical (raw : String) (number : Int) :
    ofRaw (canonical raw) number = ofRaw raw number :=
  ofRaw_render (ofRaw_isWritten raw 0) number

theorem feed_not_mem_canonical {raw : String} (free : '\n' ∉ raw.toList) :
    '\n' ∉ (canonical raw).toList := by
  rw [canonical, toList_render, List.mem_append]
  rintro (indentation | body)
  · exact absurd (List.eq_of_mem_replicate indentation) (by decide)
  · exact feed_not_mem_render free 0 body

theorem spoken?_canonical (raw : String) : spoken? (canonical raw) = spoken? raw := by
  rw [spoken?, spoken?, speaks, speaks, ofRaw_canonical]

/-! ## The parts of a document -/

/-- The parts of a document between its line feeds. -/
def partsOf (source : String) : List String :=
  (source.toList.splitOn '\n').map String.ofList

theorem partsOf_intercalate {parts : List String} (nonempty : parts ≠ [])
    (free : ∀ part ∈ parts, '\n' ∉ part.toList) :
    partsOf ("\n".intercalate parts) = parts := by
  have cut : (['\n'].intercalate (parts.map String.toList)).splitOn '\n' =
      parts.map String.toList := by
    apply List.splitOn_intercalate
    · simpa using free
    · simpa using nonempty
  rw [partsOf, String.toList_intercalate]
  exact (congrArg (List.map String.ofList) cut).trans (by simp [Function.comp_def])

theorem partsOf_ne_nil (source : String) : partsOf source ≠ [] := by
  rw [partsOf, Ne, List.map_eq_nil_iff]
  exact List.splitOnP_ne_nil _ _

/-- No part of a document holds a line feed. -/
theorem feed_not_mem_partsOf {source part : String} (member : part ∈ partsOf source) :
    '\n' ∉ part.toList := by
  rcases List.mem_map.mp member with ⟨text, inside, rfl⟩
  rw [String.toList_ofList]
  intro feed
  rcases splitOn_eq_linesOf source.toList with same | same
  · rw [same] at inside
    exact absurd (ends_eq_false_of_mem_linesOf inside feed) (by decide)
  · rw [same, List.mem_append, List.mem_singleton] at inside
    rcases inside with line | rfl
    · exact absurd (ends_eq_false_of_mem_linesOf line feed) (by decide)
    · simp at feed

/-- Parts with a carriage return at the end of each but the last. -/
def withReturns : List String → List String
  | [] => []
  | [last] => [last]
  | part :: next :: rest => (part ++ "\r") :: withReturns (next :: rest)

theorem withReturns_ne_nil {parts : List String} (nonempty : parts ≠ []) :
    withReturns parts ≠ [] := by
  match parts with
  | [last] => simp [withReturns]
  | part :: next :: rest => simp [withReturns]

theorem feed_not_mem_withReturns {parts : List String}
    (free : ∀ part ∈ parts, '\n' ∉ part.toList) :
    ∀ part ∈ withReturns parts, '\n' ∉ part.toList := by
  match parts with
  | [] => exact free
  | [last] => exact free
  | part :: next :: rest =>
      rcases List.forall_mem_cons.mp free with ⟨first, further⟩
      refine List.forall_mem_cons.mpr ⟨?_, feed_not_mem_withReturns further⟩
      simpa using first

theorem intercalate_withReturns (parts : List String) :
    "\n".intercalate (withReturns parts) = "\r\n".intercalate parts := by
  match parts with
  | [] => rfl
  | [last] => rfl
  | part :: next :: rest =>
      rw [withReturns, String.intercalate_cons_of_ne_nil (withReturns_ne_nil (by simp)),
        intercalate_withReturns (next :: rest), String.intercalate_cons_cons]
      simp only [String.append_assoc]
      rfl

theorem spoken?_withReturns (parts : List String) :
    (withReturns parts).map spoken? = parts.map spoken? := by
  match parts with
  | [] => rfl
  | [last] => rfl
  | part :: next :: rest =>
      have quiet : spoken? (part ++ "\r") = spoken? part := by
        have blank : ∀ character ∈ ['\r'], isBlank character = true := by
          rw [List.forall_mem_singleton]
          exact isBlank_of_isLineEnd rfl
        have same := spoken?_append_blank part.toList blank
        rw [String.ofList_append, String.ofList_toList] at same
        exact same
      rw [withReturns, List.map_cons, spoken?_withReturns (next :: rest), quiet, ← List.map_cons]

/-- The lines of a document that say something, with their places. -/
theorem filter_isLoud_ofRaws_eq (raws : List String) :
    (ofRaws raws).filter isLoud =
      ((raws.map spoken?).zipIdx 1).filterMap fun said =>
        said.1.map fun line => { line with number := said.2 } := by
  rw [ofRaws, ← List.filterMap_eq_filter, List.filterMap_map, List.zipIdx_map, List.filterMap_map]
  congr 1
  funext numbered
  rcases numbered with ⟨raw, index⟩
  have loud : isLoud (ofRaw raw index) = speaks raw := rfl
  cases said : speaks raw with
  | false => simp [Option.guard, loud, spoken?, said]
  | true =>
      simp only [Function.comp_apply, Option.guard, loud, said, if_true, Prod.map, spoken?]
      rfl

end Line

namespace Outcome

open Line

/-- The outcome of a document depends on what its lines say. -/
theorem ofRaws_congr {first second : List String}
    (same : first.map spoken? = second.map spoken?) : ofRaws first = ofRaws second := by
  rw [ofRaws, ofRaws, ← ofLines_filter_isLoud, filter_isLoud_ofRaws_eq, same,
    ← filter_isLoud_ofRaws_eq, ofLines_filter_isLoud]

/-- Nothing is said after the last line feed, if nothing stands there. -/
theorem ofRaws_concat_empty (raws : List String) : ofRaws (raws ++ [""]) = ofRaws raws := by
  have silent : (Line.ofRaws (raws ++ [""])).filter isLoud = (Line.ofRaws raws).filter isLoud := by
    rw [Line.ofRaws_append, List.filter_append]
    exact List.append_nil _
  rw [ofRaws, ← ofLines_filter_isLoud, silent, ofLines_filter_isLoud, ofRaws]

theorem ofSource_eq_ofRaws_partsOf (source : String) :
    ofSource source = ofRaws (partsOf source) := by
  rcases splitOn_eq_linesOf source.toList with same | same
  · rw [partsOf, same]
    rfl
  · rw [partsOf, same, List.map_append]
    exact (ofRaws_concat_empty _).symm

/--
The way in which lines are written does not matter.  The written form of a line
is read as the line; a document may be brought into the written form of its
lines, or its lines may be ended by a carriage return and a line feed; and two
documents have the same outcome if they differ, line by line, in how the
indentation is written and in the blanks at the end only.
-/
theorem ofSource_eq_of_writtenAlike :
    (∀ raw number, ofRaw (canonical raw) number = ofRaw raw number) ∧
      (∀ source, ofSource ("\n".intercalate ((partsOf source).map canonical)) = ofSource source) ∧
      (∀ source, ofSource ("\r\n".intercalate (partsOf source)) = ofSource source) ∧
      ∀ first second, List.Forall₂ WrittenAlike (partsOf first) (partsOf second) →
        ofSource first = ofSource second := by
  refine ⟨ofRaw_canonical, ?_, ?_, ?_⟩
  · intro source
    rw [ofSource_eq_ofRaws_partsOf, partsOf_intercalate, ofSource_eq_ofRaws_partsOf]
    · exact ofRaws_congr (by simp [Function.comp_def, spoken?_canonical])
    · simpa using partsOf_ne_nil source
    · intro part member
      rcases List.mem_map.mp member with ⟨raw, inside, rfl⟩
      exact feed_not_mem_canonical (feed_not_mem_partsOf inside)
  · intro source
    rw [← intercalate_withReturns, ofSource_eq_ofRaws_partsOf, partsOf_intercalate,
      ofSource_eq_ofRaws_partsOf]
    · exact ofRaws_congr (spoken?_withReturns _)
    · exact withReturns_ne_nil (partsOf_ne_nil source)
    · exact feed_not_mem_withReturns fun _ => feed_not_mem_partsOf
  · intro first second alike
    rw [ofSource_eq_ofRaws_partsOf, ofSource_eq_ofRaws_partsOf]
    exact ofRaws_congr (map_spoken?_eq alike)

/-- A document with tabs, with blanks at the end of a line and with carriage returns. -/
def tabbed : String :=
  "class: A\r\n\t@ note \t\r\n  \tvar: x"

/-- The same document in its written form. -/
def plain : String :=
  "class: A\n    @ note\n    var: x"

theorem ofSource_eq_of_writtenAlike_tabbed :
    List.Forall₂ WrittenAlike (partsOf tabbed) (partsOf plain) ∧
      ofSource tabbed = ofSource plain := by
  have alike : List.Forall₂ WrittenAlike (partsOf tabbed) (partsOf plain) := by
    have first : partsOf tabbed = ["class: A\r", "\t@ note \t\r", "  \tvar: x"] := by
      decide +kernel
    have second : partsOf plain = ["class: A", "    @ note", "    var: x"] := by
      decide +kernel
    rw [first, second]
    refine .cons ?_ (.cons ?_ (.cons ?_ .nil))
    · exact @WrittenAlike.intro _ _ [] [] "class: A".toList ['\r'] []
        rfl rfl rfl rfl rfl
    · exact @WrittenAlike.intro _ _ ['\t'] "    ".toList "@ note".toList [' ', '\t', '\r'] []
        rfl rfl rfl rfl rfl
    · exact @WrittenAlike.intro _ _ [' ', ' ', '\t'] "    ".toList "var: x".toList [] []
        rfl rfl rfl rfl rfl
  exact ⟨alike, ofSource_eq_of_writtenAlike.2.2.2 tabbed plain alike⟩

end Outcome

end Outline
