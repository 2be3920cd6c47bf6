import Mathlib.Data.String.Basic
import Outline.Proofs.CommonSubsequence
import Outline.Proofs.Headings

/-!
# Suggested headings

For a line with a heading that is not recognised the known heading most similar
to it is suggested.  The search goes through the known headings in the order of
their code points and keeps the first one of those that are most similar.

The main statement is that this is the nearest known heading, which is unique,
and that the line is recognised once its heading is replaced by it.
-/

namespace Outline

open Outline.Text

variable {word : List Char} {headings : List String} {best : String}

/-- A heading is the keyword of a kind or belongs to a statement. -/
def IsKnown (heading : String) : Prop :=
  heading ∈ Kind.announced.map Kind.label ∨ heading ∈ statementHeadings

/--
No known heading is more similar to a word, and none before it in the order of
code points is equally similar.
-/
structure IsNearest (word : List Char) (heading : String) : Prop where
  known : IsKnown heading
  close : 7 / 10 ≤ score word heading.toList
  greatest : ∀ other, IsKnown other → score word other.toList ≤ score word heading.toList
  first : ∀ other, IsKnown other → other < heading →
    score word other.toList ≠ score word heading.toList

/-- The nearest known heading is unique. -/
theorem IsNearest.eq {heading other : String} (nearest : IsNearest word heading)
    (alsoNearest : IsNearest word other) :
    heading = other := by
  have same : score word heading.toList = score word other.toList :=
    le_antisymm (alsoNearest.greatest heading nearest.known)
      (nearest.greatest other alsoNearest.known)
  rcases lt_trichotomy heading other with before | equal | after
  · exact absurd same (alsoNearest.first heading nearest.known before)
  · exact equal
  · exact absurd same.symm (nearest.first other alsoNearest.known after)

/-! ## The known headings -/

theorem mem_knownHeadings_iff {heading : String} :
    heading ∈ knownHeadings ↔ IsKnown heading := by
  have same : knownHeadings.Perm (Kind.announced.map Kind.label ++ statementHeadings) := by
    decide +kernel
  rw [same.mem_iff, List.mem_append, IsKnown]

theorem knownHeadings_pairwise : knownHeadings.Pairwise (· < ·) := by
  decide +kernel

/-! ## The search -/

/-- The first one of those headings in a list that are most similar to a word. -/
def IsFirstGreatest (word : List Char) (headings : List String) (best : String) : Prop :=
  ∃ before after, headings = before ++ best :: after ∧
    (∀ other ∈ before, score word other.toList < score word best.toList) ∧
    ∀ other ∈ after, score word other.toList ≤ score word best.toList

theorem IsFirstGreatest.score_le (greatest : IsFirstGreatest word headings best) {other : String}
    (member : other ∈ headings) :
    score word other.toList ≤ score word best.toList := by
  rcases greatest with ⟨before, after, rfl, less, atMost⟩
  rcases List.mem_append.mp member with early | late
  · exact (less other early).le
  · rcases List.mem_cons.mp late with rfl | late
    · exact le_rfl
    · exact atMost other late

/-- Comparing with one more heading keeps the first one of the most similar headings. -/
theorem IsFirstGreatest.moreSimilar (nonempty : word ≠ [])
    (greatest : IsFirstGreatest word headings best) (candidate : String) :
    IsFirstGreatest word (headings ++ [candidate]) (moreSimilar word best candidate) := by
  rw [Outline.moreSimilar]
  split_ifs with exceeds <;> rw [exceeds_iff nonempty] at exceeds
  · refine ⟨headings, [], rfl, ?_, by simp⟩
    intro other member
    exact (greatest.score_le member).trans_lt exceeds
  · rcases greatest with ⟨before, after, rfl, less, atMost⟩
    refine ⟨before, after ++ [candidate], by simp, less, ?_⟩
    rw [List.forall_mem_append, List.forall_mem_singleton]
    exact ⟨atMost, not_lt.mp exceeds⟩

theorem IsFirstGreatest.foldl (nonempty : word ≠ [])
    (greatest : IsFirstGreatest word headings best) (rest : List String) :
    IsFirstGreatest word (headings ++ rest) (rest.foldl (Outline.moreSimilar word) best) := by
  induction rest generalizing headings best with
  | nil => simpa using greatest
  | cons candidate rest induction =>
      have further := induction (greatest.moreSimilar nonempty candidate)
      rwa [List.append_assoc, List.singleton_append] at further

/-- The known headings that are similar enough to a word. -/
def closeHeadings (word : List Char) : List String :=
  knownHeadings.filter fun known => (Similarity.ofWords word known.toList).isClose

theorem mem_closeHeadings_iff (nonempty : word ≠ []) {heading : String} :
    heading ∈ closeHeadings word ↔ IsKnown heading ∧ 7 / 10 ≤ score word heading.toList := by
  rw [closeHeadings, List.mem_filter, mem_knownHeadings_iff, isClose_iff nonempty]

/-- The first most similar one of the close headings is the nearest known heading. -/
theorem IsFirstGreatest.isNearest (nonempty : word ≠ [])
    (greatest : IsFirstGreatest word (closeHeadings word) best) :
    IsNearest word best := by
  have ordered : (closeHeadings word).Pairwise (· < ·) := knownHeadings_pairwise.filter _
  have member : best ∈ closeHeadings word := by
    rcases greatest with ⟨before, after, split, -⟩
    simp [split]
  rcases (mem_closeHeadings_iff nonempty).mp member with ⟨known, close⟩
  refine ⟨known, close, ?_, ?_⟩
  · intro other alsoKnown
    by_cases alsoClose : 7 / 10 ≤ score word other.toList
    · exact greatest.score_le ((mem_closeHeadings_iff nonempty).mpr ⟨alsoKnown, alsoClose⟩)
    · exact (not_le.mp alsoClose).le.trans close
  · intro other alsoKnown earlier same
    have inside := (mem_closeHeadings_iff nonempty).mpr ⟨alsoKnown, same.symm ▸ close⟩
    -- The list is in the order of code points, so the other heading stands before the best one.
    rcases greatest with ⟨before, after, split, less, -⟩
    rw [split] at ordered inside
    rcases List.mem_append.mp inside with early | late
    · exact (less other early).ne same
    · rcases List.mem_cons.mp late with rfl | late
      · exact lt_irrefl _ earlier
      · have later := List.rel_of_pairwise_cons (List.pairwise_append.mp ordered).2.1 late
        exact lt_asymm earlier later

/-! ## The suggestion -/

theorem nearestHeading?_eq {content : List Char} (heading : heading? content = some word)
    (nonempty : word ≠ []) :
    nearestHeading? content =
      match closeHeadings word with
      | [] => none
      | first :: rest => some (rest.foldl (moreSimilar word) first) := by
  rw [nearestHeading?, heading]
  cases word with
  | nil => exact absurd rfl nonempty
  | cons => rfl

theorem isNearest_of_nearestHeading? {content : List Char} {known : String}
    (heading : heading? content = some word) (nonempty : word ≠ [])
    (found : nearestHeading? content = some known) :
    IsNearest word known := by
  rw [nearestHeading?_eq heading nonempty] at found
  apply IsFirstGreatest.isNearest nonempty
  cases close : closeHeadings word with
  | nil => simp [close] at found
  | cons first rest =>
      simp only [close, Option.some.injEq] at found
      have alone : IsFirstGreatest word [first] first := ⟨[], [], by simp⟩
      exact found ▸ alone.foldl nonempty rest

/-- Nothing is suggested exactly if no known heading is similar enough. -/
theorem nearestHeading?_eq_none_iff {content : List Char}
    (heading : heading? content = some word) (nonempty : word ≠ []) :
    nearestHeading? content = none ↔
      ∀ known, IsKnown known → score word known.toList < 7 / 10 := by
  have empty : nearestHeading? content = none ↔ closeHeadings word = [] := by
    rw [nearestHeading?_eq heading nonempty]
    cases closeHeadings word <;> simp
  rw [empty, List.eq_nil_iff_forall_not_mem]
  simp only [mem_closeHeadings_iff nonempty, not_and, not_le]

/-- What is suggested is the nearest known heading. -/
theorem nearestHeading?_eq_some_iff {content : List Char} {known : String}
    (heading : heading? content = some word) (nonempty : word ≠ []) :
    nearestHeading? content = some known ↔ IsNearest word known := by
  constructor
  · exact isNearest_of_nearestHeading? heading nonempty
  · intro nearest
    cases found : nearestHeading? content with
    | none =>
        rw [nearestHeading?_eq_none_iff heading nonempty] at found
        exact absurd nearest.close (not_le.mpr (found known nearest.known))
    | some other =>
        have alsoNearest := isNearest_of_nearestHeading? heading nonempty found
        rw [alsoNearest.eq nearest]

/-! ## Lines with a known heading -/

/-- A line with a known heading is recognised. -/
theorem exists_kind_of_known {content : List Char} {known : String} (isKnown : IsKnown known)
    (heading : heading? content = some known.toList) :
    ∃ kind, Kind.ofContent? content = some kind := by
  rcases heading?_eq_some_iff.mp heading with ⟨wordy, same⟩
  apply Option.ne_none_iff_exists'.mp
  intro unrecognised
  cases Kind.ofContent?_eq_iff.mp unrecognised with
  | unknown other _ _ _ odd =>
      rcases isKnown with keyword | statement
      · rcases List.mem_map.mp keyword with ⟨kind, member, rfl⟩
        exact other kind ⟨wordy, member, same⟩
      · rw [← same, String.ofList_toList] at odd
        exact odd statement

theorem knownHeadings_wordy :
    ∀ known ∈ knownHeadings, known.toList ≠ [] ∧ known.toList.all isHeading = true ∧
      trim isBlank known.toList = known.toList := by
  decide +kernel

/-- A known heading before a colon is the heading of the line. -/
theorem heading?_of_known {known : String} (isKnown : IsKnown known) (rest : List Char) :
    heading? (known.toList ++ ':' :: rest) = some known.toList := by
  rcases knownHeadings_wordy known (mem_knownHeadings_iff.mpr isKnown) with
    ⟨nonempty, words, trimmed⟩
  have before := heading?_append_colon rest nonempty (List.all_eq_true.mp words)
  rwa [trimmed] at before

theorem nearestHeading?_of_plain {content : List Char}
    (plain : heading? content = none ∨ heading? content = some []) :
    nearestHeading? content = none := by
  rcases plain with missing | empty
  · rw [nearestHeading?, missing]
  · rw [nearestHeading?, empty]

theorem isKnown_of_nearestHeading? {content : List Char} {known : String}
    (suggested : nearestHeading? content = some known) :
    IsKnown known := by
  cases heading : heading? content with
  | none => simp [nearestHeading?_of_plain (.inl heading)] at suggested
  | some word =>
      cases word with
      | nil => simp [nearestHeading?_of_plain (.inr heading)] at suggested
      | cons first rest =>
          exact (isNearest_of_nearestHeading? heading (List.cons_ne_nil _ _) suggested).known

/--
For a line with a heading of words the suggestion is the nearest known heading,
and there is none exactly if no known heading is similar enough.  How similar a
known heading is depends on the least number of characters that are deleted or
inserted to get it.  For other lines there is no suggestion.  What is suggested
for a line that is not recognised is not its heading, and the line is recognised
with the suggestion in place of the text before its first colon.
-/
theorem nearestHeading?_isNearest (content : String) (indent lineNumber : Int)
    (note : Option String) :
    (∀ word, heading? content.toList = some word → word ≠ [] →
      (∀ known, nearestHeading? content.toList = some known ↔ IsNearest word known) ∧
      (nearestHeading? content.toList = none ↔
        ∀ known, IsKnown known → score word known.toList < 7 / 10) ∧
      ∀ known : String, score word known.toList =
        1 - (sInf {count | Edits word known.toList count} : ℕ) /
          (word.length + known.toList.length : ℕ)) ∧
    (heading? content.toList = none ∨ heading? content.toList = some [] →
      nearestHeading? content.toList = none) ∧
    ∀ known, Entry.ofContent? content indent lineNumber note = none →
      nearestHeading? content.toList = some known →
      heading? content.toList ≠ some known.toList ∧
      ∃ before after, content.toList = before ++ ':' :: after ∧ ':' ∉ before ∧
        ∃ entry, Entry.ofContent? (known ++ String.ofList (':' :: after)) indent lineNumber note =
          some entry := by
  refine ⟨?_, nearestHeading?_of_plain, ?_⟩
  · intro word heading nonempty
    exact ⟨fun known => nearestHeading?_eq_some_iff heading nonempty,
      nearestHeading?_eq_none_iff heading nonempty,
      fun known => score_eq_one_sub nonempty known.toList⟩
  · intro known unrecognised suggested
    have isKnown := isKnown_of_nearestHeading? suggested
    rw [Entry.ofContent?, Option.map_eq_none_iff] at unrecognised
    refine ⟨?_, ?_⟩
    · intro heading
      rcases exists_kind_of_known isKnown heading with ⟨kind, recognised⟩
      simp [unrecognised] at recognised
    · cases Kind.ofContent?_eq_iff.mp unrecognised with
      | unknown _ _ _ wordy _ =>
          refine ⟨lead content.toList, afterColon content.toList, eq_lead_append wordy.colon,
            colon_not_mem_lead _, ?_⟩
          have heading := heading?_of_known isKnown (afterColon content.toList)
          rcases exists_kind_of_known isKnown heading with ⟨kind, recognised⟩
          rw [Entry.ofContent?, String.toList_append, String.toList_ofList, recognised]
          exact ⟨_, rfl⟩

/-- A letter is missing in the keyword of a class; the keyword is suggested. -/
theorem nearestHeading?_isNearest_misspelt :
    Entry.ofContent? "clas: Account" 0 1 none = none ∧
      nearestHeading? "clas: Account".toList = some "class" ∧
      IsNearest ['c', 'l', 'a', 's'] "class" ∧
      heading? "clas: Account".toList ≠ some "class".toList := by
  have read : Entry.ofContent? "clas: Account" 0 1 none = none ∧
      nearestHeading? "clas: Account".toList = some "class" ∧
      heading? "clas: Account".toList = some ['c', 'l', 'a', 's'] := by
    decide +kernel
  rcases read with ⟨unrecognised, suggested, heading⟩
  rcases nearestHeading?_isNearest "clas: Account" 0 1 none with ⟨nearest, -, usable⟩
  exact ⟨unrecognised, suggested, ((nearest _ heading (by decide)).1 _).mp suggested,
    (usable _ unrecognised suggested).1⟩

end Outline
