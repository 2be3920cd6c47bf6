import Mathlib.Algebra.Order.Field.Rat
import Mathlib.Data.List.Forall2
import Mathlib.Data.Rat.Cast.Order
import Mathlib.Order.Bounds.Basic
import Mathlib.Order.Lattice.Nat
import Mathlib.Tactic.FieldSimp
import Mathlib.Tactic.Ring
import Outline.Text.Subsequence

/-!
# Common subsequences

The length of a longest common subsequence is computed row by row: a row holds
the answers for one text and all suffixes of the other one, and one more
character in front of the text makes the next row.

The main statements are that the length is the greatest one of a common
subsequence, and that the similarity of two words is the part of their
characters that need not be deleted or inserted to turn one into the other.
-/

namespace Outline.Text

variable {left right common text word : List Char} {character other : Char} {most : Nat}
  {row : List Nat}

/-- The lengths of the texts whose characters stand in both texts in their order. -/
def commonLengths (left right : List Char) : Set Nat :=
  {length | ∃ common : List Char,
    common.Sublist left ∧ common.Sublist right ∧ common.length = length}

/-! ## Texts character by character -/

theorem isGreatest_commonLengths_zero (alone : ∀ common : List Char,
      common.Sublist left → common.Sublist right → common = []) :
    IsGreatest (commonLengths left right) 0 := by
  constructor
  · exact ⟨[], List.nil_sublist _, List.nil_sublist _, rfl⟩
  · rintro _ ⟨common, inLeft, inRight, rfl⟩
    rw [alone common inLeft inRight, List.length_nil]

theorem isGreatest_commonLengths_nil_left (right : List Char) :
    IsGreatest (commonLengths [] right) 0 :=
  isGreatest_commonLengths_zero fun _ inLeft _ => List.sublist_nil.mp inLeft

theorem isGreatest_commonLengths_nil_right (left : List Char) :
    IsGreatest (commonLengths left []) 0 :=
  isGreatest_commonLengths_zero fun _ _ inRight => List.sublist_nil.mp inRight

/-- The same character in front of both texts can always be used. -/
theorem isGreatest_commonLengths_cons (greatest : IsGreatest (commonLengths left right) most) :
    IsGreatest (commonLengths (character :: left) (character :: right)) (most + 1) := by
  rcases greatest with ⟨⟨longest, inLeft, inRight, rfl⟩, bound⟩
  constructor
  · exact ⟨character :: longest, inLeft.cons_cons character, inRight.cons_cons character, rfl⟩
  · rintro _ ⟨common, alsoLeft, alsoRight, rfl⟩
    have shorter := bound ⟨common.tail, alsoLeft.tail, alsoRight.tail, rfl⟩
    rw [List.length_tail] at shorter
    exact Nat.sub_le_iff_le_add.mp shorter

/-- Of two different characters in front of the texts one is not used. -/
theorem commonLengths_cons_cons (differ : character ≠ other) (left right : List Char) :
    commonLengths (character :: left) (other :: right) =
      commonLengths left (other :: right) ∪ commonLengths (character :: left) right := by
  ext length
  constructor
  · rintro ⟨common, inLeft, inRight, same⟩
    rcases List.sublist_cons_iff.mp inLeft with skipped | ⟨rest, rfl, -⟩
    · exact .inl ⟨common, skipped, inRight, same⟩
    · exact .inr ⟨_, inLeft, inRight.of_cons_of_ne differ, same⟩
  · rintro (⟨common, inLeft, inRight, same⟩ | ⟨common, inLeft, inRight, same⟩)
    · exact ⟨common, inLeft.cons character, inRight, same⟩
    · exact ⟨common, inLeft, inRight.cons other, same⟩

/-! ## Rows -/

/-- A row holds the greatest lengths for one text and all suffixes of another one. -/
def IsRow (text word : List Char) (row : List Nat) : Prop :=
  List.Forall₂ (fun suffix length => IsGreatest (commonLengths text suffix) length) word.tails row

theorem IsRow.exists_eq_cons (correct : IsRow text word row) :
    ∃ first rest, row = first :: rest ∧ IsGreatest (commonLengths text word) first := by
  cases word <;> cases correct <;> exact ⟨_, _, rfl, ‹_›⟩

/-- One more character in front of the text makes the next row. -/
theorem IsRow.extendRow (correct : IsRow text word row) (character : Char) :
    IsRow (character :: text) word (extendRow character word row) := by
  induction word generalizing row with
  | nil => exact .cons (isGreatest_commonLengths_nil_right _) .nil
  | cons other word induction =>
      -- The next length is read off those beside it, below it and across.
      rcases List.forall₂_cons_left_iff.mp correct with ⟨first, rest, greatest, shorter, rfl⟩
      have below := induction shorter
      refine .cons ?_ below
      rcases IsRow.exists_eq_cons below with ⟨beside, _, same, fewer⟩
      rcases IsRow.exists_eq_cons shorter with ⟨across, _, rfl, fewest⟩
      simp only [List.tail_cons, List.headD_cons] at same ⊢
      split_ifs with equal
      · subst equal
        exact isGreatest_commonLengths_cons fewest
      · rw [commonLengths_cons_cons equal, same]
        exact greatest.union fewer

theorem isRow_replicate (word : List Char) :
    IsRow [] word (List.replicate (word.length + 1) 0) := by
  induction word with
  | nil => exact .cons (isGreatest_commonLengths_nil_left _) .nil
  | cons other word induction => exact .cons (isGreatest_commonLengths_nil_left _) induction

theorem isRow_foldr (text word : List Char) :
    IsRow text word
      (text.foldr (fun character row => Text.extendRow character word row)
        (List.replicate (word.length + 1) 0)) := by
  induction text with
  | nil => exact isRow_replicate word
  | cons character text induction => exact induction.extendRow character

/-- The computed length is the greatest one of a common subsequence. -/
theorem commonLength_isGreatest (left right : List Char) :
    IsGreatest (commonLengths left right) (commonLength left right) := by
  rcases (isRow_foldr left right).exists_eq_cons with ⟨first, _, row, greatest⟩
  rwa [commonLength, row, List.headD_cons]

/-! ## Deleting and inserting -/

/-- One text is turned into another one by deleting and inserting some characters. -/
inductive Edits : List Char → List Char → Nat → Prop
  | done : Edits [] [] 0
  | keep {left right : List Char} {count : Nat} (character : Char)
      (later : Edits left right count) : Edits (character :: left) (character :: right) count
  | delete {left right : List Char} {count : Nat} (character : Char)
      (later : Edits left right count) : Edits (character :: left) right (count + 1)
  | insert {left right : List Char} {count : Nat} (character : Char)
      (later : Edits left right count) : Edits left (character :: right) (count + 1)

/-- What is kept is a common subsequence. -/
theorem Edits.exists_common {count : Nat} (edits : Edits left right count) :
    ∃ common : List Char, common.Sublist left ∧ common.Sublist right ∧
      count + 2 * common.length = left.length + right.length := by
  induction edits with
  | done => exact ⟨[], List.nil_sublist _, List.nil_sublist _, rfl⟩
  | keep character _ induction =>
      rcases induction with ⟨common, inLeft, inRight, counted⟩
      refine ⟨character :: common, inLeft.cons_cons _, inRight.cons_cons _, ?_⟩
      simp only [List.length_cons]
      omega
  | delete character _ induction =>
      rcases induction with ⟨common, inLeft, inRight, counted⟩
      refine ⟨common, inLeft.cons _, inRight, ?_⟩
      simp only [List.length_cons]
      omega
  | insert character _ induction =>
      rcases induction with ⟨common, inLeft, inRight, counted⟩
      refine ⟨common, inLeft, inRight.cons _, ?_⟩
      simp only [List.length_cons]
      omega

/-- A common subsequence can be kept while all else is deleted or inserted. -/
theorem exists_edits (inLeft : common.Sublist left) (inRight : common.Sublist right) :
    ∃ count, Edits left right count ∧
      count + 2 * common.length = left.length + right.length := by
  induction inLeft generalizing right with
  | slnil =>
      clear inRight
      induction right with
      | nil => exact ⟨0, .done, rfl⟩
      | cons character right induction =>
          rcases induction with ⟨count, edits, counted⟩
          exact ⟨count + 1, edits.insert character, by simp only [List.length_cons]; omega⟩
  | cons character _ induction =>
      rcases induction inRight with ⟨count, edits, counted⟩
      exact ⟨count + 1, edits.delete character, by simp only [List.length_cons]; omega⟩
  | cons_cons character _ kept =>
      -- What stands before the character in the other text is inserted.
      induction right with
      | nil => cases inRight
      | cons other right inserted =>
          cases inRight with
          | cons _ later =>
              rcases inserted later with ⟨count, edits, counted⟩
              exact ⟨count + 1, edits.insert other, by simp only [List.length_cons] at *; omega⟩
          | cons_cons _ later =>
              rcases kept later with ⟨count, edits, counted⟩
              exact ⟨count, edits.keep character, by simp only [List.length_cons]; omega⟩

/-- The least number of edits leaves a longest common subsequence. -/
theorem edits_isLeast (left right : List Char) :
    IsLeast {count | Edits left right count}
      (left.length + right.length - 2 * commonLength left right) := by
  rcases commonLength_isGreatest left right with ⟨⟨longest, inLeft, inRight, same⟩, bound⟩
  constructor
  · rcases exists_edits inLeft inRight with ⟨count, edits, counted⟩
    rw [same] at counted
    rwa [← counted, Nat.add_sub_cancel]
  · intro count edits
    rcases edits.exists_common with ⟨common, alsoLeft, alsoRight, counted⟩
    have shorter := bound ⟨common, alsoLeft, alsoRight, rfl⟩
    omega

/-! ## The similarity of two words -/

/-- Twice the greatest length of a common subsequence, over the lengths of both words. -/
noncomputable def score (left right : List Char) : ℚ :=
  2 * (sSup (commonLengths left right) : ℕ) / (left.length + right.length : ℕ)

theorem score_eq (left right : List Char) :
    score left right =
      ((Similarity.ofWords left right).shared : ℚ) / (Similarity.ofWords left right).total := by
  rw [score, (commonLength_isGreatest left right).csSup_eq, Similarity.ofWords]
  push_cast
  rfl

theorem total_pos (nonempty : left ≠ []) (right : List Char) :
    (0 : ℚ) < (Similarity.ofWords left right).total := by
  rw [Nat.cast_pos, Similarity.ofWords]
  exact Nat.add_pos_left (List.length_pos_of_ne_nil nonempty) _

/-- The similarity of two words is close from seven tenths on. -/
theorem isClose_iff (nonempty : left ≠ []) :
    (Similarity.ofWords left right).isClose = true ↔ 7 / 10 ≤ score left right := by
  rw [score_eq, div_le_div_iff₀ (by decide) (total_pos nonempty right), Similarity.isClose,
    decide_eq_true_iff]
  norm_cast
  rw [mul_comm 10]

theorem exceeds_iff (nonempty : left ≠ []) {first second : List Char} :
    (Similarity.ofWords left first).exceeds (Similarity.ofWords left second) = true ↔
      score left second < score left first := by
  rw [score_eq, score_eq, div_lt_div_iff₀ (total_pos nonempty _) (total_pos nonempty _),
    Similarity.exceeds, decide_eq_true_iff]
  norm_cast

/-- The similarity is what the least number of edits leaves of the lengths of both words. -/
theorem score_eq_one_sub (nonempty : left ≠ []) (right : List Char) :
    score left right =
      1 - (sInf {count | Edits left right count} : ℕ) / (left.length + right.length : ℕ) := by
  have total : ((left.length + right.length : ℕ) : ℚ) ≠ 0 := (total_pos nonempty right).ne'
  rcases commonLength_isGreatest left right with ⟨⟨longest, inLeft, inRight, same⟩, -⟩
  have within : 2 * commonLength left right ≤ left.length + right.length := by
    rw [← same, two_mul]
    exact Nat.add_le_add inLeft.length_le inRight.length_le
  rw [(edits_isLeast left right).csInf_eq, Nat.cast_sub within, score,
    (commonLength_isGreatest left right).csSup_eq]
  field_simp
  push_cast
  ring

end Outline.Text
