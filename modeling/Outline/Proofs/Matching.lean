import Mathlib.Data.List.TakeWhile
import Outline.Text.Expression

/-!
# Matches of expressions

Which matches an expression has is a matter of how the text that comes next can
be cut into parts, with one rule for each kind of expression.  Which of them is
the first depends on the order in which they are tried.  A run that is as long
as possible is not given up again if nothing can go on from inside it, so that
what follows the run is matched right behind it.
-/

namespace Outline.Text

namespace Cursor

/-- The place behind a text that comes next. -/
def pass (cursor : Cursor) (text rest : List Char) : Cursor :=
  { cursor with before := text.reverse ++ cursor.before, after := rest }

theorem move_length {cursor : Cursor} {text rest : List Char}
    (split : cursor.after = text ++ rest) :
    cursor.move text.length = cursor.pass text rest := by
  simp [move, pass, split]

theorem captureTo_eq {cursor later : Cursor} {text : List Char}
    (split : cursor.after = text ++ later.after) :
    cursor.captureTo later = { later with captured := some text } := by
  simp [captureTo, split]

/-- Before the end of a run the next character belongs to it. -/
theorem accepts_of_lt_reach {cursor : Cursor} {accepts : Char → Bool} {count : Nat}
    (inside : count < cursor.reach accepts) :
    (cursor.move count).after.head?.any accepts = true := by
  have part : cursor.after.takeWhile accepts <+: cursor.after := List.takeWhile_prefix accepts
  have accepted := List.mem_takeWhile_imp (List.getElem_mem inside)
  rw [part.getElem inside] at accepted
  have within := inside.trans_le part.length_le
  simp [move, List.head?_drop, List.getElem?_eq_getElem within, accepted]

/-- A run of characters of a class is any text of them that comes next. -/
theorem exists_move_iff {cursor later : Cursor} {accepts : Char → Bool} :
    (∃ count < cursor.reach accepts + 1, cursor.move count = later) ↔
      ∃ text rest, cursor.after = text ++ rest ∧ (∀ character ∈ text, accepts character = true) ∧
        later = cursor.pass text rest := by
  constructor
  · rintro ⟨count, within, rfl⟩
    refine ⟨cursor.after.take count, cursor.after.drop count, (List.take_append_drop _ _).symm,
      ?_, rfl⟩
    intro character member
    have part : cursor.after.take count <+: cursor.after.takeWhile accepts :=
      List.prefix_of_prefix_length_le (List.take_prefix _ _) (List.takeWhile_prefix _)
        ((List.length_take_le _ _).trans (Nat.le_of_lt_succ within))
    exact List.mem_takeWhile_imp (part.subset member)
  · rintro ⟨text, rest, split, accepted, rfl⟩
    refine ⟨text.length, Nat.lt_succ_of_le ?_, move_length split⟩
    rw [reach, split, List.takeWhile_append_of_pos accepted, List.length_append]
    exact Nat.le_add_right _ _

end Cursor

namespace Expression

variable {first second inner : Expression} {rest : List Expression} {accepts : Char → Bool}
  {text : List Char} {cursor later : Cursor}

/-! ## One equation for each kind of expression -/

theorem ways_front (cursor : Cursor) :
    front.ways cursor = if cursor.before = [] then [cursor] else [] :=
  rfl

theorem ways_ending (cursor : Cursor) :
    ending.ways cursor = if cursor.after = [] ∨ cursor.after = ['\n'] then [cursor] else [] :=
  rfl

theorem ways_wordEdge (cursor : Cursor) :
    wordEdge.ways cursor = if cursor.isAtWordEdge then [cursor] else [] :=
  rfl

theorem ways_literal (text : List Char) (cursor : Cursor) :
    (literal text).ways cursor =
      if text <+: cursor.after then [cursor.move text.length] else [] :=
  rfl

theorem ways_one (accepts : Char → Bool) (cursor : Cursor) :
    (one accepts).ways cursor =
      if cursor.after.head?.any accepts then [cursor.move 1] else [] :=
  rfl

theorem ways_most (accepts : Char → Bool) (cursor : Cursor) :
    (most accepts).ways cursor =
      (List.range (cursor.reach accepts + 1)).reverse.map cursor.move :=
  rfl

theorem ways_least (accepts : Char → Bool) (cursor : Cursor) :
    (least accepts).ways cursor = (List.range (cursor.reach accepts + 1)).map cursor.move :=
  rfl

theorem ways_either (first second : Expression) (cursor : Cursor) :
    (either first second).ways cursor = first.ways cursor ++ second.ways cursor :=
  rfl

theorem ways_capture (inner : Expression) (cursor : Cursor) :
    (capture inner).ways cursor = (inner.ways cursor).map cursor.captureTo :=
  rfl

theorem ways_inTurn_cons (first : Expression) (rest : List Expression) (cursor : Cursor) :
    (inTurn (first :: rest)).ways cursor = (first.ways cursor).flatMap (inTurn rest).ways :=
  rfl

theorem ways_inTurn_singleton (first : Expression) (cursor : Cursor) :
    (inTurn [first]).ways cursor = first.ways cursor :=
  List.flatMap_singleton' _

/-- An expression leads to a place further on in the same text. -/
theorem exists_eq_append_of_mem_ways {expression : Expression}
    (member : later ∈ expression.ways cursor) :
    ∃ text, cursor.after = text ++ later.after := by
  induction expression generalizing cursor later with
  | front | ending | wordEdge =>
      simp only [ways_front, ways_ending, ways_wordEdge, List.mem_ite_nil_right,
        List.mem_singleton] at member
      exact ⟨[], member.2 ▸ rfl⟩
  | literal | one =>
      simp only [ways_literal, ways_one, List.mem_ite_nil_right, List.mem_singleton] at member
      rcases member with ⟨-, rfl⟩
      exact ⟨_, (List.take_append_drop _ _).symm⟩
  | most | least =>
      simp only [ways_most, ways_least, List.mem_map] at member
      rcases member with ⟨count, -, rfl⟩
      exact ⟨_, (List.take_append_drop count _).symm⟩
  | sequence first second early late =>
      rcases List.mem_flatMap.mp member with ⟨middle, begun, ended⟩
      rcases early begun with ⟨front, split⟩
      rcases late ended with ⟨back, further⟩
      exact ⟨front ++ back, by rw [split, further, List.append_assoc]⟩
  | either first second left right =>
      exact (List.mem_append.mp member).elim left right
  | capture inner induction =>
      rcases List.mem_map.mp member with ⟨reached, found, rfl⟩
      have inside := induction found
      exact inside

/-! ## All matches -/

section Cuts

variable {before after : List Char} {captured : Option (List Char)}

theorem mem_ways_inTurn_cons_iff :
    later ∈ (inTurn (first :: rest)).ways cursor ↔
      ∃ middle ∈ first.ways cursor, later ∈ (inTurn rest).ways middle :=
  List.mem_flatMap

theorem mem_ways_inTurn_cons {middle : Cursor} (early : middle ∈ first.ways cursor)
    (late : later ∈ (inTurn rest).ways middle) :
    later ∈ (inTurn (first :: rest)).ways cursor :=
  mem_ways_inTurn_cons_iff.mpr ⟨middle, early, late⟩

theorem mem_ways_either_iff :
    later ∈ (either first second).ways cursor ↔
      later ∈ first.ways cursor ∨ later ∈ second.ways cursor :=
  List.mem_append

theorem mem_ways_capture_iff :
    later ∈ (capture inner).ways ⟨before, after, captured⟩ ↔
      ∃ reached ∈ inner.ways ⟨before, after, captured⟩, ∃ text,
        after = text ++ reached.after ∧ later = { reached with captured := some text } := by
  rw [ways_capture, List.mem_map]
  constructor
  · rintro ⟨reached, member, rfl⟩
    rcases exists_eq_append_of_mem_ways member with ⟨text, split⟩
    exact ⟨reached, member, text, split, Cursor.captureTo_eq split⟩
  · rintro ⟨reached, member, text, split, rfl⟩
    exact ⟨reached, member, Cursor.captureTo_eq split⟩

theorem mem_ways_front_iff :
    later ∈ front.ways ⟨before, after, captured⟩ ↔
      before = [] ∧ later = ⟨before, after, captured⟩ := by
  simp [ways_front]

theorem mem_ways_ending_iff :
    later ∈ ending.ways ⟨before, after, captured⟩ ↔
      (after = [] ∨ after = ['\n']) ∧ later = ⟨before, after, captured⟩ := by
  simp [ways_ending]

theorem mem_ways_wordEdge_iff :
    later ∈ wordEdge.ways ⟨before, after, captured⟩ ↔
      before.head?.any isWord ≠ after.head?.any isWord ∧
        later = ⟨before, after, captured⟩ := by
  simp [ways_wordEdge, Cursor.isAtWordEdge]

theorem mem_ways_literal_iff :
    later ∈ (literal text).ways ⟨before, after, captured⟩ ↔
      ∃ rest, after = text ++ rest ∧ later = ⟨text.reverse ++ before, rest, captured⟩ := by
  simp only [ways_literal, List.mem_ite_nil_right, List.mem_singleton]
  constructor
  · rintro ⟨⟨rest, rfl⟩, rfl⟩
    exact ⟨rest, rfl, Cursor.move_length rfl⟩
  · rintro ⟨rest, rfl, rfl⟩
    have moved := @Cursor.move_length ⟨before, text ++ rest, captured⟩ text rest rfl
    exact ⟨List.prefix_append text rest, moved.symm⟩

theorem mem_ways_one_iff :
    later ∈ (one accepts).ways ⟨before, after, captured⟩ ↔
      ∃ character rest, after = character :: rest ∧ accepts character = true ∧
        later = ⟨character :: before, rest, captured⟩ := by
  cases after with
  | nil => simp [ways_one]
  | cons character rest =>
      simp only [ways_one, List.mem_ite_nil_right, List.mem_singleton]
      constructor
      · rintro ⟨accepted, rfl⟩
        exact ⟨character, rest, rfl, accepted, rfl⟩
      · rintro ⟨_, _, ⟨rfl, rfl⟩, accepted, rfl⟩
        exact ⟨accepted, rfl⟩

theorem mem_ways_most_iff :
    later ∈ (most accepts).ways ⟨before, after, captured⟩ ↔
      ∃ text rest, after = text ++ rest ∧ (∀ character ∈ text, accepts character = true) ∧
        later = ⟨text.reverse ++ before, rest, captured⟩ := by
  simp only [ways_most, List.mem_map, List.mem_reverse, List.mem_range]
  exact Cursor.exists_move_iff

theorem mem_ways_least_iff :
    later ∈ (least accepts).ways ⟨before, after, captured⟩ ↔
      ∃ text rest, after = text ++ rest ∧ (∀ character ∈ text, accepts character = true) ∧
        later = ⟨text.reverse ++ before, rest, captured⟩ := by
  simp only [ways_least, List.mem_map, List.mem_range]
  exact Cursor.exists_move_iff

end Cuts

/-! ## The first match -/

/-- What an expression captures is captured by one of its matches. -/
theorem exists_mem_ways_of_captured? {word : List Char}
    (found : first.captured? text = some word) :
    ∃ later ∈ first.ways { after := text }, later.captured = some word := by
  rcases Option.bind_eq_some_iff.mp found with ⟨later, matched, same⟩
  exact ⟨later, List.mem_of_head? matched, same⟩

/-- An expression that has a match, and captures something in all of them, captures something. -/
theorem captured?_isSome (matched : later ∈ first.ways { after := text })
    (captures : ∀ reached ∈ first.ways { after := text }, reached.captured.isSome = true) :
    (first.captured? text).isSome = true := by
  have nonempty := List.ne_nil_of_mem matched
  rw [captured?, match?, List.head?_eq_some_head nonempty]
  exact captures _ (List.head_mem nonempty)

theorem ways_front_inTurn (parts : List Expression) (text : List Char) :
    (inTurn (front :: parts)).ways { after := text } = (inTurn parts).ways { after := text } :=
  List.flatMap_singleton _ _

theorem ways_literal_inTurn (before rest : List Char) (character : Char)
    (parts : List Expression) :
    (inTurn (literal [character] :: parts)).ways ⟨before, character :: rest, none⟩ =
      (inTurn parts).ways ⟨character :: before, rest, none⟩ := by
  simp [ways_inTurn_cons, ways_literal, Cursor.move]

theorem ways_most_eq_cons (accepts : Char → Bool) (cursor : Cursor) :
    (most accepts).ways cursor =
      cursor.pass (cursor.after.takeWhile accepts) (cursor.after.dropWhile accepts) ::
        (List.range (cursor.reach accepts)).reverse.map cursor.move := by
  have whole : cursor.move (cursor.reach accepts) =
      cursor.pass (cursor.after.takeWhile accepts) (cursor.after.dropWhile accepts) :=
    Cursor.move_length List.takeWhile_append_dropWhile.symm
  rw [ways_most, List.range_succ, List.reverse_append, List.map_append, ← whole]
  rfl

/-- What cannot begin inside a run is matched behind the whole run. -/
theorem ways_most_inTurn
    (outside : ∀ middle : Cursor, middle.after.head?.any accepts = true →
      (inTurn rest).ways middle = []) :
    (inTurn (most accepts :: rest)).ways cursor =
      (inTurn rest).ways
        (cursor.pass (cursor.after.takeWhile accepts) (cursor.after.dropWhile accepts)) := by
  have shorter : ((List.range (cursor.reach accepts)).reverse.map cursor.move).flatMap
      (inTurn rest).ways = [] := by
    rw [List.flatMap_eq_nil_iff]
    intro middle member
    rcases List.mem_map.mp member with ⟨count, inside, rfl⟩
    rw [List.mem_reverse, List.mem_range] at inside
    exact outside _ (Cursor.accepts_of_lt_reach inside)
  rw [ways_inTurn_cons, ways_most_eq_cons, List.flatMap_cons, shorter, List.append_nil]

end Expression

end Outline.Text
