import Outline.Proofs.Searching

/-!
# Rules of version control

A line is refused if nothing follows its negation, or if the first part between
its slashes that is no glob ends in a backslash that escapes nothing.  A bracket
that is not closed makes no line unusable; it only keeps the parts behind it from
being looked at.  A bracket that is closed is refused if one of its ranges ends
before it begins.

The rules that are read decide as it is asked of a matcher: strong matches before
weak ones, and later ones before earlier ones.
-/

namespace Outline

namespace Ignore

open Outline.Text

/-! ## Globs -/

/-- A text that can be read as a glob to its end. -/
def IsGlob (segment : List Char) : Prop :=
  ∃ pieces, globPieces segment = .ok pieces

theorem isGlob_iff_mode (segment : List Char) :
    IsGlob segment ↔ (segment.foldl Scan.read {}).mode = .plain := by
  rw [IsGlob, globPieces]
  cases (segment.foldl Scan.read {}).mode <;> simp

theorem globPieces_eq_danglingBackslash_iff_mode (segment : List Char) :
    globPieces segment = .error .danglingBackslash ↔
      (segment.foldl Scan.read {}).mode = .escaped := by
  rw [globPieces]
  cases (segment.foldl Scan.read {}).mode <;> simp

/-- Inside a bracket a backslash is a member like others. -/
theorem mode_readMember_ne_escaped (scan : Scan) (negated : Bool) (members : List Char)
    (character : Char) :
    (scan.readMember negated members character).mode ≠ .escaped := by
  rw [Scan.readMember]
  split_ifs <;> simp

theorem mode_read_eq_escaped_iff (scan : Scan) (character : Char) :
    (scan.read character).mode = .escaped ↔ scan.mode = .plain ∧ character = '\\' := by
  rcases scan with ⟨mode, pieces⟩
  cases mode with
  | plain =>
      rw [Scan.read, Scan.readPlain]
      split_ifs <;> simp_all
  | escaped => simp [Scan.read]
  | opening =>
      by_cases negates : (character = '!' || character = '^') = true
      · simp [Scan.read, negates]
      · simpa [Scan.read, negates] using mode_readMember_ne_escaped _ false [] character
  | bracket negated members =>
      simpa [Scan.read] using mode_readMember_ne_escaped _ negated members character

/-- A backslash escapes nothing if a whole glob stands before it and nothing behind it. -/
theorem globPieces_eq_danglingBackslash_iff (segment : List Char) :
    globPieces segment = .error .danglingBackslash ↔
      ∃ before, segment = before ++ ['\\'] ∧ IsGlob before := by
  rw [globPieces_eq_danglingBackslash_iff_mode]
  rcases List.eq_nil_or_concat segment with rfl | ⟨before, last, rfl⟩
  · simp
  · rw [List.concat_eq_append, List.foldl_append, List.foldl_cons, List.foldl_nil,
      mode_read_eq_escaped_iff, ← isGlob_iff_mode]
    constructor
    · rintro ⟨whole, rfl⟩
      exact ⟨before, rfl, whole⟩
    · rintro ⟨other, same, whole⟩
      rcases List.append_inj' same rfl with ⟨rfl, last⟩
      exact ⟨whole, List.singleton_inj.mp last⟩

/-! ## Patterns -/

/-- What is wrong, if something is. -/
def faultOf? {Value : Type} : Except GlobFault Value → Option GlobFault
  | .error fault => some fault
  | .ok _ => none

theorem faultOf?_map {Value Other : Type} (change : Value → Other)
    (checked : Except GlobFault Value) :
    faultOf? (checked.map change) = faultOf? checked := by
  cases checked <;> rfl

/-- What is wrong with the first segment that is no glob. -/
def firstFault? (segments : List (List Char)) : Option GlobFault :=
  segments.findSome? fun segment => faultOf? (globPieces segment)

theorem firstFault?_cons (segment : List Char) (rest : List (List Char)) :
    firstFault? (segment :: rest) =
      (faultOf? (globPieces segment)).or (firstFault? rest) := by
  rw [firstFault?, List.findSome?_cons]
  cases faultOf? (globPieces segment) <;> rfl

theorem faultOf?_anyDepth : faultOf? (globPieces anyDepth) = none :=
  rfl

theorem faultOf?_nil : faultOf? (globPieces []) = none :=
  rfl

theorem faultOf?_segmentPieces (segment : List Char) :
    faultOf? (segmentPieces segment) = faultOf? (globPieces segment) := by
  rw [segmentPieces]
  split_ifs with any
  · subst any
    rfl
  · rfl

theorem faultOf?_piecesOf (joined : Bool) (segments : List (List Char)) :
    faultOf? (piecesOf joined segments) = firstFault? segments := by
  induction segments generalizing joined with
  | nil => rfl
  | cons segment rest induction =>
      rw [piecesOf.eq_def, firstFault?_cons]
      dsimp only
      by_cases any : segment = anyDepth
      · rw [if_pos any, any, faultOf?_anyDepth, Option.none_or]
        cases rest with
        | nil => rfl
        | cons next further => rw [faultOf?_map, induction]
      · rw [if_neg any, ← faultOf?_segmentPieces]
        cases segmentPieces segment with
        | error fault => rfl
        | ok front => rw [faultOf?_map, induction, faultOf?, Option.none_or]

theorem faultOf?_patternOf (forDirectories : Bool) (segments : List (List Char)) :
    faultOf? (patternOf forDirectories segments) = firstFault? segments := by
  rw [patternOf]
  split_ifs with any _ name below
  · subst any
    rfl
  · subst any
    rfl
  · subst name
    rfl
  · subst below
    rfl
  · rw [faultOf?_map, faultOf?_piecesOf]

theorem firstFault?_mergeAnyDepth (segments : List (List Char)) :
    firstFault? (mergeAnyDepth segments) = firstFault? segments := by
  induction segments with
  | nil => rfl
  | cons segment rest induction =>
      rw [mergeAnyDepth, firstFault?_cons]
      split_ifs with repeated
      · simp only [Bool.and_eq_true, decide_eq_true_eq] at repeated
        rw [induction, repeated.1]
        rfl
      · rw [firstFault?_cons, induction]

theorem firstFault?_openEnd (segments : List (List Char)) :
    firstFault? (openEnd segments) = firstFault? segments := by
  fun_induction openEnd segments with
  | case1 => rfl
  | case2 segment =>
      cases segment with
      | nil => rfl
      | cons character rest => rfl
  | case3 segment rest nonempty induction => rw [firstFault?_cons, firstFault?_cons, induction]

/-- The segments that are added or left out are globs. -/
theorem firstFault?_segmentsOf (text : List Char) :
    firstFault? (segmentsOf text) = firstFault? (separate (· = '/') text) := by
  rw [segmentsOf, firstFault?_mergeAnyDepth, firstFault?_openEnd]
  split
  · rename_i rest parts
    rw [parts, firstFault?_cons, faultOf?_nil, Option.none_or]
  · rename_i segment parts
    rw [parts, firstFault?_cons, faultOf?_anyDepth, Option.none_or]
  · rename_i segment parts
    rw [parts, firstFault?_cons, faultOf?_anyDepth, Option.none_or]
  · rfl

theorem mergeAnyDepth_ne_nil {segments : List (List Char)} (nonempty : segments ≠ []) :
    mergeAnyDepth segments ≠ [] := by
  induction segments with
  | nil => exact absurd rfl nonempty
  | cons segment rest induction =>
      rw [mergeAnyDepth]
      split_ifs with repeated
      · refine induction fun last => ?_
        simp [last] at repeated
      · exact List.cons_ne_nil _ _

theorem openEnd_ne_nil {segments : List (List Char)} (nonempty : segments ≠ []) :
    openEnd segments ≠ [] := by
  fun_cases openEnd segments with
  | case1 => exact absurd rfl nonempty
  | case2 | case3 => exact List.cons_ne_nil _ _

theorem separate_ne_nil (text : List Char) : separate (· = '/') text ≠ [] := by
  cases text with
  | nil => exact List.cons_ne_nil _ _
  | cons character rest =>
      rw [separate, List.foldr_cons]
      split
      · exact List.cons_ne_nil _ _
      · split <;> exact List.cons_ne_nil _ _

theorem eq_nil_of_separate {text : List Char} (single : separate (· = '/') text = [[]]) :
    text = [] := by
  cases text with
  | nil => rfl
  | cons character rest =>
      rw [separate, List.foldr_cons] at single
      split at single
      · exact absurd (List.cons.inj single).2 (separate_ne_nil rest)
      · split at single <;> simp at single

/-- Only an empty text has no segments. -/
theorem segmentsOf_eq_nil_iff (text : List Char) : segmentsOf text = [] ↔ text = [] := by
  constructor
  · intro nothing
    have nothing_left {segments : List (List Char)}
        (empty : mergeAnyDepth (openEnd segments) = []) :
        segments = [] := by
      by_contra nonempty
      exact mergeAnyDepth_ne_nil (openEnd_ne_nil nonempty) empty
    rw [segmentsOf] at nothing
    have parts := nothing_left nothing
    split at parts
    · rename_i rest separated
      exact eq_nil_of_separate (parts ▸ separated)
    · cases parts
    · cases parts
    · exact absurd parts (separate_ne_nil text)
  · rintro rfl
    rfl

/-- A pattern whose first part that is no glob ends in a backslash that escapes nothing. -/
def DanglesIn (text : List Char) : Prop :=
  ∃ before glob after,
    separate (· = '/') text = before ++ (glob ++ ['\\']) :: after ∧
      (∀ segment ∈ before, IsGlob segment) ∧ IsGlob glob

theorem firstFault?_eq_danglingBackslash_iff (text : List Char) :
    firstFault? (separate (· = '/') text) = some .danglingBackslash ↔ DanglesIn text := by
  have fault (segment : List Char) : faultOf? (globPieces segment) = some .danglingBackslash ↔
      ∃ glob, segment = glob ++ ['\\'] ∧ IsGlob glob := by
    rw [← globPieces_eq_danglingBackslash_iff]
    cases globPieces segment <;> simp [faultOf?]
  have fine (segment : List Char) :
      faultOf? (globPieces segment) = none ↔ IsGlob segment := by
    rw [IsGlob]
    cases globPieces segment <;> simp [faultOf?]
  simp only [firstFault?, List.findSome?_eq_some_iff, fault, fine, DanglesIn]
  constructor
  · rintro ⟨before, segment, after, parts, ⟨glob, rfl, whole⟩, earlier⟩
    exact ⟨before, glob, after, parts, earlier, whole⟩
  · rintro ⟨before, glob, after, parts, earlier, whole⟩
    exact ⟨before, _, after, parts, ⟨glob, rfl, whole⟩, earlier⟩

/-! ## Ranges -/

/-- A bracket is refused if and only if one of its ranges ends before it begins. -/
theorem reversedIn?_eq_none_iff (before members : List Char) :
    reversedIn? before members = none ↔ ∀ range ∈ rangesOf members, range.1 ≤ range.2 := by
  fun_induction reversedIn? before members with
  | case1 before low high rest reversed =>
      refine iff_of_false (by simp) fun ordered => ?_
      exact Char.not_le.mpr reversed (ordered (low, high) (by simp [rangesOf]))
  | case2 before low high rest ordered induction =>
      rw [rangesOf, induction, List.forall_mem_cons, and_iff_right (Char.not_lt.mp ordered)]
  | case3 before character rest single induction =>
      rw [rangesOf, induction]
      · simp
      · exact single
  | case4 => simp [rangesOf]

/-- The ranges of a bracket end where they begin or behind it. -/
def Piece.IsOrdered (piece : Piece) : Prop :=
  ∀ negated members, piece = .one (.listed negated members) →
    ∀ range ∈ rangesOf members, range.1 ≤ range.2

theorem Piece.reversed?_eq_none_iff (before : List Char) (piece : Piece) :
    piece.reversed? before = none ↔ piece.IsOrdered := by
  rw [reversed?.eq_def, IsOrdered]
  split
  · rename_i negated members
    simp [reversedIn?_eq_none_iff]
  · rename_i other
    exact iff_of_true rfl fun negated members same => absurd same (other negated members)

theorem reversedAmong?_eq_none_iff (before : List Char) (pieces : List Piece) :
    reversedAmong? before pieces = none ↔ ∀ piece ∈ pieces, piece.IsOrdered := by
  induction pieces generalizing before with
  | nil => simp [reversedAmong?]
  | cons piece rest induction =>
      rw [reversedAmong?, Option.or_eq_none_iff, induction, Piece.reversed?_eq_none_iff,
        List.forall_mem_cons]

/-- The brackets of a pattern are in order. -/
def Pattern.IsOrdered : Pattern → Prop
  | anyPath | anyBelow => True
  | pieces parts _ => ∀ piece ∈ parts, piece.IsOrdered

theorem Pattern.fault?_eq_none_iff (pattern : Pattern) :
    pattern.fault? = none ↔ pattern.IsOrdered := by
  cases pattern with
  | anyPath | anyBelow => simp [fault?, IsOrdered]
  | pieces parts ending => simp [fault?, IsOrdered, reversedAmong?_eq_none_iff]

theorem Pattern.fault?_ne_invalidPattern (pattern : Pattern) (line : String) :
    pattern.fault? ≠ some (.invalidPattern line) := by
  cases pattern <;> simp [fault?]

/-! ## Lines -/

theorem ofPattern_eq_invalidPattern_iff {line other : String} {negated : Bool}
    {text : List Char} :
    Rule.ofPattern line negated text = .error (.invalidPattern other) ↔
      other = line ∧ (text = [] ∨ DanglesIn text) := by
  rw [Rule.ofPattern, ← firstFault?_eq_danglingBackslash_iff, ← firstFault?_segmentsOf,
    ← faultOf?_patternOf (['/'].isSuffixOf text), ← segmentsOf_eq_nil_iff]
  by_cases nothing : segmentsOf text = []
  · simp [nothing, eq_comm]
  · have nonempty : (segmentsOf text).isEmpty = false := by
      simpa using nothing
    simp only [nonempty, nothing, false_or]
    cases checked : patternOf (['/'].isSuffixOf text) (segmentsOf text) with
    | error fault => cases fault <;> simp [faultOf?, eq_comm]
    | ok pattern =>
        have valid := pattern.fault?_ne_invalidPattern other
        cases found : pattern.fault? <;> simp_all [faultOf?]

/-- The pattern on a line, without its negation; some lines say nothing. -/
def patternText? (line : String) : Option (List Char) :=
  match trimLine line.toList with
  | [] => none
  | '#' :: _ => none
  | ['/'] => none
  | '!' :: text => some text
  | text => some text

/-- A line is no pattern. -/
def IsUnusable (line : String) : Prop :=
  ∃ text, patternText? line = some text ∧ (text = [] ∨ DanglesIn text)

/-- The brackets of the pattern on a line are in order, if it has all its parts. -/
def IsOrderedLine (line : String) : Prop :=
  ∀ text, patternText? line = some text → ∀ pattern,
    patternOf (['/'].isSuffixOf text) (segmentsOf text) = .ok pattern → pattern.IsOrdered

theorem ofLine?_eq_invalidPattern_iff {line other : String} :
    Rule.ofLine? line = .error (.invalidPattern other) ↔ other = line ∧ IsUnusable line := by
  rw [Rule.ofLine?, IsUnusable, patternText?]
  generalize trimLine line.toList = trimmed
  split <;> simp_all [ofPattern_eq_invalidPattern_iff]

theorem exists_ofPattern_iff {line : String} {negated : Bool} {text : List Char} :
    (∃ rule?, Rule.ofPattern line negated text = .ok rule?) ↔
      ¬ (text = [] ∨ DanglesIn text) ∧ ∀ pattern,
        patternOf (['/'].isSuffixOf text) (segmentsOf text) = .ok pattern → pattern.IsOrdered := by
  rw [Rule.ofPattern, ← firstFault?_eq_danglingBackslash_iff, ← firstFault?_segmentsOf,
    ← faultOf?_patternOf (['/'].isSuffixOf text), ← segmentsOf_eq_nil_iff]
  by_cases nothing : segmentsOf text = []
  · simp [nothing]
  · have nonempty : (segmentsOf text).isEmpty = false := by
      simpa using nothing
    simp only [nonempty, nothing, false_or]
    cases checked : patternOf (['/'].isSuffixOf text) (segmentsOf text) with
    | error fault => cases fault <;> simp [faultOf?]
    | ok pattern =>
        have ordered := pattern.fault?_eq_none_iff
        cases found : pattern.fault? <;> simp_all [faultOf?]

/-- A line is read unless it is no pattern or a bracket of it is out of order. -/
theorem isUsable_versionControl_iff (line : String) :
    versionControl.IsUsable line ↔ ¬ IsUnusable line ∧ IsOrderedLine line := by
  change (∃ rule?, Rule.ofLine? line = .ok rule?) ↔ _
  rw [Rule.ofLine?, IsUnusable, IsOrderedLine, patternText?]
  generalize trimLine line.toList = trimmed
  split <;> simp_all [exists_ofPattern_iff]

/-! ## Verdicts -/

/-- A strong match decides before a weak one, and a later match before an earlier one. -/
theorem deciding?_eq (rules : List Rule) (path : List Char) :
    deciding? rules path =
      (rules.filter fun rule => rule.strength? path = some .strong).getLast?.or
        (rules.filter fun rule => rule.strength? path = some .weak).getLast? := by
  have strong : (rules.filter fun rule => (rule.strength? path).isSome).filter
        (fun rule => rule.strength? path = some .strong) =
      rules.filter fun rule => rule.strength? path = some .strong := by
    rw [List.filter_filter]
    refine List.filter_congr fun rule _ => ?_
    cases rule.strength? path <;> simp
  rw [deciding?, strong]
  cases last : (rules.filter fun rule => rule.strength? path = some .strong).getLast? with
  | some rule => rfl
  | none =>
      rw [List.getLast?_eq_none_iff, List.filter_eq_nil_iff] at last
      rw [Option.none_or]
      refine congrArg List.getLast? (List.filter_congr fun rule member => ?_)
      have weaker := last rule member
      generalize rule.strength? path = strength at weaker ⊢
      rcases strength with _ | _ | _ <;> simp_all

theorem negated_ofPattern {line : String} {negated : Bool} {text : List Char} {rule : Rule}
    (read : Rule.ofPattern line negated text = .ok (some rule)) :
    rule.negated = negated := by
  rw [Rule.ofPattern] at read
  split_ifs at read
  split at read
  · cases read
  · cases read
  · split at read
    · cases read
    · cases read
      rfl

/-- Only a line with an exclamation mark in front takes paths back. -/
theorem head?_of_negated {line : String} {rule : Rule}
    (read : Rule.ofLine? line = .ok (some rule)) (negated : rule.negated = true) :
    line.toList.head? = some '!' := by
  rw [Rule.ofLine?] at read
  split at read
  · cases read
  · cases read
  · cases read
  · rename_i text trimmed
    rw [trimLine] at trimmed
    split_ifs at trimmed
    · exact congrArg List.head? trimmed
    · exact head?_of_head?_trimEnd (congrArg List.head? trimmed)
  · rw [negated_ofPattern read] at negated
    cases negated

/-- The rules of version control rank matches as it is asked of a matcher. -/
theorem ranks_versionControl : versionControl.Ranks where
  verdict_eq rules _ := congrArg (Option.any _) (deciding?_eq rules _)
  negated_read := head?_of_negated

end Ignore

end Outline
