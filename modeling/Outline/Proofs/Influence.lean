import Mathlib.Logic.Function.Basic
import Outline.Proofs.Fate
import Outline.Proofs.Renumbering

/-!
# Lines without influence

Two sorts of lines have no influence on what is read.  Lines that are passed over
after a rejected line leave the reading as it is, so any other lines may stand in
their place that are deeper than the block in which that line was rejected.
Blank lines and comments leave every reading as it is, so putting them in or
taking them out moves the numbers of the other lines and does nothing else.
-/

namespace Outline

/-! ## Lines that are passed over -/

namespace Reading

/-- A recovery that has lasted to some line began where the named line was rejected. -/
theorem failsAt_of_recovery {before stretch : List Line} {failed : Line} {column : Int}
    (ascending : Line.Ascending (before ++ failed :: stretch))
    (pausing : (initial.run (before ++ failed :: stretch)).recovery =
      some ⟨failed.number, column⟩) :
    FailsAt before failed column ∧ ∀ line ∈ stretch, line.IsBelow column := by
  rcases exists_failsAt pausing with ⟨first, other, between, same, number, fails, below⟩
  have known : other ∈ before ++ failed :: stretch := same ▸ by simp
  have failing : other = failed :=
    ascending.eq_of_number_eq known (by simp) number
  subst other
  have split := ascending.split_eq same
  subst first
  simp only [List.append_cancel_left_eq, List.cons.injEq, true_and] at same
  subst between
  exact ⟨fails, below⟩

end Reading

/-- Other lines may stand in the place of lines that are passed over. -/
theorem Outcome.ofLines_replace_passed {before stretch other : List Line} {failed : Line}
    {column : Int} (ascending : Line.Ascending (before ++ failed :: stretch))
    (passed : (Reading.initial.run (before ++ failed :: stretch)).recovery =
      some ⟨failed.number, column⟩)
    (below : ∀ line ∈ other, line.IsBelow column) (after : List Line) :
    ofLines (before ++ failed :: (other ++ after)) =
      ofLines (before ++ failed :: (stretch ++ after)) := by
  rcases Reading.failsAt_of_recovery ascending passed with ⟨fails, known⟩
  have idle {block : List Line} (deep : ∀ line ∈ block, line.IsBelow column) :
      Reading.initial.run (before ++ failed :: (block ++ after)) =
        (Reading.initial.run (before ++ [failed])).run after := by
    rw [List.append_cons, Reading.run_append, Reading.run_append,
      Reading.run_of_isBelow fails deep]
  rw [ofLines, ofLines, idle below, idle known]

/--
Lines that are passed over have no influence.  When all lines of a stretch are
passed over after a line that was rejected in a block at a column, any lines that
say nothing or are deeper than the column may stand in their place, one for each:
the tree, the findings and all else that is known of the document stay the same.
-/
theorem Outcome.ofRaws_replace_passed (before stretch other after : List String)
    (failed : String) (column : Int)
    (passed : (Reading.initial.run (Line.ofRaws (before ++ failed :: stretch))).recovery =
      some ⟨before.length + 1, column⟩)
    (below : ∀ line ∈ Line.ofRaws other, line.IsBelow column)
    (length : other.length = stretch.length) :
    ofRaws (before ++ failed :: (other ++ after)) =
      ofRaws (before ++ failed :: (stretch ++ after)) := by
  have ascending := Line.ascending_ofRaws (before ++ failed :: stretch)
  rw [Line.ofRaws_split] at passed ascending
  rw [ofRaws, ofRaws, Line.ofRaws_split, Line.ofRaws_split, Line.ofRaws_append other,
    Line.ofRaws_append stretch, List.map_append, List.map_append, length]
  apply ofLines_replace_passed ascending passed
  intro line member
  rcases List.mem_map.mp member with ⟨source, known, rfl⟩
  exact below source known

/-- A line is rejected in a class, and a note and a variable below it are passed over. -/
theorem Outcome.ofRaws_replace_passed_stranded :
    (Reading.initial.run (Line.ofRaws
        (["class: A", "    var: x"] ++ "    unknown: y" :: ["        @ note", ""]))).recovery =
        some ⟨3, 4⟩ ∧
      ofRaws (["class: A", "    var: x"] ++ "    unknown: y" ::
          (["// remark", "      var: x"] ++ ["    func: f"])) =
        ofRaws (["class: A", "    var: x"] ++ "    unknown: y" ::
          (["        @ note", ""] ++ ["    func: f"])) := by
  have passed : (Reading.initial.run (Line.ofRaws
      (["class: A", "    var: x"] ++ "    unknown: y" :: ["        @ note", ""]))).recovery =
      some ⟨3, 4⟩ := by
    decide +kernel
  exact ⟨passed, ofRaws_replace_passed _ _ ["// remark", "      var: x"] _ _ _ passed
    (by decide +kernel) rfl⟩

/-! ## Lines that say nothing -/

namespace Line

/-- Whether a line is neither blank nor a comment. -/
def isLoud (line : Line) : Bool :=
  !line.body.isSilent

/-- Whether a raw line is neither blank nor a comment. -/
def speaks (raw : String) : Bool :=
  (ofRaw raw 0).isLoud

theorem Ascending.tail {line : Line} {rest : List Line} (ascending : Ascending (line :: rest)) :
    Ascending rest :=
  List.Pairwise.sublist ((List.sublist_cons_self _ _).cons_cons 0) ascending

theorem Ascending.filter {lines : List Line} (ascending : Ascending lines) (keep : Line → Bool) :
    Ascending (lines.filter keep) :=
  List.Pairwise.sublist ((List.filter_sublist.map Line.number).cons_cons 0) ascending

/-- The lines of a document that say something, without their places. -/
theorem filter_isLoud_ofRaws (raws : List String) :
    ((ofRaws raws).filter isLoud).map unnumbered = (raws.filter speaks).map (ofRaw · 0) := by
  have loud : isLoud ∘ unnumbered = isLoud := rfl
  have spoken : isLoud ∘ (ofRaw · 0) = speaks := rfl
  rw [← loud, ← List.filter_map, map_unnumbered_ofRaws, List.filter_map, spoken]

/-- Lines that differ in their numbers only are renumbered into one another. -/
theorem exists_renumber {first second : List Line} (ascending : Ascending first)
    (same : first.map unnumbered = second.map unnumbered) :
    ∃ move : Int → Int, move 0 = 0 ∧ first.map (renumber move) = second := by
  induction first generalizing second with
  | nil =>
      cases second with
      | nil => exact ⟨id, rfl, rfl⟩
      | cons other further => simp at same
  | cons line rest induction =>
      cases second with
      | nil => simp at same
      | cons other further =>
          simp only [List.map_cons, List.cons.injEq] at same
          rcases induction ascending.tail same.2 with ⟨move, fixed, moved⟩
          have positive : 0 < line.number := ascending.pos_of_mem List.mem_cons_self
          refine ⟨Function.update move line.number other.number, ?_, ?_⟩
          · rw [Function.update_of_ne positive.ne, fixed]
          · rw [List.map_cons, List.cons.injEq]
            constructor
            · rw [renumber, Function.update_self]
              exact congrArg (fun same : Line => { same with number := other.number }) same.1
            · rw [← moved]
              apply List.map_congr_left
              intro later member
              have further : line.number < later.number :=
                ascending.lt_of_append (List.mem_singleton_self line) member
              rw [renumber, Function.update_of_ne further.ne', renumber]

end Line

/-- Blank lines and comments may be left out of a run. -/
theorem Reading.run_filter_isLoud (reading : Reading) (lines : List Line) :
    reading.run (lines.filter Line.isLoud) = reading.run lines := by
  induction lines generalizing reading with
  | nil => rfl
  | cons line rest induction =>
      cases quiet : line.body.isSilent with
      | true =>
          rw [List.filter_cons_of_neg (by simp [Line.isLoud, quiet]), induction, run_cons,
            step_of_silent quiet]
      | false =>
          rw [List.filter_cons_of_pos (by simp [Line.isLoud, quiet]), run_cons, induction, run_cons]

theorem Outcome.ofLines_filter_isLoud (lines : List Line) :
    ofLines (lines.filter Line.isLoud) = ofLines lines := by
  rw [ofLines, ofLines, Reading.run_filter_isLoud]

/--
Blank lines and comments have no influence.  When two documents have the same
other lines, the outcome of one is that of the other with the numbers moved: each
line of one that says something has its number moved to that of the same line of
the other.  So nothing is found in one of them if nothing is found in the other.
-/
theorem Outcome.ofRaws_eq_renumber (first second : List String)
    (same : first.filter Line.speaks = second.filter Line.speaks) :
    ∃ move : Int → Int, move 0 = 0 ∧
      ((Line.ofRaws first).filter Line.isLoud).map (Line.renumber move) =
        (Line.ofRaws second).filter Line.isLoud ∧
      ofRaws second = (ofRaws first).renumber move ∧
      (ofRaws second).isClean = (ofRaws first).isClean := by
  have ascending := (Line.ascending_ofRaws first).filter Line.isLoud
  have unnumbered :
      ((Line.ofRaws first).filter Line.isLoud).map Line.unnumbered =
        ((Line.ofRaws second).filter Line.isLoud).map Line.unnumbered := by
    rw [Line.filter_isLoud_ofRaws, Line.filter_isLoud_ofRaws, same]
  rcases Line.exists_renumber ascending unnumbered with ⟨move, fixed, moved⟩
  have renumbered : ofRaws second = (ofRaws first).renumber move := by
    rw [ofRaws, ← ofLines_filter_isLoud, ← moved, ofLines_renumber fixed, ofLines_filter_isLoud,
      ofRaws]
  refine ⟨move, fixed, moved, renumbered, ?_⟩
  rw [renumbered, renumber_isClean]

/-- A document with a name declared twice and a line that is rejected. -/
def Outcome.dense : List String :=
  ["class: A", "    @ note", "    var: x", "    unknown: y", "        input: a", "    var: x"]

/--
The same document with remarks between a note and its node and among lines that
are passed over, and with blank lines at both ends.
-/
def Outcome.spaced : List String :=
  ["", "class: A", "    @ note", "// remark", "    var: x", "    unknown: y", "",
    "        // remark", "        input: a", "    var: x", "  "]

theorem Outcome.ofRaws_eq_renumber_spaced :
    dense.filter Line.speaks = spaced.filter Line.speaks ∧
      ∃ move : Int → Int, [1, 2, 3, 4, 5, 6].map move = [2, 3, 5, 6, 9, 10] ∧
        ofRaws spaced = (ofRaws dense).renumber move := by
  have same : dense.filter Line.speaks = spaced.filter Line.speaks := by
    decide +kernel
  have early : ((Line.ofRaws dense).filter Line.isLoud).map Line.number = [1, 2, 3, 4, 5, 6] := by
    decide +kernel
  have late : ((Line.ofRaws spaced).filter Line.isLoud).map Line.number =
      [2, 3, 5, 6, 9, 10] := by
    decide +kernel
  rcases ofRaws_eq_renumber dense spaced same with ⟨move, -, moved, renumbered, -⟩
  refine ⟨same, move, ?_, renumbered⟩
  rw [← early, ← late, ← moved, List.map_map, List.map_map]
  rfl

end Outline
