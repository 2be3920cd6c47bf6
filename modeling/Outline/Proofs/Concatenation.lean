import Outline.Proofs.Fate
import Outline.Proofs.Mirroring
import Outline.Proofs.Prior
import Outline.Proofs.Renumbering

/-!
# Documents one after the other

What stands at the top of a document is read on its own.  A line in the first
column leaves all blocks and ends all scopes, so a document that begins with such
a line is read after another one just as it is read alone.

As long as the second document has placed no node, the reading that has read the
first one still has the last node of that one before it.  `Beside` relates it to
the reading that begins.  From the first node on the two readings agree, but for
what the first document has left.
-/

namespace Outline

theorem Line.Aligned.renumber {lines : List Line} (aligned : Line.Aligned lines)
    (move : Int → Int) :
    Line.Aligned (lines.map (Line.renumber move)) := by
  induction lines with
  | nil => trivial
  | cons line rest induction =>
      refine ⟨?_, induction aligned.2⟩
      intro noted next known
      rw [List.find?_map] at known
      rcases Option.mem_map.mp known with ⟨source, found, rfl⟩
      exact aligned.1 noted source found

namespace Position

variable {position : Position}

/-! ## The top of a document -/

/-- A line in the first column leaves all blocks. -/
theorem Grounded.leaveTo_zero (grounded : position.Grounded) :
    (position.leaveTo 0).Grounded ∧ (position.leaveTo 0).enclosing = [] ∧
      (position.leaveTo 0).block.entry = .root := by
  have reaches := reaches_leaveTo position 0
  have inside := grounded.reaches reaches
  have column := reaches.column_le grounded le_rfl
  have outermost : (position.leaveTo 0).enclosing = [] := by
    rw [inside.column_eq, indentUnit] at column
    rw [List.eq_nil_iff_length_eq_zero]
    omega
  have nested := inside.nested
  rw [around, outermost] at nested
  exact ⟨inside, outermost, nested.eq_root⟩

/-- At the top of a document all kinds are admitted as at the beginning. -/
theorem Grounded.admits_leaveTo_zero (grounded : position.Grounded) (kind : Kind) :
    (position.leaveTo 0).admits kind = initial.admits kind := by
  simp [admits, container, grounded.leaveTo_zero.2.2, initial, Entry.root, Grammar.admits]

/-- A node at the top is placed after the trees that are there. -/
theorem Grounded.place_leaveTo_zero (grounded : position.Grounded) (entry : Entry) :
    (position.leaveTo 0).place entry = (initial.place entry).after position.toTree.children := by
  rcases grounded.leaveTo_zero with ⟨-, outermost, root⟩
  rw [← (reaches_leaveTo position 0).toTree_eq]
  generalize position.leaveTo 0 = top at outermost root
  rcases top with ⟨⟨container, finished⟩, latest, enclosing⟩
  simp only at outermost root
  subst outermost root
  simp [Position.place, after, enclosingAfter, Block.after, initial, toTree, Block.close, children]

/-- At the top of a document no scope is open. -/
theorem Grounded.scopes_leaveTo_zero (grounded : position.Grounded) :
    position.scopes.leaveTo 0 = .initial := by
  rcases grounded.leaveTo_zero with ⟨inside, outermost, root⟩
  have left := inside.leaveTo_column
  rw [inside.column_eq_zero outermost] at left
  rw [(reaches_leaveTo position 0).leaveTo_scopes grounded, left, openTrees, outermost]
  apply congrArg (fun inner => ({ inner } : Scopes))
  apply Tree.scopes_cons_of_closed
  show (position.leaveTo 0).block.entry.kind.opensScope = false
  rw [root]
  rfl

end Position

namespace Reading

/-- In an aligned document a line in the first column ends all scopes. -/
theorem Mirrors.leaveTo_zero {lines : List Line} {reading : Reading}
    (mirrors : reading.Mirrors lines) (grounded : reading.position.Grounded) :
    reading.scopes.leaveTo 0 = .initial := by
  rw [← grounded.scopes_leaveTo_zero]
  rcases mirrors with same | ⟨bounded, agrees⟩
  · rw [same]
  · exact agrees 0 grounded.column_nonneg

/-- A line in the first column arrives at the top of the document. -/
theorem approach_of_column_zero {reading : Reading} {line : Line}
    (grounded : reading.position.Grounded) (column : line.indent = 0) :
    reading.approach line = .ok (reading.position.leaveTo 0) := by
  rcases grounded.leaveTo_zero with ⟨inside, outermost, -⟩
  rw [approach_eq_ok_iff grounded, column]
  exact ⟨Position.reaches_leaveTo _ _, inside.column_eq_zero outermost⟩

/-! ## Before the first node -/

/-- The trees and the findings of a reading are those of another one after those of a past. -/
structure Joins (past : Past) (first second : Reading) : Prop where
  trees : first.position.toTree.children = past.trees ++ second.position.toTree.children
  findings : first.findings = second.findings ++ past.findings

theorem AgreeSince.joins {past : Past} {first second : Reading}
    (agree : AgreeSince past {} first second) :
    Joins past first second := by
  rcases agree with ⟨since, early, late, rfl, rfl⟩
  constructor
  · simp [Reading.after, Position.after_toTree]
  · simp [Reading.after]

/-- A reading with a past, beside one that has none and has placed no node. -/
structure Beside (past : Past) (first second : Reading) : Prop where
  trees : first.position.toTree.children = past.trees
  grounded : first.position.Grounded
  ended : first.scopes.leaveTo 0 = .initial
  hears : ∀ recovery, first.recovery = some recovery → 0 ≤ recovery.column
  position : second.position = .initial
  scopes : second.scopes = .initial
  pending : first.pending = second.pending
  findings : first.findings = second.findings ++ past.findings

namespace Beside

variable {past : Past} {first second : Reading} {line : Line}

theorem joins (beside : Beside past first second) : Joins past first second where
  trees := by
    rw [beside.trees, beside.position]
    simp [Position.toTree, Position.initial, Block.close]
  findings := beside.findings

theorem reject (beside : Beside past first second) {line : Line} (column : line.indent = 0)
    (early late : List Event) (problem : Problem) :
    Beside past
      ((first.arrived line (first.position.leaveTo 0) early).reject line problem
        (first.position.leaveTo 0).column)
      ((second.arrived line .initial late).reject line problem Position.initial.column) where
  trees := by
    rw [← beside.trees, ← (Position.reaches_leaveTo first.position 0).toTree_eq]
    rfl
  grounded := beside.grounded.leaveTo_zero.1
  ended := by
    show (first.scopes.leaveTo line.indent).leaveTo 0 = .initial
    rw [column]
    exact (Scopes.leaveTo_leaveTo _ le_rfl).trans beside.ended
  hears := by
    intro recovery pausing
    simp only [Reading.reject, Option.some.injEq] at pausing
    rw [← pausing]
    exact beside.grounded.leaveTo_zero.1.column_nonneg
  position := rfl
  scopes := by
    show second.scopes.leaveTo line.indent = .initial
    rw [beside.scopes]
    rfl
  pending := beside.pending
  findings := by
    show _ :: first.findings = _ :: second.findings ++ past.findings
    rw [beside.findings]
    rfl

/-- With its first node the second document stands after the first one. -/
theorem attach (beside : Beside past first second) {line : Line} (column : line.indent = 0)
    (early late : List Event) (entry : Entry) :
    AgreeSince past {} ((first.arrived line (first.position.leaveTo 0) early).attach entry)
      ((second.arrived line .initial late).attach entry) := by
  have placed := beside.grounded.place_leaveTo_zero entry
  rw [beside.trees] at placed
  have ended : first.scopes.leaveTo line.indent = .initial := by
    rw [column]
    exact beside.ended
  have unscoped : second.scopes.leaveTo line.indent = .initial := by
    rw [beside.scopes]
    rfl
  refine ⟨(second.arrived line .initial []).attach entry, early, late, ?_, ?_⟩
  · rw [← attach_after]
    simp only [Reading.attach, arrived, Reading.after, placed, Position.after_place, ended,
      unscoped, beside.pending, beside.findings, List.nil_append]
  · rw [← attach_after]
    simp [arrived, Reading.after]

/-- At the top the first node is placed, or the line is rejected. -/
theorem fill (beside : Beside past first second) (column : line.indent = 0)
    (early late : List Event) (text : String) :
    let left := (first.arrived line (first.position.leaveTo 0) early).fill line text
      (first.position.leaveTo 0).column
    let right := (second.arrived line .initial late).fill line text Position.initial.column
    AgreeSince past {} left right ∨
      Beside past left right ∧ left.recovery = some ⟨line.number, 0⟩ ∧
        right.recovery = some ⟨line.number, 0⟩ := by
  rcases beside.grounded.leaveTo_zero with ⟨grounded, outermost, root⟩
  have refused (problem : Problem) :
      ((first.arrived line (first.position.leaveTo 0) early).reject line problem
          (first.position.leaveTo 0).column).recovery =
        some ⟨line.number, 0⟩ := by
    show some (⟨line.number, (first.position.leaveTo 0).column⟩ : Recovery) = _
    rw [grounded.column_eq_zero outermost]
  have pending : (first.arrived line (first.position.leaveTo 0) early).pending =
      (second.arrived line .initial late).pending := beside.pending
  unfold Reading.fill
  rw [pending]
  cases Entry.ofContent? text line.indent line.number
      (second.arrived line .initial late).pending with
  | none => exact .inr ⟨beside.reject column early late _, refused _, rfl⟩
  | some entry =>
      have admits : (first.arrived line (first.position.leaveTo 0) early).position.admits
            entry.kind =
          (second.arrived line .initial late).position.admits entry.kind :=
        beside.grounded.admits_leaveTo_zero entry.kind
      have container : (first.arrived line (first.position.leaveTo 0) early).position.container =
          (second.arrived line .initial late).position.container := root
      simp only [admits, container]
      cases (second.arrived line .initial late).position.admits entry.kind with
      | true => exact .inl (beside.attach column early late entry)
      | false => exact .inr ⟨beside.reject column early late _, refused _, rfl⟩

/-- A structural line in the first column is tried at the top by both readings. -/
theorem step (beside : Beside past first second) (structural : line.isStructural = true)
    (column : line.indent = 0) (resumes : second.Hears line) :
    AgreeSince past {} (first.step line) (second.step line) ∨
      Beside past (first.step line) (second.step line) ∧
        (first.step line).recovery = some ⟨line.number, 0⟩ ∧
        (second.step line).recovery = some ⟨line.number, 0⟩ := by
  rcases Line.exists_text_of_isStructural structural with ⟨text, body⟩
  have start : second.position.Grounded := beside.position ▸ Position.grounded_initial
  have early := approach_of_column_zero beside.grounded column
  have late := approach_of_column_zero start column
  rw [beside.position] at late
  have heard : first.Hears line := by
    intro recovery pausing
    rw [column]
    exact beside.hears recovery pausing
  rcases step_of_approach body heard early with ⟨before, left⟩
  rcases step_of_approach body resumes late with ⟨after, right⟩
  rw [left, right]
  exact beside.fill column before after text

/-- Both readings keep a note in the same way. -/
theorem note (beside : Beside past first second) (noted : line.isNote = true)
    (early : first.Hears line) (late : second.Hears line) :
    Beside past (first.step line) (second.step line) ∧
      (first.step line).recovery = none ∧ (second.step line).recovery = none := by
  rcases Line.exists_text_of_isNote noted with ⟨text, body⟩
  rcases step_of_note body early with ⟨before, left⟩
  rcases step_of_note body late with ⟨after, right⟩
  have same : first.repeatedNote line = second.repeatedNote line := by
    rw [repeatedNote, repeatedNote, beside.pending]
  rw [left, right]
  refine ⟨{ beside with hears := ?_, pending := rfl, findings := ?_ }, rfl, rfl⟩
  · intro recovery impossible
    simp at impossible
  · simp [same, beside.findings]

end Beside

/-! ## Up to the first node -/

/-- How two readings beside each other go on over the lines that are left. -/
inductive GoOn (first second : Reading) (rest : List Line) : Prop where
  -- The first reading may still pass lines over; the line that leads the rest ends this.
  | begin (resumed : second.recovery = none)
      (lead : ∀ line ∈ rest.find? fun line => !line.body.isSilent,
        line.isStructural = true ∧ line.indent = 0)
  | read (early : first.recovery = none) (late : second.recovery = none)
      (next : ∀ line ∈ rest.find? Line.isStructural, line.indent = 0)
  | pass {number : Int} (early : first.recovery = some ⟨number, 0⟩)
      (late : second.recovery = some ⟨number, 0⟩)

namespace GoOn

variable {first second : Reading} {line : Line} {rest : List Line}

theorem of_silent (goOn : GoOn first second (line :: rest))
    (quiet : line.body.isSilent = true) :
    GoOn first second rest := by
  have other := (Line.neither_of_silent quiet).1
  cases goOn with
  | begin resumed lead =>
      apply GoOn.begin resumed
      simpa [List.find?_cons, quiet] using lead
  | read early late next =>
      apply GoOn.read early late
      simpa [List.find?_cons, other] using next
  | pass early late => exact .pass early late

/-- A line that says something is passed over, is a note, or stands in the first column. -/
theorem of_loud (goOn : GoOn first second (line :: rest))
    (aligned : Line.Aligned (line :: rest)) (loud : line.body.isSilent = false) :
    (∃ number, first.recovery = some ⟨number, 0⟩ ∧ second.recovery = some ⟨number, 0⟩ ∧
        line.IsBelow 0) ∨
      (line.isStructural = true ∧ line.indent = 0 ∧ second.Hears line) ∨
      (line.isNote = true ∧ first.Hears line ∧ second.Hears line ∧
        ∀ next ∈ rest.find? Line.isStructural, next.indent = 0) := by
  have noted (other : line.isStructural = false) : line.isNote = true := by
    cases body : line.body <;>
      simp [Line.isNote, Line.isStructural, LineBody.isSilent, body] at other loud ⊢
  cases goOn with
  | begin resumed lead =>
      have facts := lead line (by simp [loud])
      exact .inr (.inl ⟨facts.1, facts.2, hears_of_recovery_eq_none resumed line⟩)
  | read early late next =>
      cases structural : line.isStructural with
      | true =>
          have column := next line (by simp [structural])
          exact .inr (.inl ⟨rfl, column, hears_of_recovery_eq_none late line⟩)
      | false =>
          refine .inr (.inr ⟨noted structural, hears_of_recovery_eq_none early line,
            hears_of_recovery_eq_none late line, ?_⟩)
          simpa [List.find?_cons, structural] using next
  | @pass number early late =>
      by_cases deeper : 0 < line.indent
      · exact .inl ⟨_, early, late, fun _ => by exact_mod_cast deeper⟩
      · have column : line.indent = 0 := Nat.eq_zero_of_not_pos deeper
        have heard (reading : Reading) (pausing : reading.recovery = some ⟨number, 0⟩) :
            reading.Hears line := by
          rw [hears_iff pausing, column]
          exact le_rfl
        cases structural : line.isStructural with
        | true => exact .inr (.inl ⟨rfl, column, heard second late⟩)
        | false =>
            -- Here the alignment is needed: without it a deeper line might come after the note.
            refine .inr (.inr ⟨noted structural, heard first early, heard second late, ?_⟩)
            intro next known
            rw [← aligned.1 (noted structural) next known, column]

end GoOn

theorem Beside.run {past : Past} {first second : Reading} (beside : Beside past first second)
    (lines : List Line) (aligned : Line.Aligned lines) (goOn : GoOn first second lines) :
    Joins past (first.run lines) (second.run lines) := by
  induction lines generalizing first second with
  | nil => exact beside.joins
  | cons line rest induction =>
      rw [run_cons, run_cons]
      cases loud : line.body.isSilent with
      | true =>
          rw [step_of_silent loud, step_of_silent loud]
          exact induction beside aligned.2 (goOn.of_silent loud)
      | false =>
          rcases goOn.of_loud aligned loud with ⟨number, early, late, below⟩ |
            ⟨structural, column, heard⟩ | ⟨noted, early, late, next⟩
          · rw [step_of_isBelow early below, step_of_isBelow late below]
            exact induction beside aligned.2 (.pass early late)
          · rcases beside.step structural column heard with agree | ⟨still, early, late⟩
            · exact (agree.run (step_grounded beside.grounded line) rest).joins
            · exact induction still aligned.2 (.pass early late)
          · rcases beside.note noted early late with ⟨still, resumed, resumedToo⟩
            exact induction still aligned.2 (.read resumed resumedToo next)

end Reading

namespace Outcome

/--
Documents that begin at the top are read one after the other as each of them is
read alone.  Both must be aligned, the second one must begin in the first column,
and no note of the first one may wait at its end.  Then the trees and the
findings of the second one follow those of the first one, with the lines numbered
on, whatever is wrong with the first one.
-/
theorem ofRaws_append_joins (first second : List String)
    (aligned : Line.Aligned (Line.ofRaws first)) (alignedToo : Line.Aligned (Line.ofRaws second))
    (lead : ∀ line ∈ (Line.ofRaws second).find? fun line => !line.body.isSilent,
      line.isStructural = true ∧ line.indent = 0)
    (ended : (Reading.initial.run (Line.ofRaws first)).pending = none) :
    (ofRaws (first ++ second)).tree.children =
        (ofRaws first).tree.children ++
          (ofRaws second).tree.children.map (Tree.renumber (Line.shift 0 first.length)) ∧
      (ofRaws (first ++ second)).findings =
        (ofRaws first).findings ++
          (ofRaws second).findings.map (Finding.renumber (Line.shift 0 first.length)) := by
  have ascending := Line.ascending_ofRaws first
  have faithful := Reading.run_faithful _ ascending
  have traced := Reading.run_traced _ ascending
  have mirrors := Reading.run_mirrors _ ascending aligned
  have beside : Reading.Beside
      ⟨(Reading.initial.run (Line.ofRaws first)).position.toTree.children,
        (Reading.initial.run (Line.ofRaws first)).findings⟩
      (Reading.initial.run (Line.ofRaws first)) .initial :=
    { trees := rfl
      grounded := faithful.grounded
      ended := mirrors.leaveTo_zero faithful.grounded
      hears := by
        intro recovery pausing
        rw [traced.recovery recovery pausing]
        exact faithful.grounded.column_nonneg
      position := rfl
      scopes := rfl
      pending := ended
      findings := rfl }
  have goOn : Reading.GoOn (Reading.initial.run (Line.ofRaws first)) .initial
      ((Line.ofRaws second).map (Line.renumber (Line.shift 0 first.length))) := by
    apply Reading.GoOn.begin rfl
    intro line known
    rw [List.find?_map] at known
    rcases Option.mem_map.mp known with ⟨source, found, rfl⟩
    exact lead source found
  have joins := beside.run _ (alignedToo.renumber _) goOn
  rw [← Reading.run_append, ← Line.ofRaws_append, Reading.run_renumber (Line.shift_zero _ _)]
    at joins
  simp only [ofRaws, ofLines_tree, ofLines_findings]
  constructor
  · rw [joins.trees]
    show _ ++ (Position.renumber _ _).toTree.children = _
    rw [Position.renumber_toTree, Tree.renumber_children]
  · rw [joins.findings, List.reverse_append, List.map_reverse]
    rfl

/-- A document that ends inside a function, with a line that is rejected. -/
def faultyEnd : List String :=
  ["class: A", "    var: x", "    func: f", "        bogus: y", "            input: b"]

/-- A document that begins with a line that is rejected, and declares a name twice. -/
def faultyStart : List String :=
  ["// remark", "var: x", "@ note", "class: A", "    var: x", "    var: x"]

theorem ofRaws_append_joins_faulty :
    (ofRaws faultyStart).findings =
        [⟨2, .misplaced .field .root⟩, ⟨6, .alreadyDefined "x" 5⟩] ∧
      (ofRaws (faultyEnd ++ faultyStart)).findings =
        (ofRaws faultyEnd).findings ++
          [⟨7, .misplaced .field .root⟩, ⟨11, .alreadyDefined "x" 10⟩] := by
  have own : (ofRaws faultyStart).findings =
      [⟨2, .misplaced .field .root⟩, ⟨6, .alreadyDefined "x" 5⟩] := by
    decide +kernel
  have joins := ofRaws_append_joins faultyEnd faultyStart (by decide +kernel) (by decide +kernel)
    (by decide +kernel) (by decide +kernel)
  refine ⟨own, joins.2.trans ?_⟩
  rw [own]
  rfl

end Outcome

end Outline
