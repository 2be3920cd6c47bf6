import Outline.Proofs.Yield

/-!
# The fate of every line

A structural line of a document is attached, rejected or omitted, and exactly
one of these.  The omitted lines and the unheard notes are those that lie behind
a rejected line: all lines from there on are deeper than the block in which it
was rejected, or say nothing.

A reading that passes lines over has been sent there by one rejected line, and
it stays as it is until a line ends the recovery.  Both directions of the
description follow from this.
-/

namespace Outline

/-! ## Passing over lines -/

/-- Whether a line says nothing or is deeper than a column. -/
def Line.IsBelow (column : Int) (line : Line) : Prop :=
  line.body.isSilent = false → column < line.indent

instance (column : Int) (line : Line) : Decidable (line.IsBelow column) :=
  inferInstanceAs (Decidable (line.body.isSilent = false → column < line.indent))

namespace Reading

theorem hears_of_recovery_eq_none {reading : Reading} (resumed : reading.recovery = none)
    (line : Line) :
    reading.Hears line := by
  intro recovery pausing
  simp [resumed] at pausing

theorem hears_iff {reading : Reading} {recovery : Recovery}
    (pausing : reading.recovery = some recovery) (line : Line) :
    reading.Hears line ↔ line.indent ≤ recovery.column := by
  constructor
  · intro heard
    exact heard recovery pausing
  · intro shallow other same
    rw [pausing, Option.some.injEq] at same
    exact same ▸ shallow

/-- Silent lines and lines that are not heard are passed over. -/
theorem step_of_isBelow {reading : Reading} {recovery : Recovery} {line : Line}
    (pausing : reading.recovery = some recovery) (below : line.IsBelow recovery.column) :
    reading.step line = reading := by
  unfold step
  cases loud : line.body.isSilent with
  | true => rfl
  | false => simp [pausing, below loud]

theorem run_of_isBelow {reading : Reading} {recovery : Recovery} {lines : List Line}
    (pausing : reading.recovery = some recovery)
    (below : ∀ line ∈ lines, line.IsBelow recovery.column) :
    reading.run lines = reading := by
  induction lines with
  | nil => rfl
  | cons line rest induction =>
      rw [run_cons, step_of_isBelow pausing (below line List.mem_cons_self)]
      exact induction fun other member => below other (List.mem_cons_of_mem _ member)

/-- The last line has been rejected in a block at a column. -/
def FailsAt (before : List Line) (failed : Line) (column : Int) : Prop :=
  (initial.run (before ++ [failed])).recovery = some ⟨failed.number, column⟩

/-- Whoever passes lines over has been sent there by a line, and all lines since are below. -/
theorem exists_failsAt {lines : List Line} {recovery : Recovery}
    (pausing : (initial.run lines).recovery = some recovery) :
    ∃ before failed between, lines = before ++ failed :: between ∧
      failed.number = recovery.failedLine ∧ FailsAt before failed recovery.column ∧
      ∀ line ∈ between, line.IsBelow recovery.column := by
  induction lines using List.reverseRecOn with
  | nil =>
      simp [initial] at pausing
  | append_singleton earlier line induction =>
      have passed : line.IsBelow recovery.column →
          (initial.run earlier).recovery = some recovery →
            ∃ before failed between, earlier ++ [line] = before ++ failed :: between ∧
              failed.number = recovery.failedLine ∧ FailsAt before failed recovery.column ∧
              ∀ line ∈ between, line.IsBelow recovery.column := by
        intro inner same
        rcases induction same with ⟨before, failed, between, rfl, number, fails, below⟩
        refine ⟨before, failed, between ++ [line], by simp, number, fails, ?_⟩
        intro other member
        rcases List.mem_append.mp member with old | last
        · exact below other old
        · exact List.mem_singleton.mp last ▸ inner
      rcases step_yields (initial.run earlier) line with ⟨placements, findings, yields, -⟩
      generalize same : ((initial.run earlier).step line).recovery = later at yields
      have ended : (initial.run (earlier ++ [line])).recovery = later := by
        simpa using same
      rw [ended] at pausing
      cases yields with
      | silent quiet =>
          apply passed _ pausing
          intro loud
          exact absurd (quiet.symm.trans loud) (by decide)
      | skipped loud unheard =>
          apply passed _ pausing
          intro _
          rw [hears_iff pausing] at unheard
          exact not_le.mp unheard
      | @rejected problem column structural heard refusal =>
          rw [Option.some.injEq] at pausing
          subst recovery
          exact ⟨earlier, line, [], rfl, rfl, ended, by simp⟩
      | _ => simp at pausing

end Reading

/-! ## Fates -/

/-- What becomes of a structural line. -/
inductive Fate where
  /-- The line has a node, and nothing kept it from being placed. -/
  | attached
  /-- The line has no node, and one finding tells why. -/
  | rejected
  /-- Nothing comes of the line. -/
  | omitted

namespace Outcome

/-- Whether an outcome shows a fate of a line. -/
def Assigns (outcome : Outcome) (line : Line) : Fate → Prop
  | .attached => (outcome.nodesAt line).length = 1 ∧ outcome.refusalsAt line = []
  | .rejected => (outcome.refusalsAt line).length = 1 ∧ outcome.nodesAt line = []
  | .omitted => outcome.nodesAt line = [] ∧ outcome.findingsAt line = []

theorem Assigns.unique {outcome : Outcome} {line : Line} {fate other : Fate}
    (first : outcome.Assigns line fate) (second : outcome.Assigns line other) :
    fate = other := by
  cases fate <;> cases other <;>
    simp [Assigns, refusalsAt] at first second ⊢ <;> simp [first, second] at *

end Outcome

/--
Whether a line lies behind a rejected line: all lines from there on, the line
itself included, are below the block in which that line was rejected.
-/
def Line.IsBehind (lines : List Line) (line : Line) : Prop :=
  ∃ before failed between after column,
    lines = before ++ failed :: (between ++ line :: after) ∧
      (Outcome.ofLines lines).Assigns failed .rejected ∧
      Reading.FailsAt before failed column ∧
      ∀ other ∈ between ++ [line], other.IsBelow column

/-- Whether a line is never read, because it is passed over. -/
def Line.IsUnheard (lines : List Line) (line : Line) : Prop :=
  ∃ before after, lines = before ++ line :: after ∧ ¬ (Reading.initial.run before).Hears line

theorem Line.Ascending.split_eq {before after first rest : List Line} {line : Line}
    (ascending : Line.Ascending (before ++ line :: after))
    (same : before ++ line :: after = first ++ line :: rest) :
    before = first := by
  have notFirst : line ∉ first := by
    intro member
    rw [same] at ascending
    exact lt_irrefl _ (ascending.lt_of_append member List.mem_cons_self)
  have notRest : line ∉ rest := by
    intro member
    rw [same, List.append_cons] at ascending
    exact lt_irrefl _ (ascending.lt_of_append (by simp) member)
  exact ((List.append_cons_inj_of_notMem notFirst notRest).mp same.symm).1.symm

namespace Outcome

theorem assigns_rejected_of_failsAt {before after : List Line} {failed : Line} {column : Int}
    (ascending : Line.Ascending (before ++ failed :: after))
    (fails : Reading.FailsAt before failed column) :
    (ofLines (before ++ failed :: after)).Assigns failed .rejected := by
  have notEarlier : (Reading.initial.run before).recovery ≠ some ⟨failed.number, column⟩ := by
    intro same
    rcases Reading.exists_failsAt same with ⟨first, other, between, rfl, number, -⟩
    exact (ascending.lt_of_append (by simp) List.mem_cons_self).ne number
  rcases ofLines_at ascending with ⟨placements, findings, yields, nodes, reports⟩
  generalize same : (Reading.initial.run (before ++ [failed])).recovery = later at yields
  have ended : later = some ⟨failed.number, column⟩ := same.symm.trans fails
  cases yields with
  | silent quiet => exact absurd ended notEarlier
  | skipped loud unheard => exact absurd ended notEarlier
  | rejected structural heard refusal =>
      refine ⟨?_, nodes⟩
      simp [refusalsAt, reports, refusal]
  | _ => simp at ended

/-- A line that says something is unheard if it lies behind a rejected line. -/
theorem not_hears_iff_isBehind {before after : List Line} {line : Line}
    (ascending : Line.Ascending (before ++ line :: after))
    (loud : line.body.isSilent = false) :
    ¬ (Reading.initial.run before).Hears line ↔
      line.IsBehind (before ++ line :: after) := by
  constructor
  · intro unheard
    cases pausing : (Reading.initial.run before).recovery with
    | none => exact absurd (Reading.hears_of_recovery_eq_none pausing line) unheard
    | some recovery =>
        rw [Reading.hears_iff pausing] at unheard
        rcases Reading.exists_failsAt pausing with
          ⟨first, failed, between, rfl, -, fails, below⟩
        refine ⟨first, failed, between, after, recovery.column, by simp, ?_, fails, ?_⟩
        · rw [List.append_assoc, List.cons_append] at ascending ⊢
          exact assigns_rejected_of_failsAt ascending fails
        · intro other member
          rcases List.mem_append.mp member with old | last
          · exact below other old
          · rw [List.mem_singleton.mp last]
            exact fun _ => not_le.mp unheard
  · rintro ⟨first, failed, between, rest, column, same, -, fails, below⟩
    have split : before = first ++ failed :: between := by
      apply ascending.split_eq
      rw [same, List.append_assoc, List.cons_append]
    have stays : (Reading.initial.run before).recovery = some ⟨failed.number, column⟩ := by
      rw [split, List.append_cons, Reading.run_append, Reading.run_of_isBelow fails]
      · exact fails
      · exact fun other member => below other (List.mem_append_left _ member)
    rw [Reading.hears_iff stays]
    exact (below line (by simp) loud).not_ge

/-- A structural line has one fate, and it is omitted if it is not heard. -/
theorem fate_of_structural {before after : List Line} {line : Line}
    (ascending : Line.Ascending (before ++ line :: after))
    (structural : line.isStructural = true) :
    (∃ fate, (ofLines (before ++ line :: after)).Assigns line fate) ∧
      ((ofLines (before ++ line :: after)).Assigns line .omitted ↔
        ¬ (Reading.initial.run before).Hears line) := by
  rcases ofLines_at ascending with ⟨placements, findings, yields, nodes, reports⟩
  generalize (Reading.initial.run (before ++ [line])).recovery = later at yields
  cases yields with
  | silent quiet =>
      simp [(Line.neither_of_silent quiet).1] at structural
  | noted note heard =>
      simp [Line.isStructural_eq_false_of_isNote note] at structural
  | skipped loud unheard =>
      have omitted : (ofLines (before ++ line :: after)).Assigns line .omitted :=
        ⟨nodes, reports⟩
      exact ⟨⟨_, omitted⟩, iff_of_true omitted unheard⟩
  | rejected _ heard refusal =>
      refine ⟨⟨.rejected, ?_, nodes⟩, iff_of_false ?_ (not_not_intro heard)⟩
      · simp [refusalsAt, reports, refusal]
      · rintro ⟨-, silent⟩
        simp [reports] at silent
  | attached _ heard number =>
      refine ⟨⟨.attached, ?_, ?_⟩, iff_of_false ?_ (not_not_intro heard)⟩
      · simp [nodes]
      · simp [refusalsAt, reports]
      · rintro ⟨bare, -⟩
        simp [nodes] at bare
  | redeclared _ heard number =>
      refine ⟨⟨.attached, ?_, ?_⟩, iff_of_false ?_ (not_not_intro heard)⟩
      · simp [nodes]
      · simp [refusalsAt, reports, Problem.category, Category.isRefusal]
      · rintro ⟨bare, -⟩
        simp [nodes] at bare

/-- A finding is what one of the lines has yielded. -/
theorem exists_yield_of_mem_findings {lines : List Line} (ascending : Line.Ascending lines)
    {finding : Finding} (member : finding ∈ (ofLines lines).findings) :
    ∃ before line after placements findings recovery, lines = before ++ line :: after ∧
      line.number = finding.lineNumber ∧ finding ∈ findings ∧
      (Reading.initial.run before).Yield line placements findings recovery ∧
      (ofLines lines).nodesAt line = placements.map Placement.child ∧
      (ofLines lines).findingsAt line = findings := by
  have reported := member
  rw [ofLines_findings, List.mem_reverse] at reported
  rcases (Reading.initial_run_grows lines).2 finding reported with ⟨line, known, number⟩
  rcases List.append_of_mem known with ⟨before, after, rfl⟩
  rcases ofLines_at ascending with ⟨placements, findings, yields, nodes, reports⟩
  refine ⟨before, line, after, placements, findings, _, rfl, number.symm, ?_, yields, nodes,
    reports⟩
  rw [← reports, findingsAt, List.mem_filter]
  exact ⟨member, by simpa using number⟩

theorem assigns_attached_of_alreadyDefined {lines : List Line} (ascending : Line.Ascending lines)
    {finding : Finding} (member : finding ∈ (ofLines lines).findings) {name : String}
    {first : Int} (problem : finding.problem = .alreadyDefined name first) :
    ∃ line ∈ lines, line.number = finding.lineNumber ∧ line.isStructural = true ∧
      (ofLines lines).Assigns line .attached := by
  rcases exists_yield_of_mem_findings ascending member with
    ⟨before, line, after, placements, findings, recovery, rfl, number, own, yields, nodes,
      reports⟩
  refine ⟨line, by simp, number, ?_⟩
  cases yields with
  | redeclared structural heard _ =>
      refine ⟨structural, by simp [nodes], ?_⟩
      simp [refusalsAt, reports, Problem.category, Category.isRefusal]
  | noted note heard =>
      simp [Reading.problem_of_mem_repeatedNote own] at problem
  | rejected structural heard refusal =>
      rw [List.mem_singleton.mp own] at problem
      simp only at problem
      rw [problem] at refusal
      exact absurd refusal Bool.false_ne_true
  | _ => simp at own

theorem not_isUnheard_of_repeatedNote {lines : List Line} (ascending : Line.Ascending lines)
    {finding : Finding} (member : finding ∈ (ofLines lines).findings)
    (problem : finding.problem = .repeatedNote) :
    ∃ note ∈ lines, note.number = finding.lineNumber ∧ note.isNote = true ∧
      ¬ note.IsUnheard lines := by
  rcases exists_yield_of_mem_findings ascending member with
    ⟨before, line, after, placements, findings, recovery, rfl, number, own, yields, -, -⟩
  refine ⟨line, by simp, number, ?_⟩
  cases yields with
  | noted note heard =>
      refine ⟨note, ?_⟩
      rintro ⟨first, rest, same, unheard⟩
      exact unheard (ascending.split_eq same ▸ heard)
  | redeclared structural heard _ =>
      simp [List.mem_singleton.mp own] at problem
  | rejected structural heard refusal =>
      rw [List.mem_singleton.mp own] at problem
      simp only at problem
      rw [problem] at refusal
      exact absurd refusal Bool.false_ne_true
  | _ => simp at own

/--
Every structural line of a document has exactly one fate.  The omitted lines and
the unheard notes are those behind a rejected line.  The findings come in the
order of the lines, at most one a line; a redeclared name is found at an attached
line, and a repeated note at a note that is heard.
-/
theorem ofSource_fates (source : String) :
    (∀ line ∈ Line.ofSource source, line.isStructural = true →
        (∃! fate, (ofSource source).Assigns line fate) ∧
          ((ofSource source).Assigns line .omitted ↔ line.IsBehind (Line.ofSource source))) ∧
      (∀ note ∈ Line.ofSource source, note.isNote = true →
        (note.IsUnheard (Line.ofSource source) ↔ note.IsBehind (Line.ofSource source))) ∧
      ((ofSource source).findings.map Finding.lineNumber).Pairwise (· < ·) ∧
      (∀ finding ∈ (ofSource source).findings, ∀ name first,
        finding.problem = .alreadyDefined name first →
          ∃ line ∈ Line.ofSource source, line.number = finding.lineNumber ∧
            line.isStructural = true ∧ (ofSource source).Assigns line .attached) ∧
      ∀ finding ∈ (ofSource source).findings, finding.problem = .repeatedNote →
        ∃ note ∈ Line.ofSource source, note.number = finding.lineNumber ∧
          note.isNote = true ∧ ¬ note.IsUnheard (Line.ofSource source) := by
  have ascending := Line.ascending_ofSource source
  rw [ofSource]
  generalize Line.ofSource source = lines at ascending
  refine ⟨?_, ?_, ?_, ?_, ?_⟩
  · intro line member structural
    rcases List.append_of_mem member with ⟨before, after, rfl⟩
    rcases fate_of_structural ascending structural with ⟨⟨fate, assigned⟩, omitted⟩
    refine ⟨⟨fate, assigned, fun other another => another.unique assigned⟩, ?_⟩
    exact omitted.trans
      (not_hears_iff_isBehind ascending (Line.loud_of_isStructural structural))
  · intro note member isNote
    rcases List.append_of_mem member with ⟨before, after, rfl⟩
    rw [← not_hears_iff_isBehind ascending (Line.loud_of_isNote isNote)]
    constructor
    · rintro ⟨first, rest, same, unheard⟩
      exact ascending.split_eq same ▸ unheard
    · intro unheard
      exact ⟨before, after, rfl, unheard⟩
  · rw [ofLines_findings, List.map_reverse, List.pairwise_reverse]
    exact Reading.run_findings_pairwise lines ascending
  · intro finding member name first problem
    exact assigns_attached_of_alreadyDefined ascending member problem
  · intro finding member problem
    exact not_isUnheard_of_repeatedNote ascending member problem

/-- The body of a rejected line stands between two variables of a class. -/
def stranded : String :=
  "class: A\n    var: x\n    unknown: y\n        @ note\n        input: a\n    var: x"

theorem ofSource_fates_stranded :
    ⟨5, 8, .structural "input: a"⟩ ∈ Line.ofSource stranded ∧
      Line.IsBehind (Line.ofSource stranded) ⟨5, 8, .structural "input: a"⟩ := by
  have member : ⟨5, 8, .structural "input: a"⟩ ∈ Line.ofSource stranded := by
    decide +kernel
  have omitted : (ofSource stranded).Assigns ⟨5, 8, .structural "input: a"⟩ .omitted :=
    ⟨by decide +kernel, by decide +kernel⟩
  exact ⟨member, ((ofSource_fates stranded).1 _ member rfl).2.mp omitted⟩

end Outcome

end Outline
