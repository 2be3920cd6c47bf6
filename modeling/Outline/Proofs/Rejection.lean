import Outline.Proofs.Fate
import Outline.Proofs.Prior

/-!
# What a rejected line leaves behind

A line that is rejected may have left blocks, entered one and ended scopes before
the problem shows.  All the same the tree, the waiting note and what is declared
in the scopes that stay open are those from before the line.

The column that bounds the recovery is the column of the block that is innermost
then, whichever the problem is.  So the structural line with which the reading
goes on is at the column of that block or outside of it, and it is never found
to be too deep.
-/

namespace Outline

/-- Whether a problem is that a line is deeper than the node before it allows. -/
def Problem.isTooDeep : Problem → Bool
  | .overindented .. | .childless .. => true
  | _ => false

/-- The open scopes, the outermost first. -/
def Scopes.stack (scopes : Scopes) : List Scope :=
  scopes.root :: scopes.inner.reverse

/-- Ending scopes takes them from the end of the stack and changes none of the others. -/
theorem Scopes.stack_leaveTo_prefix (scopes : Scopes) (indent : Int) :
    (scopes.leaveTo indent).stack <+: scopes.stack := by
  have kept : (scopes.leaveTo indent).inner <:+ scopes.inner := List.dropWhile_suffix _
  exact List.prefix_cons_inj scopes.root |>.mpr (List.reverse_prefix.mpr kept)

namespace Position

/-- What arriving says about why there is no place for a line. -/
theorem arrive_eq_error_iff {position : Position} {hasLeft : Bool} {indent : Int}
    {problem : Problem} :
    position.arrive hasLeft indent = .error problem ↔
      (hasLeft = true ∧ indent ≠ position.column ∧
        problem = .rollback position.column indent) ∨
      (hasLeft = false ∧ position.column < indent ∧
        ((position.latest = none ∧ problem = .overindented position.column indent) ∨
          ∃ child, position.latest = some child ∧
            ((child.entry.kind.isContainer = false ∧ problem = .childless child.entry.kind) ∨
              (child.entry.kind.isContainer = true ∧ indent ≠ child.entry.bodyIndent ∧
                problem = .overindented child.entry.bodyIndent indent)))) := by
  unfold arrive
  cases hasLeft <;> cases latest : position.latest <;> grind

/-- A line that is not deeper than the innermost block can only miss the column of a block. -/
theorem exists_rollback_of_le {position : Position} {indent : Int} {problem : Problem}
    (shallow : indent ≤ position.column)
    (refused : (position.leaveTo indent).arrive (position.isLeftAt indent) indent =
      .error problem) :
    ∃ expected, problem = .rollback expected indent := by
  rcases arrive_eq_error_iff.mp refused with ⟨-, -, rfl⟩ | ⟨stays, deeper, -⟩
  · exact ⟨_, rfl⟩
  · have inside := isLeftAt_eq_false_iff.mp stays
    rw [leaveTo_eq_self inside] at deeper
    exact absurd deeper shallow.not_gt

end Position

namespace Reading

/-! ## Where a problem shows -/

/--
The column that goes with a problem.  A rollback asks for it; a line that is too
deep shows it in the block which it has not left; a line that has arrived begins
at it.
-/
def contextColumn (reading : Reading) (line : Line) : Problem → Int
  | .rollback expected _ => expected
  | .overindented .. | .childless .. => reading.position.column
  | _ => line.indent

/-- A line is rejected in a block at the column that goes with its problem. -/
theorem Obstacle.column_eq {reading : Reading} {line : Line} {text : String} {reached : Position}
    {problem : Problem} (obstacle : reading.Obstacle line text reached problem)
    (grounded : reading.position.Grounded) :
    reached.column = reading.contextColumn line problem := by
  cases obstacle with
  | unreached refused =>
      rcases Position.arrive_eq_error_iff.mp refused with ⟨-, -, rfl⟩ | ⟨stays, -, tooDeep⟩
      · rfl
      · rw [Position.leaveTo_eq_self (Position.isLeftAt_eq_false_iff.mp stays)]
        rcases tooDeep with ⟨-, rfl⟩ | ⟨child, -, ⟨-, rfl⟩ | ⟨-, -, rfl⟩⟩ <;> rfl
  | unknown approached refused =>
      exact ((approach_eq_ok_iff grounded).mp approached).2
  | misfit approached recognised refused =>
      exact ((approach_eq_ok_iff grounded).mp approached).2

/-- A line that is not deeper than the innermost block is not found to be too deep. -/
theorem Obstacle.isTooDeep_eq_false {reading : Reading} {line : Line} {text : String}
    {reached : Position} {problem : Problem}
    (obstacle : reading.Obstacle line text reached problem)
    (shallow : line.indent ≤ reading.position.column) :
    problem.isTooDeep = false := by
  cases obstacle with
  | unreached refused =>
      rcases Position.exists_rollback_of_le shallow refused with ⟨expected, rfl⟩
      rfl
  | unknown approached refused => rfl
  | misfit approached recognised refused => rfl

theorem exists_findings_of_step {reading : Reading} {line : Line}
    (structural : line.isStructural = true)
    (shallow : line.indent ≤ reading.position.column) :
    ∃ found, (reading.step line).findings = found ++ reading.findings ∧
      ∀ finding ∈ found, finding.problem.isTooDeep = false := by
  have transition := step_transition reading line
  generalize reading.step line = next at transition
  cases transition with
  | silent quiet => exact ⟨[], rfl, by simp⟩
  | skipped loud pausing deeper => exact ⟨[], rfl, by simp⟩
  | noted events body heard =>
      have other := Line.isStructural_eq_false_of_isNote (Line.isNote_of_body body)
      exact absurd structural (by simp [other])
  | @rejected text reached problem events body heard obstacle =>
      refine ⟨[⟨line.number, problem⟩], rfl, ?_⟩
      intro finding member
      rw [List.mem_singleton.mp member]
      exact obstacle.isTooDeep_eq_false shallow
  | @attached text reached entry events body heard approached recognised admitted =>
      rcases attach_findings (reading.arrived line reached events) entry with
        ⟨found, reported, names⟩
      refine ⟨found, reported, ?_⟩
      intro finding member
      rcases names finding member with ⟨name, first, problem⟩
      rw [problem]
      rfl

/-! ## Rejected lines -/

/-- A structural line is read and is not placed, and lines are passed over from then on. -/
structure Rejects (reading : Reading) (line : Line) (recovery : Recovery) : Prop where
  structural : line.isStructural = true
  heard : reading.Hears line
  pausing : (reading.step line).recovery = some recovery

/-- A later reading has the tree and the waiting note of an earlier one, and some of its scopes. -/
structure KeepsResults (reading later : Reading) : Prop where
  tree : later.position.toTree = reading.position.toTree
  pending : later.pending = reading.pending
  scopes : later.scopes.stack <+: reading.scopes.stack

/-- What rejects a line, with the reading that is left behind. -/
theorem Rejects.exists_obstacle {reading : Reading} {line : Line} {recovery : Recovery}
    (rejects : reading.Rejects line recovery) :
    ∃ text reached problem events, reading.Obstacle line text reached problem ∧
      recovery = ⟨line.number, reached.column⟩ ∧
      reading.step line =
        (reading.arrived line reached events).reject line problem reached.column := by
  have structural := rejects.structural
  have pausing := rejects.pausing
  have transition := step_transition reading line
  generalize reading.step line = next at transition pausing
  cases transition with
  | silent quiet =>
      simp [(Line.neither_of_silent quiet).1] at structural
  | skipped loud waiting deeper =>
      exact absurd (rejects.heard _ waiting) deeper.not_ge
  | noted events body heard => simp at pausing
  | @rejected text reached problem events body heard obstacle =>
      simp only [reject, Option.some.injEq] at pausing
      exact ⟨text, reached, problem, events, obstacle, pausing.symm, rfl⟩
  | attached events body heard approached recognised admitted =>
      simp [arrived] at pausing

theorem Obstacle.keepsResults {reading : Reading} {line : Line} {text : String}
    {reached : Position} {problem : Problem}
    (obstacle : reading.Obstacle line text reached problem) (events : List Event) :
    reading.KeepsResults
      ((reading.arrived line reached events).reject line problem reached.column) where
  tree := obstacle.reaches.toTree_eq
  pending := rfl
  scopes := reading.scopes.stack_leaveTo_prefix line.indent

theorem initial_run_grounded (lines : List Line) : (initial.run lines).position.Grounded := by
  induction lines using List.reverseRecOn with
  | nil => exact Position.grounded_initial
  | append_singleton earlier line induction =>
      rw [run_append]
      exact step_grounded induction line

/--
A line that is rejected leaves the tree, the waiting note and the findings as
they were, but for its own finding, and the scopes that stay open with what is
declared in them.  The recovery is bounded by the column of the block that is
innermost then, which is the column that goes with the problem.  So the
structural line with which the reading goes on is not found to be too deep.
-/
theorem rejects_keepsResults (lines : List Line) (failed : Line) (recovery : Recovery)
    (rejects : (initial.run lines).Rejects failed recovery) :
    (initial.run lines).KeepsResults ((initial.run lines).step failed) ∧
      (∃ problem,
        ((initial.run lines).step failed).findings =
          ⟨failed.number, problem⟩ :: (initial.run lines).findings ∧
        recovery.column = (initial.run lines).contextColumn failed problem) ∧
      recovery.column = ((initial.run lines).step failed).position.column ∧
      ∀ between resumed, (∀ line ∈ between, line.IsBelow recovery.column) →
        resumed.isStructural = true → resumed.indent ≤ recovery.column →
          ∃ found, (initial.run (lines ++ failed :: between ++ [resumed])).findings =
              found ++ ((initial.run lines).step failed).findings ∧
            ∀ finding ∈ found, finding.problem.isTooDeep = false := by
  have grounded := initial_run_grounded lines
  rcases rejects.exists_obstacle with ⟨text, reached, problem, events, obstacle, rfl, left⟩
  have column : reached.column = ((initial.run lines).step failed).position.column := by
    rw [left]
    rfl
  refine ⟨?_, ⟨problem, ?_, obstacle.column_eq grounded⟩, column, ?_⟩
  · rw [left]
    exact obstacle.keepsResults events
  · rw [left]
    rfl
  · intro between resumed below structural shallow
    have passed : initial.run (lines ++ failed :: between ++ [resumed]) =
        ((initial.run lines).step failed).step resumed := by
      rw [run_append, run_cons, run_nil, run_append, run_cons,
        run_of_isBelow rejects.pausing below]
    rw [passed]
    exact exists_findings_of_step structural (column ▸ shallow)

/-- A note waits in a function of a class. -/
def waiting : List Line :=
  Line.ofSource "class: A\n    func: f\n        input: a\n        @ note"

/-- The line is in the column of no block; a line below it is passed over, then one is placed. -/
theorem rejects_keepsResults_unaligned :
    (initial.run waiting).Rejects ⟨5, 6, .structural "var: x"⟩ ⟨5, 4⟩ ∧
      (initial.run waiting).KeepsResults
        ((initial.run waiting).step ⟨5, 6, .structural "var: x"⟩) ∧
      ∃ found,
        (initial.run (waiting ++ ⟨5, 6, .structural "var: x"⟩ ::
          [⟨6, 8, .structural "input: b"⟩] ++ [⟨7, 4, .structural "var: x"⟩])).findings =
            found ++ ((initial.run waiting).step ⟨5, 6, .structural "var: x"⟩).findings ∧
          ∀ finding ∈ found, finding.problem.isTooDeep = false := by
  have rejects : (initial.run waiting).Rejects ⟨5, 6, .structural "var: x"⟩ ⟨5, 4⟩ := by
    refine ⟨rfl, hears_of_recovery_eq_none ?_ _, ?_⟩ <;> decide +kernel
  have kept := rejects_keepsResults waiting _ _ rejects
  exact ⟨rejects, kept.1, kept.2.2.2 _ _ (by decide) rfl (by decide)⟩

end Reading

end Outline
