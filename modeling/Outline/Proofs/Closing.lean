import Mathlib.Data.Int.Order.Basic
import Mathlib.Data.List.TakeWhile
import Mathlib.Logic.Function.Iterate
import Outline.Proofs.Histories

/-!
# Closing scopes

A line closes scopes from the inside as long as their owners begin at its column
or further right.  A scope without an owner puts an end to this, and so does one
whose owner begins further left, whatever lies around it.

`Closes` says what is closed at a column without saying how: it is the longest
segment of such scopes.  This determines what is left.  So closing at one column
and then at another one is closing at the lesser of the two, for any scopes.
-/

namespace Outline

/-- The scope has an owner, which begins at a column or further right. -/
def Scope.BeginsFrom (column : Int) (scope : Scope) : Prop :=
  ∃ owner, scope.owner = some owner ∧ column ≤ owner.indent

namespace Scope

variable {scope : Scope} {column : Int}

theorem endsAt_iff : scope.endsAt column = true ↔ scope.BeginsFrom column := by
  simp [endsAt, BeginsFrom, Option.any_eq_true]

theorem BeginsFrom.of_le {lesser : Int} (begins : scope.BeginsFrom column)
    (le : lesser ≤ column) :
    scope.BeginsFrom lesser := by
  rcases begins with ⟨owner, owned, right⟩
  exact ⟨owner, owned, le.trans right⟩

end Scope

namespace Scopes

/--
From the inside, the longest segment of scopes is closed that begin at a column
or further right; the other scopes are left as they are.
-/
structure Closes (column : Int) (scopes : Scopes) (closed : List Scope) (left : Scopes) :
    Prop where
  parts : scopes.inner = closed ++ left.inner
  root : left.root = scopes.root
  begins : ∀ scope ∈ closed, scope.BeginsFrom column
  longest : ∀ segment, segment <+: scopes.inner →
    (∀ scope ∈ segment, scope.BeginsFrom column) → segment <+: closed

theorem closes_leaveTo (scopes : Scopes) (column : Int) :
    scopes.Closes column (scopes.endedAt column) (scopes.leaveTo column) where
  parts := List.takeWhile_append_dropWhile.symm
  root := rfl
  begins := by
    intro scope member
    have ends := List.mem_takeWhile_imp member
    exact Scope.endsAt_iff.mp ends
  longest := by
    rintro segment ⟨rest, parts⟩ begins
    rw [endedAt, ← parts, List.takeWhile_append_of_pos]
    · exact List.prefix_append _ _
    · exact fun scope member => Scope.endsAt_iff.mpr (begins scope member)

namespace Closes

variable {column first second : Int} {scopes between left : Scopes} {closed further : List Scope}

/-- What is closed at a column and what is left is determined by the scopes. -/
theorem eq (closes : scopes.Closes column closed left) :
    closed = scopes.endedAt column ∧ left = scopes.leaveTo column := by
  have known := scopes.closes_leaveTo column
  have longer := known.longest closed ⟨_, closes.parts.symm⟩ closes.begins
  have shorter := closes.longest (scopes.endedAt column) ⟨_, known.parts.symm⟩ known.begins
  have same : closed = scopes.endedAt column := longer.eq_of_length_le shorter.length_le
  subst same
  rcases left with ⟨inner, root⟩
  have rest : inner = (scopes.leaveTo column).inner :=
    List.append_cancel_left (closes.parts.symm.trans known.parts)
  exact ⟨rfl, congrArg₂ Scopes.mk rest closes.root⟩

/--
Closing at a column and then at another one is closing at the lesser of them.
The second closing takes nothing unless it is the one at the lesser column.
-/
theorem append (closes : scopes.Closes first closed between)
    (later : between.Closes second further left) :
    scopes.Closes (min first second) (closed ++ further) left where
  parts := by
    rw [closes.parts, later.parts, List.append_assoc]
  root := later.root.trans closes.root
  begins := by
    intro scope member
    rcases List.mem_append.mp member with early | late
    · exact (closes.begins scope early).of_le (min_le_left _ _)
    · exact (later.begins scope late).of_le (min_le_right _ _)
  longest := by
    intro segment inside begins
    rcases le_total first second with before | after
    · rw [min_eq_left before] at begins
      exact (closes.longest segment inside begins).trans (List.prefix_append _ _)
    · rw [min_eq_right after] at begins
      rw [closes.parts] at inside
      rcases List.prefix_or_prefix_of_prefix inside (List.prefix_append closed between.inner) with
        part | whole
      · exact part.trans (List.prefix_append _ _)
      -- What the segment has beyond the first closing is a segment of what that has left.
      · rcases whole with ⟨rest, rfl⟩
        apply (List.prefix_append_right_inj closed).mpr
        apply later.longest rest ((List.prefix_append_right_inj closed).mp inside)
        exact fun scope member => begins scope (List.mem_append_right _ member)

/-- Closing a segment is leaving the current scope once for each scope in it. -/
theorem iterate_leave (closes : scopes.Closes column closed left) :
    (fun scopes => scopes.perform .leave)^[closed.length] scopes = left := by
  rcases closes with ⟨parts, root, -, -⟩
  induction closed generalizing scopes with
  | nil =>
      rcases scopes with ⟨inner, outermost⟩
      rcases left with ⟨rest, same⟩
      exact congrArg₂ Scopes.mk parts root.symm
  | cons scope rest induction =>
      rw [List.length_cons, Function.iterate_succ_apply]
      apply induction
      · rw [perform, leave?, parts]
        rfl
      · rw [perform, leave?, parts]
        exact root

end Closes

theorem leaveTo_min (scopes : Scopes) (first second : Int) :
    (scopes.leaveTo first).leaveTo second = scopes.leaveTo (min first second) :=
  ((scopes.closes_leaveTo first).append (closes_leaveTo _ second)).eq.2

theorem endedAt_min (scopes : Scopes) (first second : Int) :
    scopes.endedAt first ++ (scopes.leaveTo first).endedAt second =
      scopes.endedAt (min first second) :=
  ((scopes.closes_leaveTo first).append (closes_leaveTo _ second)).eq.1

end Scopes

end Outline
