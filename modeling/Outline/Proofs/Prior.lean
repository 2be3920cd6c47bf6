import Outline.Proofs.Transition

/-!
# What was read before

Trees that are finished at the top of a document, findings and events are only
ever added to.  What a reading does with a line does not depend on those that it
has from before: it does the same with them as it would do without.

The main statement is that a run commutes with putting such a past under a
reading.  It is assembled from one equation for each function that a step uses.
-/

namespace Outline

/-- What a document has at its top, and what has been found, before some of its lines. -/
structure Past where
  trees : List Tree := []
  findings : List Finding := []

/-! ## Positions -/

/-- The block with earlier trees before its own, if there are no blocks around it. -/
def Block.after (trees : List Tree) (block : Block) : List Block → Block
  | [] => { block with finished := block.finished ++ trees.reverse }
  | _ :: _ => block

@[simp]
theorem Block.after_entry (trees : List Tree) (block : Block) (around : List Block) :
    (block.after trees around).entry = block.entry := by
  cases around <;> rfl

namespace Position

/-- The blocks with earlier trees below the outermost one. -/
def enclosingAfter (trees : List Tree) : List Block → List Block
  | [] => []
  | block :: further => block.after trees further :: enclosingAfter trees further

/-- The position with earlier trees at the top. -/
def after (position : Position) (trees : List Tree) : Position where
  block := position.block.after trees position.enclosing
  latest := position.latest
  enclosing := enclosingAfter trees position.enclosing

section After

variable (position : Position) (trees : List Tree)

@[simp]
theorem after_container : (position.after trees).container = position.container :=
  Block.after_entry trees position.block position.enclosing

@[simp]
theorem after_column : (position.after trees).column = position.column := by
  rw [column, column, after_container]

@[simp]
theorem after_around : (position.after trees).around = position.around := by
  have entries (enclosing : List Block) :
      (enclosingAfter trees enclosing).map Block.entry = enclosing.map Block.entry := by
    induction enclosing with
    | nil => rfl
    | cons block further induction => simp [enclosingAfter, induction]
  exact entries position.enclosing

@[simp]
theorem after_nil : position.after [] = position := by
  have same (block : Block) (around : List Block) : block.after [] around = block := by
    cases around <;> simp [Block.after]
  have around (enclosing : List Block) : enclosingAfter [] enclosing = enclosing := by
    induction enclosing with
    | nil => rfl
    | cons block further induction => simp [enclosingAfter, induction, same]
  simp [after, same, around]

theorem after_place (entry : Entry) :
    (position.after trees).place entry = (position.place entry).after trees := by
  rcases position with ⟨block, latest, enclosing⟩
  cases enclosing with
  | nil => simp [place, after, children, Block.after, List.append_assoc]
  | cons parent further => rfl

theorem leaveBlocks_after (indent : Int) (block : Block) (latest : Option Tree)
    (enclosing : List Block) :
    leaveBlocks indent (block.after trees enclosing) latest (enclosingAfter trees enclosing) =
      (leaveBlocks indent block latest enclosing).after trees := by
  induction enclosing generalizing block latest with
  | nil => rfl
  | cons parent further induction =>
      by_cases outside : indent < block.entry.bodyIndent
      · simp only [leaveBlocks, enclosingAfter, Block.after, outside, if_true]
        exact induction parent (some (block.close latest))
      · simp only [leaveBlocks, enclosingAfter, Block.after, outside, if_false]
        rfl

theorem after_leaveTo (indent : Int) :
    (position.after trees).leaveTo indent = (position.leaveTo indent).after trees :=
  leaveBlocks_after trees indent position.block position.latest position.enclosing

theorem after_isLeftAt (indent : Int) :
    (position.after trees).isLeftAt indent = position.isLeftAt indent := by
  rw [isLeftAt, isLeftAt, after_column]
  rcases position with ⟨block, latest, enclosing⟩
  cases enclosing <;> rfl

theorem after_arrive (hasLeft : Bool) (indent : Int) :
    (position.after trees).arrive hasLeft indent =
      (position.arrive hasLeft indent).map fun reached => reached.after trees := by
  have latest : (position.after trees).latest = position.latest := rfl
  unfold arrive
  rw [after_column, latest]
  cases position.latest <;>
    simp only [apply_ite (Except.map fun reached : Position => reached.after trees)] <;> rfl

/-- Below the root, what is admitted does not depend on what is there already. -/
theorem after_admits {position : Position} (grounded : position.Grounded) (kind : Kind) :
    (position.after trees).admits kind = position.admits kind := by
  rcases position with ⟨block, latest, enclosing⟩
  cases enclosing with
  | cons parent further => rfl
  | nil =>
      have nested := grounded.nested
      have root : block.entry = .root := nested.eq_root
      simp [admits, container, after, Block.after, root, Entry.root, Grammar.admits]

theorem after_toTree :
    (position.after trees).toTree.children = trees ++ position.toTree.children := by
  rcases position with ⟨block, latest, enclosing⟩
  induction enclosing generalizing block latest with
  | nil => simp [after, toTree, enclosingAfter, Block.after, Block.close]
  | cons parent further induction => exact induction parent (some (block.close latest))

end After

theorem Grounded.of_after {position : Position} {trees : List Tree}
    (grounded : (position.after trees).Grounded) :
    position.Grounded := by
  refine ⟨?_, ?_⟩
  · have nested := grounded.nested
    rw [after_container, after_around] at nested
    exact nested
  · intro child latest
    rw [← after_container position trees]
    exact grounded.latest child latest

end Position

/-! ## Readings -/

namespace Reading

/-- The reading with a past, and with the events of that past, under its own. -/
def after (reading : Reading) (past : Past) (events : List Event) : Reading :=
  { reading with
    position := reading.position.after past.trees
    findings := reading.findings ++ past.findings
    events := reading.events ++ events }

section After

variable (reading : Reading) (past : Past) (events : List Event)

theorem leaveTo_after (indent : Int) :
    (reading.after past events).leaveTo indent =
      (reading.leaveTo indent).after past events := by
  simp [leaveTo, after, Position.after_leaveTo, List.append_assoc]

theorem annotate_after (line : Line) (text : String) :
    (reading.after past events).annotate line text =
      (reading.annotate line text).after past events := by
  have pending : (reading.after past events).pending = reading.pending := rfl
  unfold annotate
  rw [pending]
  cases reading.pending.isSome <;> rfl

theorem reject_after (line : Line) (problem : Problem) (column : Int) :
    (reading.after past events).reject line problem column =
      (reading.reject line problem column).after past events :=
  rfl

theorem openScope_after (entry : Entry) :
    (reading.after past events).openScope entry =
      (reading.openScope entry).after past events := by
  unfold openScope
  cases entry.kind.opensScope <;> rfl

theorem declare_after (entry : Entry) :
    (reading.after past events).declare entry = (reading.declare entry).after past events := by
  have scopes : (reading.after past events).scopes = reading.scopes := rfl
  unfold declare
  rw [scopes]
  cases entry.declares with
  | false => rfl
  | true => cases reading.scopes.declare entry <;> rfl

theorem attach_after (entry : Entry) :
    (reading.after past events).attach entry = (reading.attach entry).after past events := by
  have placed : (reading.after past events).position.place entry =
      (reading.position.place entry).after past.trees :=
    Position.after_place reading.position past.trees entry
  simp only [attach, placed]
  rw [← declare_after, ← openScope_after]
  rfl

end After

variable {reading : Reading}

theorem fill_after (grounded : reading.position.Grounded) (past : Past) (events : List Event)
    (line : Line) (text : String) (column : Int) :
    (reading.after past events).fill line text column =
      (reading.fill line text column).after past events := by
  have pending : (reading.after past events).pending = reading.pending := rfl
  unfold fill
  rw [pending]
  cases Entry.ofContent? text line.indent line.number reading.pending with
  | none => exact reject_after reading past events line _ _
  | some entry =>
      have same : (reading.after past events).position.admits entry.kind =
          reading.position.admits entry.kind :=
        Position.after_admits past.trees grounded entry.kind
      have container : (reading.after past events).position.container =
          reading.position.container :=
        Position.after_container reading.position past.trees
      simp only [same, container]
      cases reading.position.admits entry.kind with
      | true => exact attach_after reading past events entry
      | false => exact reject_after reading past events line _ _

theorem build_after (grounded : reading.position.Grounded) (past : Past) (events : List Event)
    (line : Line) (text : String) :
    (reading.after past events).build line text = (reading.build line text).after past events := by
  have isLeft : (reading.after past events).position.isLeftAt line.indent =
      reading.position.isLeftAt line.indent :=
    Position.after_isLeftAt reading.position past.trees line.indent
  have arrives : ((reading.after past events).leaveTo line.indent).position.arrive
        ((reading.after past events).position.isLeftAt line.indent) line.indent =
      ((reading.leaveTo line.indent).position.arrive (reading.position.isLeftAt line.indent)
        line.indent).map fun reached => reached.after past.trees := by
    rw [leaveTo_after, isLeft]
    exact Position.after_arrive _ _ _ _
  cases arrived : (reading.leaveTo line.indent).position.arrive
      (reading.position.isLeftAt line.indent) line.indent with
  | error problem =>
      rw [arrived] at arrives
      have column : ((reading.leaveTo line.indent).after past events).position.column =
          (reading.leaveTo line.indent).position.column :=
        Position.after_column _ past.trees
      rw [build_of_refused arrives, build_of_refused arrived, leaveTo_after, column]
      exact reject_after (reading.leaveTo line.indent) past events line problem _
  | ok reached =>
      rw [arrived] at arrives
      have inside : reached.Grounded :=
        grounded.reaches (Position.reaches_of_arrive arrived)
      rw [build_of_arrived arrives, build_of_arrived arrived, leaveTo_after,
        Position.after_column]
      exact @fill_after { reading.leaveTo line.indent with position := reached } inside past events
        line text _

theorem accept_after (grounded : reading.position.Grounded) (past : Past) (events : List Event)
    (line : Line) :
    (reading.after past events).accept line = (reading.accept line).after past events := by
  unfold accept
  cases line.body with
  | blank => rfl
  | comment text => rfl
  | note text => exact annotate_after reading past events line text
  | structural text => exact build_after grounded past events line text

/-- A step does the same with a past as without. -/
theorem step_after (grounded : reading.position.Grounded) (past : Past) (events : List Event)
    (line : Line) :
    (reading.after past events).step line = (reading.step line).after past events := by
  have recovery : (reading.after past events).recovery = reading.recovery := rfl
  unfold step
  rw [recovery]
  cases line.body.isSilent with
  | true => rfl
  | false =>
      cases reading.recovery with
      | none => exact accept_after grounded past events line
      | some recovery =>
          by_cases heard : (line.indent : Int) ≤ recovery.column
          · simp only [heard, if_true, Bool.false_eq_true, if_false]
            exact @accept_after (reading.resume recovery line) grounded past events line
          · simp only [heard, if_false, Bool.false_eq_true]

theorem step_grounded (grounded : reading.position.Grounded) (line : Line) :
    (reading.step line).position.Grounded := by
  have transition := step_transition reading line
  generalize reading.step line = next at transition
  cases transition with
  | silent quiet => exact grounded
  | skipped loud pausing deeper => exact grounded
  | noted events body heard => exact grounded
  | rejected events body heard obstacle => exact grounded.reaches obstacle.reaches
  | @attached text reached entry events body heard approached recognised admitted =>
      rcases (approach_eq_ok_iff grounded).mp approached with ⟨reaches, column⟩
      have indent := (Entry.ofContent?_eq_some recognised).2.1
      rw [attach_position]
      exact (grounded.reaches reaches).place ⟨⟨_, admitted⟩, indent.trans column.symm⟩

/-- A run does the same with a past as without. -/
theorem run_after (grounded : reading.position.Grounded) (past : Past) (events : List Event)
    (lines : List Line) :
    (reading.after past events).run lines = (reading.run lines).after past events := by
  induction lines generalizing reading with
  | nil => rfl
  | cons line rest induction =>
      rw [run_cons, run_cons, step_after grounded, induction (step_grounded grounded line)]

/-! ## Readings that differ in their pasts -/

/-- Two readings agree in all but what they have from before. -/
def AgreeSince (before after : Past) (first second : Reading) : Prop :=
  ∃ (since : Reading) (early late : List Event),
    first = since.after before early ∧ second = since.after after late

namespace AgreeSince

variable {before after : Past} {first second : Reading}

theorem fill (agree : AgreeSince before after first second) (grounded : first.position.Grounded)
    (line : Line) (text : String) (column : Int) :
    AgreeSince before after (first.fill line text column) (second.fill line text column) := by
  rcases agree with ⟨since, early, late, rfl, rfl⟩
  have inside : since.position.Grounded := Position.Grounded.of_after grounded
  exact ⟨since.fill line text column, early, late, fill_after inside _ _ _ _ _,
    fill_after inside _ _ _ _ _⟩

theorem run (agree : AgreeSince before after first second) (grounded : first.position.Grounded)
    (lines : List Line) :
    AgreeSince before after (first.run lines) (second.run lines) := by
  rcases agree with ⟨since, early, late, rfl, rfl⟩
  have inside : since.position.Grounded := Position.Grounded.of_after grounded
  exact ⟨since.run lines, early, late, run_after inside _ _ _, run_after inside _ _ _⟩

theorem position (agree : AgreeSince before after first second) :
    ∃ since : Position, first.position = since.after before.trees ∧
      second.position = since.after after.trees := by
  rcases agree with ⟨since, early, late, rfl, rfl⟩
  exact ⟨since.position, rfl, rfl⟩

theorem findings (agree : AgreeSince before after first second) :
    ∃ since, first.findings = since ++ before.findings ∧
      second.findings = since ++ after.findings := by
  rcases agree with ⟨since, early, late, rfl, rfl⟩
  exact ⟨since.findings, rfl, rfl⟩

end AgreeSince

/-! ## Lines that arrive -/

theorem build_of_approach {line : Line} {reached : Position} (resumed : reading.recovery = none)
    (approached : reading.approach line = .ok reached) (text : String) :
    ∃ events, reading.build line text =
      (reading.arrived line reached events).fill line text reached.column := by
  refine ⟨(reading.leaveTo line.indent).events, ?_⟩
  rw [build_of_arrived approached]
  simp only [leaveTo, arrived, resumed]

/-- A line that is heard and arrives somewhere is tried there. -/
theorem step_of_approach {line : Line} {text : String} {reached : Position}
    (body : line.body = .structural text) (heard : reading.Hears line)
    (approached : reading.approach line = .ok reached) :
    ∃ events, reading.step line =
      (reading.arrived line reached events).fill line text reached.column := by
  have loud : line.body.isSilent = false := by
    rw [body]
    rfl
  have accepted (reading : Reading) : reading.accept line = reading.build line text := by
    simp [accept, body]
  unfold step
  cases pausing : reading.recovery with
  | none =>
      simp only [loud, Bool.false_eq_true, if_false, accepted]
      exact build_of_approach pausing approached text
  | some recovery =>
      simp only [loud, Bool.false_eq_true, if_false, heard recovery pausing, if_true, accepted]
      have resumed : (reading.resume recovery line).recovery = none := rfl
      exact build_of_approach resumed approached text

end Reading

end Outline
