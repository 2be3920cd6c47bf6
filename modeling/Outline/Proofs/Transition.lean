import Mathlib.Data.List.Induction
import Mathlib.Data.List.Nodup
import Outline.Outcome
import Outline.Proofs.Movement

/-!
# What reading a line can come to

A line is silent, is passed over, is a note, is rejected, or is attached.
`Transition` has one rule for each of these and says what becomes of the
position, the scopes, the pending note, the findings and the recovery.  The
events are left open, since nothing is decided by them.

The main statements are that every step is a transition, and that an invariant
which all transitions keep holds after any run over lines in ascending order.
-/

namespace Outline

/-- Whether a line holds the text of a node. -/
def Line.isStructural (line : Line) : Bool :=
  match line.body with
  | .structural _ => true
  | _ => false

/-- Whether a line holds a note. -/
def Line.isNote (line : Line) : Bool :=
  match line.body with
  | .note _ => true
  | _ => false

namespace Line

variable {line : Line} {text : String}

theorem isStructural_of_body (body : line.body = .structural text) : line.isStructural = true := by
  simp [isStructural, body]

theorem isNote_of_body (body : line.body = .note text) : line.isNote = true := by
  simp [isNote, body]

theorem exists_text_of_isStructural (structural : line.isStructural = true) :
    ∃ text, line.body = .structural text := by
  cases body : line.body <;> simp [isStructural, body] at structural
  exact ⟨_, rfl⟩

theorem exists_text_of_isNote (noted : line.isNote = true) : ∃ text, line.body = .note text := by
  cases body : line.body <;> simp [isNote, body] at noted
  exact ⟨_, rfl⟩

theorem isStructural_eq_false_of_isNote (noted : line.isNote = true) :
    line.isStructural = false := by
  cases body : line.body <;> simp [isNote, isStructural, body] at noted ⊢

theorem isNote_eq_false_of_isStructural (structural : line.isStructural = true) :
    line.isNote = false := by
  cases body : line.body <;> simp [isNote, isStructural, body] at structural ⊢

theorem loud_of_isStructural (structural : line.isStructural = true) :
    line.body.isSilent = false := by
  cases body : line.body <;> simp [LineBody.isSilent, isStructural, body] at structural ⊢

theorem loud_of_isNote (noted : line.isNote = true) : line.body.isSilent = false := by
  cases body : line.body <;> simp [LineBody.isSilent, isNote, body] at noted ⊢

/-- A silent line is neither structural nor a note. -/
theorem neither_of_silent (quiet : line.body.isSilent = true) :
    line.isStructural = false ∧ line.isNote = false := by
  cases body : line.body <;> simp [LineBody.isSilent, isStructural, isNote, body] at quiet ⊢

end Line

/-- Whether a problem keeps a line from being placed. -/
def Category.isRefusal : Category → Bool
  | .wording | .indentation | .structural => true
  | .io | .semantic => false

namespace Reading

/-- Whether a line is read, because nothing is passed over or the recovery ends at it. -/
def Hears (reading : Reading) (line : Line) : Prop :=
  ∀ recovery, reading.recovery = some recovery → line.indent ≤ recovery.column

/-- The position at which a line is tried, or the problem with getting there. -/
def approach (reading : Reading) (line : Line) : Except Problem Position :=
  (reading.position.leaveTo line.indent).arrive (reading.position.isLeftAt line.indent) line.indent

/-- What is found when a note replaces another one. -/
def repeatedNote (reading : Reading) (line : Line) : List Finding :=
  if reading.pending.isSome then [{ lineNumber := line.number, problem := .repeatedNote }] else []

/-- A reading that has moved to the position at which a line is tried. -/
def arrived (reading : Reading) (line : Line) (reached : Position) (events : List Event) :
    Reading :=
  { reading with
    position := reached, scopes := reading.scopes.leaveTo line.indent, events, recovery := none }

/-- Why a structural line is not attached, and the position at which this shows. -/
inductive Obstacle (reading : Reading) (line : Line) (text : String) :
    Position → Problem → Prop where
  | unreached {problem : Problem}
      (refused : reading.approach line = .error problem) :
      Obstacle reading line text (reading.position.leaveTo line.indent) problem
  | unknown {reached : Position}
      (approached : reading.approach line = .ok reached)
      (refused : Entry.ofContent? text line.indent line.number reading.pending = none) :
      Obstacle reading line text reached (.unrecognised text (nearestHeading? text.toList))
  | misfit {reached : Position} {entry : Entry}
      (approached : reading.approach line = .ok reached)
      (recognised : Entry.ofContent? text line.indent line.number reading.pending = some entry)
      (refused : reached.admits entry.kind = false) :
      Obstacle reading line text reached (.misplaced entry.kind reached.container.kind)

/-- What reading one line can come to. -/
inductive Transition (reading : Reading) (line : Line) : Reading → Prop where
  | silent (quiet : line.body.isSilent = true) :
      Transition reading line reading
  | skipped {recovery : Recovery}
      (loud : line.body.isSilent = false)
      (pausing : reading.recovery = some recovery)
      (deeper : recovery.column < line.indent) :
      Transition reading line reading
  | noted {text : String} (events : List Event)
      (body : line.body = .note text)
      (heard : reading.Hears line) :
      Transition reading line
        { reading with
          pending := some text, findings := reading.repeatedNote line ++ reading.findings,
          events, recovery := none }
  | rejected {text : String} {reached : Position} {problem : Problem} (events : List Event)
      (body : line.body = .structural text)
      (heard : reading.Hears line)
      (obstacle : reading.Obstacle line text reached problem) :
      Transition reading line
        ((reading.arrived line reached events).reject line problem reached.column)
  | attached {text : String} {reached : Position} {entry : Entry} (events : List Event)
      (body : line.body = .structural text)
      (heard : reading.Hears line)
      (approached : reading.approach line = .ok reached)
      (recognised : Entry.ofContent? text line.indent line.number reading.pending = some entry)
      (admitted : reached.admits entry.kind = true) :
      Transition reading line ((reading.arrived line reached events).attach entry)

/-! ## Every step is a transition -/

theorem build_of_refused {reading : Reading} {line : Line} {problem : Problem}
    (refused : (reading.leaveTo line.indent).position.arrive
      (reading.position.isLeftAt line.indent) line.indent = .error problem) (text : String) :
    reading.build line text =
      (reading.leaveTo line.indent).reject line problem
        (reading.leaveTo line.indent).position.column := by
  simp only [build, refused]

/-- A line that has arrived somewhere is expected at the column of the block there. -/
theorem build_of_arrived {reading : Reading} {line : Line} {reached : Position}
    (arrived : (reading.leaveTo line.indent).position.arrive
      (reading.position.isLeftAt line.indent) line.indent = .ok reached) (text : String) :
    reading.build line text =
      { reading.leaveTo line.indent with position := reached }.fill line text reached.column := by
  simp only [build, arrived]
  rw [Position.expected_of_arrive arrived]

theorem build_transition (reading : Reading) (line : Line) (text : String) (events : List Event)
    (body : line.body = .structural text) (heard : reading.Hears line) :
    Transition reading line (({ reading with events, recovery := none }).build line text) := by
  cases approached : reading.approach line with
  | error problem =>
      rw [@build_of_refused { reading with events, recovery := none } line problem approached]
      exact .rejected _ body heard (.unreached approached)
  | ok reached =>
      rw [@build_of_arrived { reading with events, recovery := none } line reached approached, fill]
      cases recognised : Entry.ofContent? text line.indent line.number reading.pending with
      | none =>
          simp only [leaveTo, recognised]
          exact .rejected _ body heard (.unknown approached recognised)
      | some entry =>
          simp only [leaveTo, recognised]
          cases admitted : reached.admits entry.kind with
          | true =>
              simp only [if_true]
              exact .attached _ body heard approached recognised admitted
          | false =>
              simp only [Bool.false_eq_true, if_false]
              exact .rejected _ body heard (.misfit approached recognised admitted)

theorem accept_transition (reading : Reading) (line : Line) (events : List Event)
    (loud : line.body.isSilent = false) (heard : reading.Hears line) :
    Transition reading line (({ reading with events, recovery := none }).accept line) := by
  unfold accept
  cases body : line.body with
  | blank => simp [body, LineBody.isSilent] at loud
  | comment text => simp [body, LineBody.isSilent] at loud
  | note text =>
      have noted : Transition reading line _ := .noted events body heard
      by_cases waits : reading.pending.isSome = true <;>
        simpa [annotate, report, repeatedNote, waits] using noted
  | structural text =>
      exact build_transition reading line text events body heard

/-- Every step is a transition. -/
theorem step_transition (reading : Reading) (line : Line) :
    Transition reading line (reading.step line) := by
  unfold step
  cases loud : line.body.isSilent with
  | true =>
      exact .silent loud
  | false =>
      simp only [Bool.false_eq_true, if_false]
      cases pausing : reading.recovery with
      | none =>
          have heard : reading.Hears line := by
            intro recovery impossible
            simp [pausing] at impossible
          have transition := accept_transition reading line reading.events loud heard
          rw [← pausing] at transition
          exact transition
      | some recovery =>
          by_cases inside : (line.indent : Int) ≤ recovery.column
          · simp only [inside, if_true]
            refine accept_transition reading line _ loud ?_
            intro other same
            simp only [pausing, Option.some.injEq] at same
            exact same ▸ inside
          · simp only [inside, if_false]
            exact .skipped loud pausing (not_le.mp inside)

theorem step_of_silent {reading : Reading} {line : Line} (quiet : line.body.isSilent = true) :
    reading.step line = reading := by
  simp [step, quiet]

/-- A note that is heard waits from then on. -/
theorem step_of_note {reading : Reading} {line : Line} {text : String}
    (body : line.body = .note text) (heard : reading.Hears line) :
    ∃ events, reading.step line =
      { reading with
        pending := some text, findings := reading.repeatedNote line ++ reading.findings,
        events, recovery := none } := by
  have transition := step_transition reading line
  generalize reading.step line = next at transition
  cases transition with
  | silent quiet => simp [body, LineBody.isSilent] at quiet
  | skipped loud pausing deeper => exact absurd (heard _ pausing) deeper.not_ge
  | noted events same _ =>
      rw [body, LineBody.note.injEq] at same
      exact ⟨events, same ▸ rfl⟩
  | rejected events other _ obstacle => simp [body] at other
  | attached events other _ approached recognised admitted => simp [body] at other

/-! ## What attaching changes -/

theorem openScope_frame (reading : Reading) (entry : Entry) :
    (reading.openScope entry).position = reading.position ∧
      (reading.openScope entry).pending = reading.pending ∧
      (reading.openScope entry).recovery = reading.recovery ∧
      (reading.openScope entry).findings = reading.findings := by
  unfold openScope
  cases entry.kind.opensScope <;> simp [record]

theorem declare_frame (reading : Reading) (entry : Entry) :
    (reading.declare entry).position = reading.position ∧
      (reading.declare entry).pending = reading.pending ∧
      (reading.declare entry).recovery = reading.recovery := by
  unfold declare
  cases entry.declares with
  | false => simp
  | true => cases reading.scopes.declare entry <;> simp [report]

@[simp]
theorem attach_position (reading : Reading) (entry : Entry) :
    (reading.attach entry).position = reading.position.place entry := by
  simp [attach, declare_frame, openScope_frame]

@[simp]
theorem attach_pending (reading : Reading) (entry : Entry) :
    (reading.attach entry).pending = none := by
  simp [attach, declare_frame, openScope_frame]

@[simp]
theorem attach_recovery (reading : Reading) (entry : Entry) :
    (reading.attach entry).recovery = reading.recovery := by
  simp [attach, declare_frame, openScope_frame]

/-- An approach reaches the position at which the line is tried. -/
theorem reaches_of_approach {reading : Reading} {line : Line} {reached : Position}
    (approached : reading.approach line = .ok reached) :
    reading.position.Reaches line.indent reached :=
  Position.reaches_of_arrive approached

theorem Obstacle.reaches {reading : Reading} {line : Line} {text : String} {reached : Position}
    {problem : Problem} (obstacle : reading.Obstacle line text reached problem) :
    reading.position.Reaches line.indent reached := by
  cases obstacle with
  | unreached refused => exact Position.reaches_leaveTo _ _
  | unknown approached refused => exact reaches_of_approach approached
  | misfit approached recognised refused => exact reaches_of_approach approached

/-- What keeps a line from being attached is a refusal. -/
theorem Obstacle.isRefusal {reading : Reading} {line : Line} {text : String}
    {reached : Position} {problem : Problem}
    (obstacle : reading.Obstacle line text reached problem) :
    problem.category.isRefusal = true := by
  cases obstacle with
  | unknown approached refused => rfl
  | misfit approached recognised refused => rfl
  | unreached refused =>
      rw [approach, Position.arrive] at refused
      repeat' split at refused
      all_goals cases refused
      all_goals rfl

/-- A line that is not attached is no collision of names or notes. -/
theorem Obstacle.category_ne_semantic {reading : Reading} {line : Line} {text : String}
    {reached : Position} {problem : Problem}
    (obstacle : reading.Obstacle line text reached problem) :
    problem.category ≠ .semantic := by
  intro semantic
  have refusal := obstacle.isRefusal
  rw [semantic] at refusal
  exact absurd refusal (by decide)

/-- At a grounded position, an approach ends at the column of the line. -/
theorem approach_eq_ok_iff {reading : Reading} {line : Line} {reached : Position}
    (grounded : reading.position.Grounded) :
    reading.approach line = .ok reached ↔
      reading.position.Reaches line.indent reached ∧ reached.column = line.indent :=
  Position.arrive_leaveTo_eq_ok_iff grounded (Int.natCast_nonneg _)

theorem Obstacle.not_placeable {reading : Reading} {line : Line} {text : String}
    {reached position : Position} {problem : Problem} {entry : Entry}
    (obstacle : reading.Obstacle line text reached problem)
    (approached : reading.approach line = .ok position)
    (recognised : Entry.ofContent? text line.indent line.number reading.pending = some entry) :
    position.admits entry.kind = false := by
  cases obstacle with
  | unreached refused => simp [approached] at refused
  | unknown arrived refused => simp [recognised] at refused
  | misfit arrived known refused =>
      rw [approached, Except.ok.injEq] at arrived
      rw [recognised, Option.some.injEq] at known
      rw [arrived, known]
      exact refused

end Reading

/-! ## Recognised entries -/

/-- What a recognised line says about its entry. -/
theorem Entry.ofContent?_eq_some {content : String} {indent lineNumber : Int}
    {note : Option String} {entry : Entry}
    (recognised : Entry.ofContent? content indent lineNumber note = some entry) :
    entry.content = content ∧ entry.indent = indent ∧ entry.lineNumber = lineNumber ∧
      entry.note = note := by
  simp only [ofContent?, Option.map_eq_some_iff] at recognised
  rcases recognised with ⟨kind, -, rfl⟩
  exact ⟨rfl, rfl, rfl, rfl⟩

/-! ## Runs -/

/-- The lines are numbered upwards from a number above zero. -/
def Line.Ascending (lines : List Line) : Prop :=
  (0 :: lines.map Line.number).Pairwise (· < ·)

theorem Line.map_number_ofRaws (raws : List String) :
    (Line.ofRaws raws).map Line.number = (List.range' 1 raws.length).map Nat.cast := by
  rw [← List.zipIdx_map_snd 1 raws, List.map_map]
  simp [Line.ofRaws, Line.ofRaw, Function.comp_def]

theorem Line.ascending_ofRaws (raws : List String) : Line.Ascending (Line.ofRaws raws) := by
  rw [Line.Ascending, Line.map_number_ofRaws, List.pairwise_cons]
  constructor
  · intro number member
    simp only [List.mem_map, List.mem_range'_1] at member
    rcases member with ⟨index, bounds, rfl⟩
    omega
  · rw [List.pairwise_map]
    exact List.Pairwise.imp (fun below => Int.ofNat_lt.mpr below) List.pairwise_lt_range'

/-- The lines of a document are numbered upwards. -/
theorem Line.ascending_ofSource (source : String) : Line.Ascending (Line.ofSource source) :=
  Line.ascending_ofRaws _

theorem Line.Ascending.of_append {first second : List Line}
    (ascending : Line.Ascending (first ++ second)) :
    Line.Ascending first := by
  simp only [Line.Ascending, List.map_append, ← List.cons_append] at ascending
  exact (List.pairwise_append.mp ascending).1

theorem Line.Ascending.init {earlier : List Line} {line : Line}
    (ascending : Line.Ascending (earlier ++ [line])) :
    Line.Ascending earlier :=
  ascending.of_append

theorem Line.Ascending.lt_last {earlier : List Line} {line other : Line}
    (ascending : Line.Ascending (earlier ++ [line])) (member : other ∈ earlier) :
    other.number < line.number := by
  simp only [Line.Ascending, List.map_append, ← List.cons_append] at ascending
  exact (List.pairwise_append.mp ascending).2.2 _ (by simp [List.mem_map]; grind) _ (by simp)

theorem Line.Ascending.pos_last {earlier : List Line} {line : Line}
    (ascending : Line.Ascending (earlier ++ [line])) :
    0 < line.number := by
  simp only [Line.Ascending, List.map_append, ← List.cons_append] at ascending
  exact (List.pairwise_append.mp ascending).2.2 _ (by simp) _ (by simp)

theorem Line.Ascending.lt_of_append {first second : List Line} {line other : Line}
    (ascending : Line.Ascending (first ++ second)) (before : line ∈ first)
    (after : other ∈ second) :
    line.number < other.number := by
  simp only [Line.Ascending, List.map_append, ← List.cons_append] at ascending
  exact (List.pairwise_append.mp ascending).2.2 _
    (List.mem_cons_of_mem _ (List.mem_map_of_mem before)) _ (List.mem_map_of_mem after)

theorem Line.Ascending.pos_of_mem {lines : List Line} {line : Line}
    (ascending : Line.Ascending lines) (member : line ∈ lines) :
    0 < line.number :=
  (List.pairwise_cons.mp ascending).1 _ (List.mem_map_of_mem member)

theorem Line.Ascending.eq_of_number_eq {lines : List Line} {line other : Line}
    (ascending : Line.Ascending lines) (member : line ∈ lines) (known : other ∈ lines)
    (same : line.number = other.number) :
    line = other := by
  have distinct : (lines.map Line.number).Nodup :=
    (List.pairwise_cons.mp ascending).2.imp fun below => below.ne
  exact List.inj_on_of_nodup_map distinct member known same

namespace Reading

@[simp]
theorem run_nil (reading : Reading) : reading.run [] = reading :=
  rfl

@[simp]
theorem run_cons (reading : Reading) (line : Line) (rest : List Line) :
    reading.run (line :: rest) = (reading.step line).run rest :=
  rfl

@[simp]
theorem run_append (reading : Reading) (first second : List Line) :
    reading.run (first ++ second) = (reading.run first).run second :=
  List.foldl_append

/-- An invariant that all transitions keep holds after every run. -/
theorem run_induction (Invariant : List Line → Reading → Prop)
    (initial : Invariant [] .initial)
    (step : ∀ (earlier : List Line) (line : Line) (reading next : Reading),
      Line.Ascending (earlier ++ [line]) → Invariant earlier reading →
      Transition reading line next → Invariant (earlier ++ [line]) next)
    (lines : List Line) (ascending : Line.Ascending lines) :
    Invariant lines (Reading.initial.run lines) := by
  induction lines using List.reverseRecOn with
  | nil => exact initial
  | append_singleton earlier line induction =>
      rw [run, List.foldl_append]
      exact step earlier line _ _ ascending (induction ascending.init) (step_transition _ line)

end Reading

namespace Outcome

@[simp]
theorem ofLines_tree (lines : List Line) :
    (ofLines lines).tree = (Reading.initial.run lines).position.toTree := by
  simp only [ofLines, ofReading, Reading.finish, Reading.abandon]
  cases (Reading.initial.run lines).recovery <;> rfl

@[simp]
theorem ofLines_findings (lines : List Line) :
    (ofLines lines).findings = (Reading.initial.run lines).findings.reverse := by
  simp only [ofLines, ofReading, Reading.finish, Reading.abandon]
  cases (Reading.initial.run lines).recovery <;> rfl

end Outcome

end Outline
