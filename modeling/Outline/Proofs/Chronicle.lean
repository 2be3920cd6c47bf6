import Outline.Proofs.Fate
import Outline.Proofs.Stacking

/-!
# What the events of a reading tell

The events of a document are a faithful record.  Its scopes open in the order of
the nodes that own them and close from the inside to the outside, each under the
name under which it was opened; the depth that is told each time is the number
of scopes that are open then.  And there is one event for every line that could
not be placed, which tells where the reading resumes, if it does.

The scopes are followed function by function, since each function of a reading
that touches them records what it does.  The recoveries are followed line by
line, since what an event tells about a recovery is settled by a later line.
-/

namespace Outline

/-- The lines that could not be placed, according to findings. -/
def Finding.refusedLines (findings : List Finding) : List Int :=
  (findings.filter fun finding => finding.problem.category.isRefusal).map Finding.lineNumber

theorem Finding.refusedLines_append (first second : List Finding) :
    refusedLines (first ++ second) = refusedLines first ++ refusedLines second := by
  simp [refusedLines]

/-! ## Sequences of events -/

namespace Event

/-- The name of the scope that an event opens. -/
def opened? : Event → Option String
  | .opened name _ => some name
  | _ => none

/-- The number of open scopes that an event tells. -/
def depth? : Event → Option Nat
  | .opened _ depth | .closed _ depth => some depth
  | _ => none

/--
The line that could not be placed, and the line at which the reading resumes
after it, if there is one.
-/
def recovery? : Event → Option (Int × Option Int)
  | .resumed failedLine resumeLine => some (failedLine, some resumeLine)
  | .abandoned failedLine => some (failedLine, none)
  | _ => none

/-- What events tell about recoveries. -/
def recoveries (events : List Event) : List (Int × Option Int) :=
  events.filterMap recovery?

/--
The names of the scopes that are open after an event, the innermost first; only
the innermost scope can be closed, and under its own name.
-/
def nest : List String → Event → Option (List String)
  | names, .opened name _ => some (name :: names)
  | innermost :: rest, .closed name _ => if name = innermost then some rest else none
  | [], .closed .. => none
  | names, _ => some names

/-- The names of the scopes that events leave open, the innermost first. -/
def stillOpen (events : List Event) : Option (List String) :=
  events.foldlM nest []

/--
Every scope that is opened is closed later under the same name; what happens
between the two, and what happens after them, is well nested as well.
-/
inductive WellNested : List Event → Prop where
  | nil : WellNested []
  | other {event : Event} {rest : List Event} (depthless : event.depth? = none)
      (further : WellNested rest) : WellNested (event :: rest)
  | scope {name : String} {inner outer : Nat} {inside rest : List Event}
      (nested : WellNested inside) (further : WellNested rest) :
      WellNested (.opened name inner :: (inside ++ .closed name outer :: rest))

/--
Every depth that is told is the number of scopes that are open then, the
outermost one included, and is not above three.
-/
def TellDepths (events : List Event) : Prop :=
  ∀ before event, before ++ [event] <+: events → ∀ depth ∈ event.depth?,
    ∃ names, stillOpen (before ++ [event]) = some names ∧ depth = names.length + 1 ∧ depth ≤ 3

theorem recoveries_append (first second : List Event) :
    recoveries (first ++ second) = recoveries first ++ recoveries second :=
  List.filterMap_append

theorem recoveries_reverse (events : List Event) :
    recoveries events.reverse = (recoveries events).reverse :=
  List.filterMap_reverse

theorem nest_of_depthless {event : Event} (depthless : event.depth? = none)
    (names : List String) : nest names event = some names := by
  cases event with
  | opened name depth => simp [depth?] at depthless
  | closed name depth => simp [depth?] at depthless
  | _ => rfl

theorem stillOpen_concat {events : List Event} {names : List String}
    (known : stillOpen events = some names) (event : Event) :
    stillOpen (events ++ [event]) = nest names event := by
  rw [stillOpen] at known
  rw [stillOpen, List.foldlM_append, known]
  simp

/-- Where all scopes are closed in the end, there is an event that closes the outer one. -/
theorem exists_closed {name : String} {events : List Event} (names : List String)
    (settled : events.foldlM nest (names ++ [name]) = some []) :
    ∃ inside depth rest, events = inside ++ .closed name depth :: rest ∧
      inside.foldlM nest names = some [] ∧ rest.foldlM nest [] = some [] := by
  induction events generalizing names with
  | nil => simp at settled
  | cons event events induction =>
      rw [List.foldlM_cons] at settled
      -- An event that leaves the outer scope open belongs to the inside of it.
      have further (next : List String)
          (outer : nest (names ++ [name]) event = some (next ++ [name]))
          (inner : nest names event = some next) :
          ∃ inside depth rest, event :: events = inside ++ .closed name depth :: rest ∧
            inside.foldlM nest names = some [] ∧ rest.foldlM nest [] = some [] := by
        rw [outer] at settled
        rcases induction next settled with ⟨inside, depth, rest, rfl, closes, settles⟩
        refine ⟨event :: inside, depth, rest, rfl, ?_, settles⟩
        rw [List.foldlM_cons, inner]
        exact closes
      cases event with
      | opened other depth => exact further (other :: names) rfl rfl
      | closed other depth =>
          cases names with
          | nil =>
              by_cases same : other = name
              · subst same
                simp only [List.nil_append, nest, if_true] at settled
                exact ⟨[], depth, events, rfl, rfl, settled⟩
              · simp [nest, same] at settled
          | cons innermost outer =>
              by_cases same : other = innermost
              · exact further outer (by simp [nest, same]) (by simp [nest, same])
              · simp [nest, same] at settled
      | _ => exact further names (nest_of_depthless rfl _) (nest_of_depthless rfl _)

/-- Events that leave no scope open are well nested. -/
theorem wellNested_of_stillOpen {events : List Event} (settled : stillOpen events = some []) :
    WellNested events := by
  induction size : events.length using Nat.strong_induction_on generalizing events with
  | h length shorter =>
      subst size
      cases events with
      | nil => exact .nil
      | cons event events =>
          cases event with
          | opened name depth =>
              rcases exists_closed [] settled with
                ⟨inside, outer, rest, rfl, closes, settles⟩
              have sizes : inside.length < (inside ++ .closed name outer :: rest).length ∧
                  rest.length < (inside ++ .closed name outer :: rest).length := by
                rw [List.length_append, List.length_cons]
                omega
              have nested := shorter inside.length (Nat.lt_succ_of_lt sizes.1) closes rfl
              have further := shorter rest.length (Nat.lt_succ_of_lt sizes.2) settles rfl
              exact .scope nested further
          | closed name depth => simp [stillOpen, nest] at settled
          | _ => exact .other rfl (shorter events.length (by simp) settled rfl)

/-- Events that tell their depths and leave scopes of these names open. -/
structure Records (events : List Event) (names : List String) : Prop where
  stillOpen : stillOpen events = some names
  depths : TellDepths events

namespace Records

variable {events : List Event} {names : List String}

theorem nil : Records [] [] where
  stillOpen := rfl
  depths := by
    intro before event start
    simp at start

theorem concat (records : Records events names) {event : Event} {next : List String}
    (nested : nest names event = some next)
    (told : ∀ depth ∈ event.depth?, depth = next.length + 1 ∧ depth ≤ 3) :
    Records (events ++ [event]) next where
  stillOpen := (stillOpen_concat records.stillOpen event).trans nested
  depths := by
    intro before other start
    rcases List.prefix_concat_iff.mp start with whole | earlier
    · rcases List.append_singleton_inj.mp whole with ⟨rfl, rfl⟩
      intro depth tells
      exact ⟨next, (stillOpen_concat records.stillOpen _).trans nested, told depth tells⟩
    · exact records.depths before other earlier

theorem other (records : Records events names) {event : Event} (depthless : event.depth? = none) :
    Records (events ++ [event]) names :=
  records.concat (nest_of_depthless depthless names) (by simp [depthless])

/-- The innermost scopes may be closed one after the other. -/
theorem closings {ended rest : List Scope}
    (records : Records events ((ended ++ rest).map Scope.name))
    (shallow : (ended ++ rest).length + 1 ≤ 3) :
    Records (events ++ Reading.closings ((ended ++ rest).length + 1) ended)
      (rest.map Scope.name) := by
  induction ended generalizing events with
  | nil => simpa [Reading.closings] using records
  | cons scope further induction =>
      simp only [List.cons_append, List.map_cons, List.length_cons] at records shallow
      have closed : Records (events ++ [.closed scope.name ((further ++ rest).length + 1)])
          ((further ++ rest).map Scope.name) := by
        apply records.concat (by simp [nest])
        simp only [depth?, Option.mem_def, Option.some.injEq, List.length_map]
        omega
      have records := induction closed (by omega)
      rw [List.append_assoc] at records
      exact records

end Records

end Event

namespace Reading

/-- The reading that goes on at a line that is heard. -/
def awake (reading : Reading) (line : Line) : Reading :=
  match reading.recovery with
  | none => reading
  | some recovery => reading.resume recovery line

theorem awake_scopes (reading : Reading) (line : Line) :
    (reading.awake line).scopes = reading.scopes := by
  unfold awake
  cases reading.recovery <;> rfl

/-- A line that is not passed over is read by the reading that goes on there. -/
theorem step_eq_self_or_awake (reading : Reading) (line : Line) :
    reading.step line = reading ∨
      line.body.isSilent = false ∧ reading.Hears line ∧
        reading.step line = (reading.awake line).accept line := by
  unfold step awake
  cases loud : line.body.isSilent with
  | true => exact .inl rfl
  | false =>
      simp only [Bool.false_eq_true, if_false]
      cases pausing : reading.recovery with
      | none => exact .inr ⟨trivial, hears_of_recovery_eq_none pausing line, rfl⟩
      | some recovery =>
          by_cases inside : line.indent ≤ recovery.column
          · simp only [inside, if_true]
            exact .inr ⟨trivial, (hears_iff pausing line).mpr inside, trivial⟩
          · simp only [inside, if_false]
            exact .inl trivial

/-! ## Scopes -/

theorem exists_closed_of_mem_closings {depth : Nat} {ended : List Scope} {event : Event}
    (member : event ∈ closings depth ended) :
    ∃ name left, event = .closed name left := by
  induction ended generalizing depth with
  | nil => simp [closings] at member
  | cons scope rest induction =>
      rcases List.mem_cons.mp member with rfl | further
      · exact ⟨_, _, rfl⟩
      · exact induction further

theorem filterMap_opened?_closings (depth : Nat) (ended : List Scope) :
    (closings depth ended).filterMap Event.opened? = [] := by
  rw [List.filterMap_eq_nil_iff]
  intro event member
  rcases exists_closed_of_mem_closings member with ⟨name, left, rfl⟩
  rfl

/-- Attaching a node records that its scope is opened, if it has one. -/
theorem attach_events (reading : Reading) (entry : Entry) :
    (reading.attach entry).events =
      (if entry.kind.opensScope then [.opened entry.name (reading.scopes.depth + 1)] else []) ++
        reading.events := by
  have declared (opened : Reading) : (opened.declare entry).events = opened.events := by
    unfold declare
    cases entry.declares with
    | false => rfl
    | true => cases opened.scopes.declare entry <;> rfl
  rw [attach, declared, openScope]
  cases entry.kind.opensScope <;> rfl

theorem attach_scopeNames (reading : Reading) (entry : Entry) :
    (reading.attach entry).scopes.inner.map Scope.name =
      (if entry.kind.opensScope then [entry.name] else []) ++
        reading.scopes.inner.map Scope.name := by
  have names := congrArg (List.map Prod.fst) (attach_frames reading entry)
  rw [List.map_append, List.map_map, List.map_map] at names
  cases opens : entry.kind.opensScope <;> rw [opens] at names <;> exact names

/--
The events of a reading open the scopes of all nodes placed so far, and leave
those scopes open that the reading has open.
-/
structure Chronicled (reading : Reading) : Prop where
  openings : reading.events.reverse.filterMap Event.opened? =
    (reading.position.toTree.entries.filter fun entry => entry.kind.opensScope).map Entry.name
  records : Event.Records reading.events.reverse (reading.scopes.inner.map Scope.name)

theorem chronicled_initial : Reading.initial.Chronicled where
  openings := rfl
  records := .nil

namespace Chronicled

variable {reading next : Reading} {line : Line}

/-- Nothing has to be shown about what events do not tell. -/
theorem congr (chronicled : reading.Chronicled)
    (tree : next.position.toTree = reading.position.toTree)
    (names : next.scopes.inner.map Scope.name = reading.scopes.inner.map Scope.name)
    (events : next.events = reading.events) : next.Chronicled where
  openings := by
    rw [events, tree, chronicled.openings]
  records := by
    rw [events, names]
    exact chronicled.records

theorem other (chronicled : reading.Chronicled) {event : Event}
    (depthless : event.depth? = none) : (reading.record event).Chronicled := by
  have unopened : event.opened? = none := by
    cases event <;> simp [Event.depth?] at depthless <;> rfl
  constructor
  · simp only [record, List.reverse_cons, List.filterMap_append, List.filterMap_cons, unopened,
      List.filterMap_nil, List.append_nil, chronicled.openings]
  · simpa [record] using chronicled.records.other depthless

theorem abandon (chronicled : reading.Chronicled) : reading.abandon.Chronicled := by
  unfold Reading.abandon
  cases reading.recovery with
  | none => exact chronicled
  | some recovery => exact chronicled.other rfl

theorem awake (chronicled : reading.Chronicled) (line : Line) :
    (reading.awake line).Chronicled := by
  unfold Reading.awake
  cases reading.recovery with
  | none => exact chronicled
  | some recovery =>
      have ended : ({ reading with recovery := none } : Reading).Chronicled :=
        chronicled.congr rfl rfl rfl
      exact ended.other rfl

/-- The innermost scopes are closed one after the other, at a line or at the end. -/
theorem close (chronicled : reading.Chronicled) (shallow : reading.scopes.depth ≤ 3)
    {ended rest : List Scope} (parts : reading.scopes.inner = ended ++ rest)
    (tree : next.position.toTree = reading.position.toTree) (kept : next.scopes.inner = rest)
    (events : next.events = (closings reading.scopes.depth ended).reverse ++ reading.events) :
    next.Chronicled where
  openings := by
    rw [events, tree, ← chronicled.openings, List.reverse_append, List.reverse_reverse,
      List.filterMap_append, filterMap_opened?_closings, List.append_nil]
  records := by
    have records := chronicled.records
    rw [parts] at records
    rw [Scopes.depth, parts] at shallow events
    rw [events, kept, List.reverse_append, List.reverse_reverse]
    exact records.closings shallow

theorem leaveTo (chronicled : reading.Chronicled) (shallow : reading.scopes.depth ≤ 3)
    (indent : Int) : (reading.leaveTo indent).Chronicled :=
  chronicled.close shallow List.takeWhile_append_dropWhile.symm
    (Position.reaches_leaveTo _ _).toTree_eq rfl rfl

theorem attach (chronicled : reading.Chronicled) {entry : Entry}
    (shallow : (reading.attach entry).scopes.depth ≤ 3) : (reading.attach entry).Chronicled := by
  have names := attach_scopeNames reading entry
  have entries : (reading.attach entry).position.toTree.entries =
      reading.position.toTree.entries ++ [entry] := by
    rw [attach_position, Position.entries_place]
  cases opens : entry.kind.opensScope with
  | false =>
      rw [opens] at names
      constructor
      · rw [attach_events, opens, entries, List.filter_append]
        simpa [opens] using chronicled.openings
      · rw [attach_events, opens, names]
        exact chronicled.records
  | true =>
      rw [opens] at names
      constructor
      · rw [attach_events, opens, entries, List.filter_append]
        simpa [opens, Event.opened?] using chronicled.openings
      · rw [attach_events, opens, names]
        have deeper := congrArg List.length names
        simp only [List.length_map, List.length_append, if_true, List.length_singleton] at deeper
        rw [Scopes.depth, deeper] at shallow
        have opened : Event.Records
            (reading.events.reverse ++ [.opened entry.name (reading.scopes.depth + 1)])
            (entry.name :: reading.scopes.inner.map Scope.name) := by
          apply chronicled.records.concat rfl
          simp only [Event.depth?, Option.mem_def, Option.some.injEq, forall_eq', Scopes.depth,
            List.length_cons, List.length_map, true_and]
          omega
        simpa using opened

theorem fill (chronicled : reading.Chronicled) {text : String} {column : Int}
    (shallow : (reading.fill line text column).scopes.depth ≤ 3) :
    (reading.fill line text column).Chronicled := by
  unfold Reading.fill at shallow ⊢
  cases recognised : Entry.ofContent? text line.indent line.number reading.pending with
  | none => exact chronicled.congr rfl rfl rfl
  | some entry =>
      simp only [recognised] at shallow ⊢
      split
      · rename_i admitted
        rw [if_pos admitted] at shallow
        exact chronicled.attach shallow
      · exact chronicled.congr rfl rfl rfl

theorem build (chronicled : reading.Chronicled) (before : reading.scopes.depth ≤ 3)
    {text : String} (after : (reading.build line text).scopes.depth ≤ 3) :
    (reading.build line text).Chronicled := by
  have left := chronicled.leaveTo before line.indent
  unfold Reading.build at after ⊢
  simp only at after ⊢
  cases arrived : (reading.leaveTo line.indent).position.arrive
      (reading.position.isLeftAt line.indent) line.indent with
  | error problem => exact left.congr rfl rfl rfl
  | ok reached =>
      rw [arrived] at after
      have moved : reached.toTree = (reading.leaveTo line.indent).position.toTree :=
        (Position.reaches_of_arrive arrived).toTree_eq.trans
          (Position.reaches_leaveTo _ _).toTree_eq.symm
      have chronicled : { reading.leaveTo line.indent with position := reached }.Chronicled :=
        left.congr moved rfl rfl
      exact chronicled.fill after

theorem accept (chronicled : reading.Chronicled) (before : reading.scopes.depth ≤ 3)
    (after : (reading.accept line).scopes.depth ≤ 3) : (reading.accept line).Chronicled := by
  unfold Reading.accept at after ⊢
  cases body : line.body with
  | blank => exact chronicled
  | comment text => exact chronicled
  | note text =>
      simp only [annotate]
      split <;> exact chronicled.congr rfl rfl rfl
  | structural text =>
      simp only [body] at after ⊢
      exact chronicled.build before after

theorem step (chronicled : reading.Chronicled) (before : reading.scopes.depth ≤ 3)
    (after : (reading.step line).scopes.depth ≤ 3) : (reading.step line).Chronicled := by
  rcases step_eq_self_or_awake reading line with same | ⟨-, -, heard⟩
  · rw [same]
    exact chronicled
  · rw [heard] at after ⊢
    exact (chronicled.awake line).accept (by rwa [awake_scopes]) after

end Chronicled

theorem run_chronicled (lines : List Line) (ascending : Line.Ascending lines) :
    (Reading.initial.run lines).Chronicled := by
  induction lines using List.reverseRecOn with
  | nil => exact chronicled_initial
  | append_singleton earlier line induction =>
      have before := (run_stacked earlier ascending.init).length_le
      have after := (run_stacked _ ascending).length_le
      rw [run_append, run_cons, run_nil] at after ⊢
      exact (induction ascending.init).step (Nat.succ_le_succ before) (Nat.succ_le_succ after)

/-! ## Recoveries -/

/-- Where a line is heard, the recovery before it is over. -/
def resumptions (reading : Reading) (line : Line) : List (Int × Option Int) :=
  (reading.recovery.map fun recovery => (recovery.failedLine, some line.number)).toList

theorem resumptions_failed (reading : Reading) (line : Line) :
    (reading.resumptions line).map Prod.fst =
      (reading.recovery.map Recovery.failedLine).toList := by
  unfold resumptions
  cases reading.recovery <;> rfl

theorem recoveries_closings (depth : Nat) (ended : List Scope) :
    Event.recoveries (closings depth ended) = [] := by
  rw [Event.recoveries, List.filterMap_eq_nil_iff]
  intro event member
  rcases exists_closed_of_mem_closings member with ⟨name, left, rfl⟩
  rfl

theorem awake_recoveries (reading : Reading) (line : Line) :
    Event.recoveries (reading.awake line).events =
      reading.resumptions line ++ Event.recoveries reading.events := by
  unfold awake resumptions
  cases reading.recovery <;> rfl

theorem leaveTo_recoveries (reading : Reading) (indent : Int) :
    Event.recoveries (reading.leaveTo indent).events = Event.recoveries reading.events := by
  rw [leaveTo, Event.recoveries_append, Event.recoveries_reverse, recoveries_closings]
  rfl

theorem attach_recoveries (reading : Reading) (entry : Entry) :
    Event.recoveries (reading.attach entry).events = Event.recoveries reading.events := by
  rw [attach_events]
  cases entry.kind.opensScope <;> rfl

/-- Nothing is told about a recovery when a line is read. -/
theorem accept_recoveries (reading : Reading) (line : Line) :
    Event.recoveries (reading.accept line).events = Event.recoveries reading.events := by
  unfold accept
  cases line.body with
  | blank => rfl
  | comment text => rfl
  | note text =>
      simp only [annotate]
      split <;> rfl
  | structural text =>
      rw [← leaveTo_recoveries reading line.indent]
      simp only [build]
      split
      · rfl
      · rename_i reached arrived
        simp only [fill]
        split
        · rfl
        · split
          · exact attach_recoveries _ _
          · rfl

/-- A line that is heard is refused exactly if there is a recovery after it. -/
theorem Yield.refusedLines_eq {reading : Reading} {line : Line} {placements : List Placement}
    {findings : List Finding} {recovery : Option Recovery}
    (yields : reading.Yield line placements findings recovery)
    (loud : line.body.isSilent = false) (heard : reading.Hears line) :
    Finding.refusedLines findings = (recovery.map Recovery.failedLine).toList ∧
      ∀ refused ∈ Finding.refusedLines findings, refused = line.number := by
  cases yields with
  | silent quiet => simp [quiet] at loud
  | skipped _ unheard => exact absurd heard unheard
  | noted note _ =>
      have none : Finding.refusedLines (reading.repeatedNote line) = [] := by
        unfold repeatedNote
        split <;> rfl
      simp [none]
  | rejected structural _ refusal => simp [Finding.refusedLines, refusal]
  | attached structural _ number => simp [Finding.refusedLines]
  | redeclared structural _ number =>
      simp [Finding.refusedLines, Problem.category, Category.isRefusal]

/--
The recovery of a reading and what its events tell about earlier ones account
for all lines refused so far, the latest first.
-/
structure Accounted (lines : List Line) (reading : Reading) : Prop where
  failures : (reading.recovery.map Recovery.failedLine).toList ++
    (Event.recoveries reading.events).map Prod.fst = Finding.refusedLines reading.findings
  resumed : ∀ failed resume, (failed, some resume) ∈ Event.recoveries reading.events →
    failed < resume ∧ (∃ line ∈ lines, resume = line.number) ∧
      ∀ refused ∈ Finding.refusedLines reading.findings, failed < refused → resume ≤ refused

theorem accounted_initial : Accounted [] Reading.initial where
  failures := rfl
  resumed := by simp [initial, Event.recoveries]

theorem exists_line_of_refusedLines {lines : List Line} {refused : Int}
    (member : refused ∈ Finding.refusedLines (initial.run lines).findings) :
    ∃ line ∈ lines, refused = line.number := by
  rcases List.mem_map.mp member with ⟨finding, reported, rfl⟩
  exact (initial_run_grows lines).2 finding (List.mem_of_mem_filter reported)

theorem refusedLines_pairwise {lines : List Line} (ascending : Line.Ascending lines) :
    (Finding.refusedLines (initial.run lines).findings).Pairwise (· > ·) :=
  (run_findings_pairwise lines ascending).sublist (List.filter_sublist.map Finding.lineNumber)

/-- Nothing has been refused after the line that is being recovered from. -/
theorem Accounted.le_failedLine {lines : List Line} (ascending : Line.Ascending lines)
    (accounted : Accounted lines (initial.run lines)) {recovery : Recovery}
    (pausing : (initial.run lines).recovery = some recovery) :
    recovery.failedLine ∈ Finding.refusedLines (initial.run lines).findings ∧
      ∀ refused ∈ Finding.refusedLines (initial.run lines).findings,
        refused ≤ recovery.failedLine := by
  have failures := accounted.failures
  rw [pausing] at failures
  have descending := refusedLines_pairwise ascending
  rw [← failures] at descending ⊢
  simp only [Option.map_some, Option.toList_some, List.singleton_append, List.pairwise_cons]
    at descending ⊢
  refine ⟨List.mem_cons_self, ?_⟩
  intro refused member
  rcases List.mem_cons.mp member with rfl | earlier
  · exact le_rfl
  · exact (descending.1 refused earlier).le

/-- A line that is heard ends the recovery before it and may begin another one. -/
theorem Accounted.hear {earlier : List Line} {line : Line}
    (ascending : Line.Ascending (earlier ++ [line]))
    (accounted : Accounted earlier (initial.run earlier))
    (loud : line.body.isSilent = false) (heard : (initial.run earlier).Hears line)
    (next : (initial.run earlier).step line = ((initial.run earlier).awake line).accept line) :
    Accounted (earlier ++ [line]) ((initial.run earlier).step line) := by
  have told : Event.recoveries ((initial.run earlier).step line).events =
      (initial.run earlier).resumptions line ++
        Event.recoveries (initial.run earlier).events := by
    rw [next, accept_recoveries, awake_recoveries]
  rcases step_yields (initial.run earlier) line with ⟨placements, findings, yields, grows⟩
  rcases yields.refusedLines_eq loud heard with ⟨refusal, own⟩
  have refusals : Finding.refusedLines ((initial.run earlier).step line).findings =
      Finding.refusedLines findings ++ Finding.refusedLines (initial.run earlier).findings := by
    rw [grows.findings, Finding.refusedLines_append]
  constructor
  · rw [refusals, refusal, ← accounted.failures, told, List.map_append, resumptions_failed]
  · intro failed resume member
    rw [told, resumptions, List.mem_append] at member
    rw [refusals]
    rcases member with new | old
    · cases pausing : (initial.run earlier).recovery with
      | none => simp [pausing] at new
      | some recovery =>
          rw [pausing] at new
          simp only [Option.map_some, Option.toList_some, List.mem_singleton, Prod.mk.injEq,
            Option.some.injEq] at new
          rcases new with ⟨rfl, rfl⟩
          rcases accounted.le_failedLine ascending.init pausing with ⟨member, latest⟩
          rcases exists_line_of_refusedLines member with ⟨source, before, number⟩
          refine ⟨number ▸ ascending.lt_last before, ⟨line, by simp, rfl⟩, ?_⟩
          intro refused member later
          rcases List.mem_append.mp member with new | old
          · exact (own refused new).ge
          · exact absurd later (latest refused old).not_gt
    · rcases accounted.resumed failed resume old with ⟨later, ⟨source, before, rfl⟩, next⟩
      refine ⟨later, ⟨source, List.mem_append_left _ before, rfl⟩, ?_⟩
      intro refused member after
      rcases List.mem_append.mp member with new | old
      · rw [own refused new]
        exact (ascending.lt_last before).le
      · exact next refused old after

theorem run_accounted (lines : List Line) (ascending : Line.Ascending lines) :
    Accounted lines (Reading.initial.run lines) := by
  induction lines using List.reverseRecOn with
  | nil => exact accounted_initial
  | append_singleton earlier line induction =>
      have accounted := induction ascending.init
      rw [run_append, run_cons, run_nil]
      rcases step_eq_self_or_awake (initial.run earlier) line with same | ⟨loud, heard, next⟩
      · rw [same]
        refine ⟨accounted.failures, ?_⟩
        intro failed resume member
        rcases accounted.resumed failed resume member with
          ⟨later, ⟨source, before, number⟩, next⟩
        exact ⟨later, ⟨source, List.mem_append_left _ before, number⟩, next⟩
      · exact accounted.hear ascending loud heard next

/-! ## The end of a reading -/

theorem Chronicled.finish {reading : Reading} (chronicled : reading.Chronicled)
    (shallow : reading.scopes.depth ≤ 3) : reading.finish.Chronicled := by
  have same : reading.abandon.scopes = reading.scopes := by
    unfold Reading.abandon
    cases reading.recovery <;> rfl
  exact chronicled.abandon.close (by rwa [same]) (List.append_nil _).symm rfl rfl rfl

theorem finish_recoveries (reading : Reading) :
    Event.recoveries reading.finish.events =
      (reading.recovery.map fun recovery => (recovery.failedLine, none)).toList ++
        Event.recoveries reading.events := by
  have ended : Event.recoveries reading.finish.events =
      Event.recoveries reading.abandon.events := by
    rw [finish, Event.recoveries_append, Event.recoveries_reverse, recoveries_closings]
    rfl
  rw [ended, abandon]
  cases reading.recovery <;> rfl

end Reading

/-! ## The events of a document -/

/--
The events of an outcome tell all that has happened to its scopes, and what has
become of each line that could not be placed.
-/
structure Outcome.IsChronicled (outcome : Outcome) : Prop where
  /-- Scopes are opened for the classes and functions, in the order of the document. -/
  openings : outcome.events.filterMap Event.opened? =
    (outcome.tree.entries.filter fun entry =>
      entry.kind = .classBlock ∨ entry.kind = .function).map Entry.name
  nested : Event.WellNested outcome.events
  depths : Event.TellDepths outcome.events
  /-- In the end only the outermost scope is open. -/
  closed : outcome.scopes.depth = 1 ∧ outcome.scopes.current = outcome.scopes.root
  /-- Each line that could not be placed is told once, in the order of the document. -/
  failures : (Event.recoveries outcome.events).map Prod.fst =
    Finding.refusedLines outcome.findings
  /-- The reading resumes below a line that could not be placed, before or at the next one. -/
  resumed : ∀ failed resume, .resumed failed resume ∈ outcome.events →
    failed < resume ∧
      ∀ refused ∈ Finding.refusedLines outcome.findings, failed < refused → resume ≤ refused

namespace Outcome

/-- The events of every document are a faithful record of how it was read. -/
theorem ofSource_isChronicled (source : String) : (ofSource source).IsChronicled := by
  have ascending := Line.ascending_ofSource source
  rw [ofSource]
  generalize Line.ofSource source = lines at ascending
  have stacked := Reading.run_stacked lines ascending
  have chronicled := (Reading.run_chronicled lines ascending).finish
    (Nat.succ_le_succ stacked.length_le)
  have accounted := Reading.run_accounted lines ascending
  have told : Event.recoveries (ofLines lines).events =
      (Event.recoveries (Reading.initial.run lines).finish.events).reverse :=
    Event.recoveries_reverse _
  have refused : Finding.refusedLines (ofLines lines).findings =
      (Finding.refusedLines (Reading.initial.run lines).findings).reverse := by
    rw [ofLines_findings, Finding.refusedLines, List.filter_reverse, List.map_reverse]
    rfl
  constructor
  · refine chronicled.openings.trans ?_
    congr 2
    funext entry
    cases entry.kind <;> rfl
  · exact Event.wellNested_of_stillOpen chronicled.records.stillOpen
  · exact chronicled.records.depths
  · exact ⟨rfl, rfl⟩
  · rw [told, refused, ← accounted.failures, Reading.finish_recoveries, List.map_reverse,
      List.map_append]
    cases (Reading.initial.run lines).recovery <;> rfl
  · intro failed resume member
    have known : (failed, some resume) ∈ Event.recoveries (ofLines lines).events :=
      List.mem_filterMap.mpr ⟨_, member, rfl⟩
    rw [told, List.mem_reverse, Reading.finish_recoveries, List.mem_append] at known
    have earlier : (failed, some resume) ∈
        Event.recoveries (Reading.initial.run lines).events := by
      apply known.resolve_left
      cases (Reading.initial.run lines).recovery <;> simp
    rcases accounted.resumed failed resume earlier with ⟨later, -, next⟩
    refine ⟨later, ?_⟩
    intro line reported
    rw [refused, List.mem_reverse] at reported
    exact next line reported

/-- A class is admitted at the top only, so the second one opens no scope. -/
example : (ofSource "class: A\n    func: f\n        class: B\n  x\nclass: C\n  y").events =
    [.opened "A" 2, .opened "f" 3, .resumed 3 4, .closed "f" 2, .resumed 4 5, .closed "A" 1,
      .opened "C" 2, .abandoned 6, .closed "C" 1] := by
  decide +kernel

end Outcome

end Outline
