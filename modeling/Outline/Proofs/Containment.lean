import Outline.Proofs.Fate
import Outline.Proofs.Prior
import Outline.Proofs.Renumbering

/-!
# Containment of faults

A line that cannot be placed, put in before another one in the same column, has
no effect but its own finding, and all lines below it are passed over.

The line that comes after it is tried where the faulty line has been rejected,
and there it finds the blocks, the scopes and the note that it would have found
without the fault.  So from there on both readings agree, but for the finding
that one of them has had before.
-/

namespace Outline

namespace Reading

/-! ## Documents without refusals -/

/-- Nothing is passed over as long as no line has been refused. -/
theorem recovery_eq_none_of_unrefused {lines : List Line} (ascending : Line.Ascending lines)
    (unrefused : ∀ finding ∈ (initial.run lines).findings,
      finding.problem.category.isRefusal = false) :
    (initial.run lines).recovery = none := by
  cases pausing : (initial.run lines).recovery with
  | none => rfl
  | some recovery =>
      rcases exists_failsAt pausing with ⟨before, failed, between, rfl, -, fails, -⟩
      have rejected := (Outcome.assigns_rejected_of_failsAt ascending fails).1
      rcases List.exists_mem_of_length_eq_add_one rejected with ⟨finding, member⟩
      simp only [Outcome.refusalsAt, Outcome.findingsAt, Outcome.ofLines_findings,
        List.mem_filter, List.mem_reverse] at member
      exact absurd (unrefused finding member.1.1) (by simp [member.2])

/-- In a document without refusals every structural line is attached. -/
theorem attached_of_unrefused {before after : List Line} {line : Line} {text : String}
    (ascending : Line.Ascending (before ++ line :: after))
    (body : line.body = .structural text)
    (unrefused : ∀ finding ∈ (initial.run (before ++ line :: after)).findings,
      finding.problem.category.isRefusal = false) :
    (initial.run before).recovery = none ∧
      ∃ events reached entry, (initial.run before).approach line = .ok reached ∧
        entry.lineNumber = line.number ∧
        (initial.run before).step line =
          ((initial.run before).arrived line reached events).attach entry := by
  rcases run_grows (initial.run before) (line :: after) with ⟨_, added, grows, -⟩
  rcases run_grows ((initial.run before).step line) after with ⟨_, further, grown, -⟩
  rw [run_append, grows.findings] at unrefused
  have resumed := recovery_eq_none_of_unrefused ascending.of_append fun finding member =>
    unrefused finding (List.mem_append_right _ member)
  refine ⟨resumed, ?_⟩
  rw [← grows.findings, run_cons, grown.findings] at unrefused
  have transition := step_transition (initial.run before) line
  generalize (initial.run before).step line = next at transition unrefused
  cases transition with
  | silent quiet => simp [body, LineBody.isSilent] at quiet
  | skipped loud pausing deeper => simp [resumed] at pausing
  | noted events noted heard => simp [body] at noted
  | @rejected _ reached problem events _ heard obstacle =>
      have refused := unrefused ⟨line.number, problem⟩ (by simp [reject, report])
      exact absurd obstacle.isRefusal (by simp [refused])
  | @attached _ reached entry events _ heard approached recognised admitted =>
      exact ⟨events, reached, entry, approached, (Entry.ofContent?_eq_some recognised).2.2.1, rfl⟩

/-! ## A fault and the line after it -/

/-- A line that arrives but is not known, or not admitted, is rejected where it has arrived. -/
theorem step_of_refused {reading : Reading} {line : Line} {reached : Position}
    (structural : line.isStructural = true) (heard : reading.Hears line)
    (approached : reading.approach line = .ok reached)
    (refused : ∀ kind ∈ Kind.ofContent? line.body.text.toList, reached.admits kind = false) :
    ∃ events problem, problem.category.isRefusal = true ∧
      reading.step line =
        (reading.arrived line reached events).reject line problem reached.column := by
  rcases Line.exists_text_of_isStructural structural with ⟨text, body⟩
  rcases step_of_approach body heard approached with ⟨events, step⟩
  have pending : (reading.arrived line reached events).pending = reading.pending := rfl
  have position : (reading.arrived line reached events).position = reached := rfl
  rw [body] at refused
  rw [step]
  unfold fill
  rw [pending, position]
  cases recognised : Entry.ofContent? text line.indent line.number reading.pending with
  | none =>
      exact ⟨events, _, rfl, rfl⟩
  | some entry =>
      simp only [Entry.ofContent?, Option.map_eq_some_iff] at recognised
      rcases recognised with ⟨kind, known, rfl⟩
      simp only [refused kind known, Bool.false_eq_true, if_false]
      exact ⟨events, _, rfl, rfl⟩

/-- A fault before a line changes nothing of what comes of the line and of all that follows. -/
theorem agreeSince_of_fault {reading : Reading} {line head : Line} {rest : List Line}
    {reached : Position} (grounded : reading.position.Grounded)
    (resumed : reading.recovery = none) (structural : line.isStructural = true)
    (approached : reading.approach line = .ok reached)
    (faulty : head.isStructural = true) (column : head.indent = line.indent)
    (refused : ∀ kind ∈ Kind.ofContent? head.body.text.toList, reached.admits kind = false)
    (below : ∀ other ∈ rest, other.IsBelow line.indent) (after : List Line) :
    ∃ problem, problem.category.isRefusal = true ∧
      AgreeSince ⟨[], reading.findings⟩ ⟨[], ⟨head.number, problem⟩ :: reading.findings⟩
        (reading.run (line :: after)) (reading.run (head :: rest ++ line :: after)) := by
  rcases Line.exists_text_of_isStructural structural with ⟨text, body⟩
  rcases (approach_eq_ok_iff grounded).mp approached with ⟨reaches, standing⟩
  have approaching : reading.approach head = .ok reached := by
    rw [approach, column]
    exact approached
  rcases step_of_refused faulty (hears_of_recovery_eq_none resumed head) approaching refused with
    ⟨before, problem, refusal, failing⟩
  refine ⟨problem, refusal, ?_⟩
  -- After the fault the reading waits where the line will arrive.
  have waiting : (reading.step head).position = reached ∧
      (reading.step head).recovery = some ⟨head.number, reached.column⟩ := by
    rw [failing]
    exact ⟨rfl, rfl⟩
  have passed : (reading.step head).run rest = reading.step head := by
    apply run_of_isBelow waiting.2
    exact fun other member => standing ▸ below other member
  have heard : (reading.step head).Hears line := by
    rw [hears_iff waiting.2]
    exact standing.ge
  have again : (reading.step head).approach line = .ok reached := by
    rw [approach_eq_ok_iff (waiting.1 ▸ grounded.reaches reaches), waiting.1]
    exact ⟨.stay (.inr standing.le), standing⟩
  rcases step_of_approach body (hears_of_recovery_eq_none resumed line) approached with
    ⟨plain, first⟩
  rcases step_of_approach body heard again with ⟨later, second⟩
  have placed := step_grounded grounded line
  rw [first] at placed
  rw [List.cons_append, run_cons, run_cons, run_append, passed, run_cons, first, second]
  apply AgreeSince.run _ placed
  apply AgreeSince.fill _ (grounded.reaches reaches)
  refine ⟨{ reading.arrived line reached [] with findings := [] }, plain, later, ?_, ?_⟩
  · simp [arrived, Reading.after]
  · rw [failing]
    simp [arrived, Reading.after, reject, report, column, Scopes.leaveTo_leaveTo _ le_rfl]

end Reading

namespace Outcome

/-- The grammar refuses a kind where the node of a line stands. -/
def Refuses (outcome : Outcome) (line : Line) (kind : Kind) : Prop :=
  ∃ placement ∈ outcome.tree.placements [], placement.child.lineNumber = line.number ∧
    Grammar.admits placement.parent.kind (placement.earlier.map Entry.kind).reverse kind = false

instance (outcome : Outcome) (line : Line) (kind : Kind) :
    Decidable (outcome.Refuses line kind) :=
  inferInstanceAs (Decidable (∃ placement ∈ outcome.tree.placements [],
    placement.child.lineNumber = line.number ∧
      Grammar.admits placement.parent.kind (placement.earlier.map Entry.kind).reverse kind = false))

/--
Lines are a fault before a line of a document that has some outcome.  The first
one is structural and stands in the column of the line.  It is not known, or it
is refused where the node of the line stands.  All others are below the line.
-/
structure IsFault (outcome : Outcome) (line head : Line) (rest : List Line) : Prop where
  structural : head.isStructural = true
  column : head.indent = line.indent
  refused : ∀ kind ∈ Kind.ofContent? head.body.text.toList, outcome.Refuses line kind
  below : ∀ other ∈ rest, other.IsBelow line.indent

/-- What is refused at the node of a line is not admitted where the line has arrived. -/
theorem Refuses.not_admits {before after : List Line} {line : Line} {kind : Kind}
    {events : List Event} {reached : Position} {entry : Entry}
    (refuses : (ofLines (before ++ line :: after)).Refuses line kind)
    (ascending : Line.Ascending (before ++ line :: after))
    (number : entry.lineNumber = line.number)
    (attached : (Reading.initial.run before).step line =
      ((Reading.initial.run before).arrived line reached events).attach entry) :
    reached.admits kind = false := by
  rcases refuses with ⟨placement, member, same, refused⟩
  rcases Reading.run_grows ((Reading.initial.run before).step line) after with ⟨added, _, grows, -⟩
  have faithful := Reading.run_faithful _ ascending
  rw [ofLines_tree] at member
  have placed : reached.placement entry ∈
      (Reading.initial.run (before ++ line :: after)).position.toTree.placements [] := by
    rw [Reading.run_append, Reading.run_cons, grows.placements, attached,
      Reading.attach_position]
    show _ ∈ (reached.place entry).toTree.placements [] ++ added
    rw [Position.placements_place]
    simp
  have here := faithful.eq_of_lineNumber_eq member placed (same.trans number.symm)
  rw [here] at refused
  simpa [Position.placement, Position.admits, Function.comp_def] using refused

/-- A fault that is put in before a line adds its own finding to those of the rest. -/
theorem agreeSince_of_isFault {before after rest : List Line} {line head : Line}
    {move : Int → Int} (fixed : move 0 = 0) (kept : before.map (Line.renumber move) = before)
    (ascending : Line.Ascending (before ++ line :: after)) (structural : line.isStructural = true)
    (unrefused : ∀ finding ∈ (ofLines (before ++ line :: after)).findings,
      finding.problem.category.isRefusal = false)
    (fault : (ofLines (before ++ line :: after)).IsFault line head rest) :
    ∃ problem, problem.category.isRefusal = true ∧
      Reading.AgreeSince ⟨[], (Reading.initial.run before).findings⟩
        ⟨[], ⟨head.number, problem⟩ :: (Reading.initial.run before).findings⟩
        ((Reading.initial.run (before ++ line :: after)).renumber move)
        (Reading.initial.run
          (before ++ (head :: rest ++ (line :: after).map (Line.renumber move)))) := by
  simp only [ofLines_findings, List.mem_reverse] at unrefused
  rcases Line.exists_text_of_isStructural structural with ⟨text, body⟩
  rcases Reading.attached_of_unrefused ascending body unrefused with
    ⟨resumed, events, reached, entry, approached, number, attached⟩
  rw [← Reading.run_renumber fixed, List.map_append, kept, List.map_cons, Reading.run_append,
    Reading.run_append]
  have faithful := Reading.run_faithful _ ascending.of_append
  have refused : ∀ kind ∈ Kind.ofContent? head.body.text.toList, reached.admits kind = false :=
    fun kind known => (fault.refused kind known).not_admits ascending number attached
  have moved : (line.renumber move).isStructural = true := structural
  have arrives : (Reading.initial.run before).approach (line.renumber move) = .ok reached :=
    approached
  exact Reading.agreeSince_of_fault faithful.grounded resumed moved arrives fault.structural
    fault.column refused fault.below _

/-- The findings from a line on are the same with a fault before it, but for their numbers. -/
theorem exists_findings_of_agreeSince {before after : List Line} {move : Int → Int}
    {faulty : Reading} {finding : Finding}
    (agree : Reading.AgreeSince ⟨[], (Reading.initial.run before).findings⟩
      ⟨[], finding :: (Reading.initial.run before).findings⟩
      ((Reading.initial.run (before ++ after)).renumber move) faulty) :
    ∃ own, (Reading.initial.run (before ++ after)).findings =
        own ++ (Reading.initial.run before).findings ∧
      faulty.findings =
        own.map (Finding.renumber move) ++ finding :: (Reading.initial.run before).findings ∧
      ∀ finding ∈ own, ∃ line ∈ after, finding.lineNumber = line.number := by
  rcases Reading.run_grows (Reading.initial.run before) after with ⟨_, own, grows, -, numbers⟩
  rcases agree.findings with ⟨since, plain, same⟩
  rw [← Reading.run_append] at grows
  have moved : own.map (Finding.renumber move) = since := by
    simp only [Reading.renumber, grows.findings, List.map_append] at plain
    exact (List.append_inj' plain (by simp)).1
  exact ⟨own, grows.findings, moved ▸ same, numbers⟩

/--
A fault is contained.  When it is put in before a structural line of a document
in which no line is refused, the tree and the findings stay as they are, but for
the numbers of the lines that have moved on, and there is one more finding, at
the first line of the fault.
-/
theorem ofRaws_insert_fault (before rest after : List String) (raw first : String)
    (unrefused : ∀ finding ∈ (ofRaws (before ++ raw :: after)).findings,
      finding.problem.category.isRefusal = false)
    (structural : (Line.ofRaw raw (before.length + 1)).isStructural = true)
    (fault : (ofRaws (before ++ raw :: after)).IsFault (Line.ofRaw raw (before.length + 1))
      (Line.ofRaw first (before.length + 1)) (Line.ofRaws rest)) :
    (ofRaws (before ++ (first :: rest ++ raw :: after))).tree =
        (ofRaws (before ++ raw :: after)).tree.renumber
          (Line.shift before.length (rest.length + 1)) ∧
      ∃ earlier later problem, problem.category.isRefusal = true ∧
        (ofRaws (before ++ raw :: after)).findings = earlier ++ later ∧
        (∀ finding ∈ earlier, finding.lineNumber ≤ before.length) ∧
        (∀ finding ∈ later, before.length < finding.lineNumber) ∧
        (ofRaws (before ++ (first :: rest ++ raw :: after))).findings =
          earlier ++ ⟨before.length + 1, problem⟩ ::
            later.map (Finding.renumber (Line.shift before.length (rest.length + 1))) := by
  have old : Line.ofRaws (before ++ raw :: after) = _ := Line.ofRaws_append before (raw :: after)
  have new := Line.ofRaws_insert before (first :: rest) (raw :: after)
  have ascending := Line.ascending_ofRaws (before ++ raw :: after)
  have kept := Line.map_shift_ofRaws before (rest.length + 1)
  rw [Line.ofRaws_cons_shift] at old
  rw [Line.ofRaws_cons_shift, Line.ofRaws_cons_shift] at new
  simp only [ofRaws] at unrefused fault ⊢
  rw [List.cons_append] at new
  rw [old] at unrefused fault ascending ⊢
  rw [List.cons_append, new]
  generalize ((Line.ofRaws after).map _).map _ = tail at *
  have moved : ∀ other ∈ ((Line.ofRaws rest).map (Line.renumber (Line.shift 0 1))).map
      (Line.renumber (Line.shift 0 before.length)),
      other.IsBelow (Line.ofRaw raw (before.length + 1)).indent := by
    intro other member
    rw [List.map_map, List.mem_map] at member
    rcases member with ⟨source, known, rfl⟩
    exact fault.below source known
  rcases agreeSince_of_isFault (Line.shift_zero _ _) kept ascending structural unrefused
    { fault with below := moved } with ⟨problem, refusal, agree⟩
  constructor
  · rw [ofLines_tree, ofLines_tree, ← Position.renumber_toTree]
    rcases agree.position with ⟨since, plain, faulty⟩
    exact congrArg Position.toTree (faulty.trans plain.symm)
  · rcases exists_findings_of_agreeSince agree with ⟨own, plain, faulty, numbers⟩
    refine ⟨(Reading.initial.run (Line.ofRaws before)).findings.reverse, own.reverse, problem,
      refusal, ?_, ?_, ?_, ?_⟩
    · rw [ofLines_findings, plain, List.reverse_append]
    · intro finding member
      rcases (Reading.initial_run_grows _).2 finding (List.mem_reverse.mp member) with
        ⟨line, known, number⟩
      rw [number]
      exact (Line.number_of_mem_ofRaws known).2
    · intro finding member
      rcases numbers finding (List.mem_reverse.mp member) with ⟨line, known, number⟩
      rw [number]
      rcases List.mem_cons.mp known with rfl | later
      · exact lt_add_one _
      · rw [List.append_cons] at ascending
        have below := ascending.lt_of_append
          (List.mem_append_right _ (List.mem_singleton_self _)) later
        exact (lt_add_one _).trans below
    · rw [ofLines_findings, List.length_cons, faulty, List.reverse_append, List.reverse_cons,
        List.append_assoc, List.map_reverse]
      rfl

/-- The lines before the behavior of a function, with a note on the behavior. -/
def beforeBehavior : List String :=
  ["class: A", "    func: f", "        output: o", "        @ note"]

/-- An input after the output is refused, and a note below it is passed over. -/
theorem ofRaws_insert_fault_input :
    (ofRaws (beforeBehavior ++ "        behavior:" :: ["            return x"])).IsFault
        ⟨5, 8, .structural "behavior:"⟩ ⟨5, 8, .structural "input: i"⟩
        (Line.ofRaws ["", "            @ odd"]) ∧
      (ofRaws (beforeBehavior ++ ("        input: i" :: ["", "            @ odd"] ++
          "        behavior:" :: ["            return x"]))).tree =
        (ofRaws (beforeBehavior ++ "        behavior:" :: ["            return x"])).tree.renumber
          (Line.shift 4 3) := by
  have fault : (ofRaws (beforeBehavior ++ "        behavior:" :: ["            return x"])).IsFault
      (Line.ofRaw "        behavior:" 5) (Line.ofRaw "        input: i" 5)
      (Line.ofRaws ["", "            @ odd"]) := by
    constructor <;> decide +kernel
  exact ⟨fault, (ofRaws_insert_fault beforeBehavior _ _ _ _ (by decide +kernel)
    (by decide +kernel) fault).1⟩

end Outcome

end Outline
