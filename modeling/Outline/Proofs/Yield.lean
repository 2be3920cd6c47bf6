import Outline.Proofs.Listing

/-!
# What a line adds

A reading only ever grows.  One line adds at most one node at the end of the
document order and at most one finding, both with the number of the line.  So
what the outcome of a document has at a line is what was added when the line was
read, and nothing that comes later changes it.
-/

namespace Outline

namespace Reading

/-! ## One line -/

/-- What a line adds to the nodes and to the findings, and the recovery after it. -/
inductive Yield (reading : Reading) (line : Line) :
    List Placement → List Finding → Option Recovery → Prop where
  | silent (quiet : line.body.isSilent = true) :
      Yield reading line [] [] reading.recovery
  | skipped (loud : line.body.isSilent = false) (unheard : ¬ reading.Hears line) :
      Yield reading line [] [] reading.recovery
  | noted (note : line.isNote = true) (heard : reading.Hears line) :
      Yield reading line [] (reading.repeatedNote line) none
  | rejected {problem : Problem} {column : Int} (structural : line.isStructural = true)
      (heard : reading.Hears line) (refusal : problem.category.isRefusal = true) :
      Yield reading line [] [⟨line.number, problem⟩] (some ⟨line.number, column⟩)
  | attached {placement : Placement} (structural : line.isStructural = true)
      (heard : reading.Hears line) (number : placement.child.lineNumber = line.number) :
      Yield reading line [placement] [] none
  | redeclared {placement : Placement} {name : String} {first : Int}
      (structural : line.isStructural = true) (heard : reading.Hears line)
      (number : placement.child.lineNumber = line.number) :
      Yield reading line [placement] [⟨line.number, .alreadyDefined name first⟩] none

/-- A later reading has all nodes and findings of an earlier one, and these more. -/
structure Grows (reading : Reading) (placements : List Placement) (findings : List Finding)
    (later : Reading) : Prop where
  root : later.position.toTree.entry = reading.position.toTree.entry
  placements :
    later.position.toTree.placements [] = reading.position.toTree.placements [] ++ placements
  findings : later.findings = findings ++ reading.findings

theorem Grows.refl (reading : Reading) : reading.Grows [] [] reading where
  root := rfl
  placements := by simp
  findings := by simp

theorem Grows.trans {reading middle later : Reading} {first second : List Placement}
    {early late : List Finding} (before : reading.Grows first early middle)
    (after : middle.Grows second late later) :
    reading.Grows (first ++ second) (late ++ early) later where
  root := after.root.trans before.root
  placements := by
    rw [after.placements, before.placements, List.append_assoc]
  findings := by
    rw [after.findings, before.findings, List.append_assoc]

theorem rejected_grows {reading : Reading} {line : Line} {text : String} {reached : Position}
    {problem : Problem} (obstacle : reading.Obstacle line text reached problem)
    (events : List Event) :
    reading.Grows [] [⟨line.number, problem⟩]
      ((reading.arrived line reached events).reject line problem reached.column) := by
  have same : reached.toTree = reading.position.toTree := obstacle.reaches.toTree_eq
  constructor
  · show reached.toTree.entry = _
    rw [same]
  · show reached.toTree.placements [] = _
    rw [same, List.append_nil]
  · rfl

theorem attached_grows {reading : Reading} {line : Line} {reached : Position} {entry : Entry}
    {events : List Event} {findings : List Finding}
    (approached : reading.approach line = .ok reached)
    (reported : ((reading.arrived line reached events).attach entry).findings =
      findings ++ reading.findings) :
    reading.Grows [reached.placement entry] findings
      ((reading.arrived line reached events).attach entry) := by
  have same : reached.toTree = reading.position.toTree :=
    (reaches_of_approach approached).toTree_eq
  constructor
  · rw [attach_position, Position.place_toTree_entry]
    show reached.toTree.entry = _
    rw [same]
  · rw [attach_position, Position.placements_place]
    show reached.toTree.placements [] ++ _ = _
    rw [same]
    rfl
  · exact reported

/-- Every step adds what its line yields. -/
theorem step_yields (reading : Reading) (line : Line) :
    ∃ placements findings,
      reading.Yield line placements findings (reading.step line).recovery ∧
        reading.Grows placements findings (reading.step line) := by
  have transition := step_transition reading line
  generalize reading.step line = next at transition
  cases transition with
  | silent quiet =>
      exact ⟨[], [], .silent quiet, .refl reading⟩
  | skipped loud pausing deeper =>
      refine ⟨[], [], .skipped loud ?_, .refl reading⟩
      intro heard
      exact absurd (heard _ pausing) deeper.not_ge
  | noted events body heard =>
      exact ⟨[], _, .noted (Line.isNote_of_body body) heard, rfl, by simp, rfl⟩
  | rejected events body heard obstacle =>
      exact ⟨[], _, .rejected (Line.isStructural_of_body body) heard obstacle.isRefusal,
        rejected_grows obstacle events⟩
  | @attached text reached entry events body heard approached recognised admitted =>
      have structural := Line.isStructural_of_body body
      have number : (reached.placement entry).child.lineNumber = line.number :=
        (Entry.ofContent?_eq_some recognised).2.2.1
      rw [attach_recovery]
      rcases attach_reports (reading.arrived line reached events) entry with
        silent | ⟨name, first, reported⟩
      · exact ⟨_, _, .attached structural heard number, attached_grows approached silent⟩
      · rw [show entry.lineNumber = line.number from number] at reported
        exact ⟨_, [⟨line.number, .alreadyDefined name first⟩],
          .redeclared structural heard number, attached_grows approached reported⟩

namespace Yield

variable {reading : Reading} {line : Line} {placements : List Placement}
  {findings : List Finding} {recovery : Option Recovery}

theorem lineNumber_of_mem_placements
    (yields : reading.Yield line placements findings recovery)
    {placement : Placement} (member : placement ∈ placements) :
    line.isStructural = true ∧ placement.child.lineNumber = line.number := by
  cases yields with
  | attached structural heard number =>
      rw [List.mem_singleton.mp member]
      exact ⟨structural, number⟩
  | redeclared structural heard number =>
      rw [List.mem_singleton.mp member]
      exact ⟨structural, number⟩
  | _ => simp at member

theorem lineNumber_of_mem_findings
    (yields : reading.Yield line placements findings recovery)
    {finding : Finding} (member : finding ∈ findings) :
    finding.lineNumber = line.number := by
  cases yields with
  | noted note heard =>
      unfold repeatedNote at member
      split at member
      · rw [List.mem_singleton.mp member]
      · simp at member
  | rejected structural heard refusal =>
      rw [List.mem_singleton.mp member]
  | redeclared structural heard number =>
      rw [List.mem_singleton.mp member]
  | _ => simp at member

theorem reverse_findings (yields : reading.Yield line placements findings recovery) :
    findings.reverse = findings := by
  cases yields with
  | noted note heard =>
      unfold repeatedNote
      split <;> rfl
  | _ => rfl

theorem pairwise_findings (yields : reading.Yield line placements findings recovery) :
    (findings.map Finding.lineNumber).Pairwise (· > ·) := by
  cases yields with
  | noted note heard =>
      unfold repeatedNote
      split <;> simp
  | _ => simp

end Yield

/-! ## Runs -/

/-- A run adds nodes and findings of its own lines only. -/
theorem run_grows (reading : Reading) (lines : List Line) :
    ∃ placements findings, reading.Grows placements findings (reading.run lines) ∧
      (∀ placement ∈ placements, ∃ line ∈ lines,
        line.isStructural = true ∧ placement.child.lineNumber = line.number) ∧
      ∀ finding ∈ findings, ∃ line ∈ lines, finding.lineNumber = line.number := by
  induction lines generalizing reading with
  | nil =>
      exact ⟨[], [], .refl reading, by simp, by simp⟩
  | cons line rest induction =>
      rcases step_yields reading line with ⟨first, early, yields, grows⟩
      rcases induction (reading.step line) with ⟨second, late, grown, nodes, reports⟩
      refine ⟨first ++ second, late ++ early, grows.trans grown, ?_, ?_⟩
      · intro placement member
        rcases List.mem_append.mp member with own | other
        · exact ⟨line, List.mem_cons_self, yields.lineNumber_of_mem_placements own⟩
        · rcases nodes placement other with ⟨source, later, facts⟩
          exact ⟨source, List.mem_cons_of_mem _ later, facts⟩
      · intro finding member
        rcases List.mem_append.mp member with other | own
        · rcases reports finding other with ⟨source, later, number⟩
          exact ⟨source, List.mem_cons_of_mem _ later, number⟩
        · exact ⟨line, List.mem_cons_self, yields.lineNumber_of_mem_findings own⟩

theorem initial_run_grows (lines : List Line) :
    (∀ placement ∈ (initial.run lines).position.toTree.placements [], ∃ line ∈ lines,
        line.isStructural = true ∧ placement.child.lineNumber = line.number) ∧
      ∀ finding ∈ (initial.run lines).findings, ∃ line ∈ lines,
        finding.lineNumber = line.number := by
  rcases run_grows initial lines with ⟨placements, findings, grows, nodes, reports⟩
  have start : initial.position.toTree.placements [] = [] := Position.initial_placements
  rw [grows.placements, grows.findings, start, List.nil_append]
  exact ⟨nodes, by simpa [initial] using reports⟩

/-- The findings of a run come in the order of the lines, at most one for each line. -/
theorem run_findings_pairwise (lines : List Line) (ascending : Line.Ascending lines) :
    ((initial.run lines).findings.map Finding.lineNumber).Pairwise (· > ·) := by
  induction lines using List.reverseRecOn with
  | nil =>
      exact List.Pairwise.nil
  | append_singleton earlier line induction =>
      have before := induction ascending.init
      rw [run_append, run_cons, run_nil]
      rcases step_yields (initial.run earlier) line with ⟨placements, findings, yields, grows⟩
      rw [grows.findings, List.map_append, List.pairwise_append]
      refine ⟨yields.pairwise_findings, before, ?_⟩
      intro own new other old
      rcases List.mem_map.mp new with ⟨finding, member, rfl⟩
      rcases List.mem_map.mp old with ⟨known, reported, rfl⟩
      rcases (initial_run_grows earlier).2 known reported with ⟨source, earlier, number⟩
      rw [yields.lineNumber_of_mem_findings member, number]
      exact ascending.lt_last earlier

end Reading

/-! ## What an outcome has at a line -/

namespace Outcome

/-- The nodes that a line has. -/
def nodesAt (outcome : Outcome) (line : Line) : List Entry :=
  outcome.tree.entries.filter fun entry => entry.lineNumber = line.number

/-- The findings about a line. -/
def findingsAt (outcome : Outcome) (line : Line) : List Finding :=
  outcome.findings.filter fun finding => finding.lineNumber = line.number

/-- The findings that tell why a line is not placed. -/
def refusalsAt (outcome : Outcome) (line : Line) : List Finding :=
  (outcome.findingsAt line).filter fun finding => finding.problem.category.isRefusal

theorem filter_front {Item : Type} {keep : Item → Bool} {own after : List Item}
    (inside : ∀ item ∈ own, keep item = true) (outside : ∀ item ∈ after, keep item = false) :
    (own ++ after).filter keep = own := by
  rw [List.filter_append, List.filter_eq_self.mpr inside,
    List.filter_eq_nil_iff.mpr (by simpa using outside), List.append_nil]

theorem filter_middle {Item : Type} {keep : Item → Bool} {before own after : List Item}
    (outsideBefore : ∀ item ∈ before, keep item = false)
    (inside : ∀ item ∈ own, keep item = true)
    (outsideAfter : ∀ item ∈ after, keep item = false) :
    (before ++ own ++ after).filter keep = own := by
  rw [List.append_assoc, List.filter_append, filter_front inside outsideAfter,
    List.filter_eq_nil_iff.mpr (by simpa using outsideBefore), List.nil_append]

/-- An outcome has at a line what the line has yielded. -/
theorem ofLines_at {before after : List Line} {line : Line}
    (ascending : Line.Ascending (before ++ line :: after)) :
    ∃ placements findings,
      (Reading.initial.run before).Yield line placements findings
          (Reading.initial.run (before ++ [line])).recovery ∧
        (ofLines (before ++ line :: after)).nodesAt line = placements.map Placement.child ∧
        (ofLines (before ++ line :: after)).findingsAt line = findings := by
  rcases Reading.step_yields (Reading.initial.run before) line with
    ⟨placements, findings, yields, grows⟩
  rcases Reading.run_grows ((Reading.initial.run before).step line) after with
    ⟨added, reported, grown, nodes, reports⟩
  have known := Reading.initial_run_grows before
  have earlier : ∀ other ∈ before, other.number ≠ line.number :=
    fun other member => (ascending.lt_of_append member List.mem_cons_self).ne
  have later : ∀ other ∈ after, other.number ≠ line.number := by
    intro other member
    rw [List.append_cons] at ascending
    exact (ascending.lt_of_append (by simp) member).ne'
  refine ⟨placements, findings, by simpa using yields, ?_, ?_⟩
  · have root := (Reading.run_faithful _ ascending).root
    have outer : decide (Entry.root.lineNumber = line.number) = false :=
      decide_eq_false (ascending.pos_of_mem (by simp)).ne
    rw [nodesAt, ofLines_tree, Tree.entries_eq_placements [], root, List.filter_cons, outer,
      Reading.run_append, Reading.run_cons, grown.placements, grows.placements, List.map_append,
      List.map_append]
    apply filter_middle
    · intro entry member
      rcases List.mem_map.mp member with ⟨placement, placed, rfl⟩
      rcases known.1 placement placed with ⟨other, old, -, number⟩
      simpa [number] using earlier other old
    · intro entry member
      rcases List.mem_map.mp member with ⟨placement, placed, rfl⟩
      simpa using (yields.lineNumber_of_mem_placements placed).2
    · intro entry member
      rcases List.mem_map.mp member with ⟨placement, placed, rfl⟩
      rcases nodes placement placed with ⟨other, new, -, number⟩
      simpa [number] using later other new
  · rw [findingsAt, ofLines_findings, Reading.run_append, Reading.run_cons, grown.findings,
      grows.findings, List.reverse_append, List.reverse_append, yields.reverse_findings]
    apply filter_middle
    · intro finding member
      rcases known.2 finding (List.mem_reverse.mp member) with ⟨other, old, number⟩
      simpa [number] using earlier other old
    · intro finding member
      simpa using yields.lineNumber_of_mem_findings member
    · intro finding member
      rcases reports finding (List.mem_reverse.mp member) with ⟨other, new, number⟩
      simpa [number] using later other new

end Outcome

end Outline
