import Outline.Proofs.Building
import Outline.Proofs.Fate
import Outline.Proofs.Prior
import Outline.Proofs.Rendering

/-!
# Trees that are written down

The tree that is read from a document, however faulty the document is, is the
tree of a document in which no line is rejected and no note is lost: the one that
is got by writing the nodes down in their order, each with its note before it.

The nodes of a tree are placed one after the other when they are read in this
form, since each of them stands where its parent admits it.  What is written is
read as the same lines, since content and notes have been read from lines before.
-/

namespace Outline

/-! ## The written form of a tree -/

/-- The line that the text of a node is written on. -/
def Entry.line (entry : Entry) : Line where
  number := entry.lineNumber
  indent := entry.indent.toNat
  body := .structural entry.content

/-- The line that a note on a node is written on. -/
def Entry.noteLine (entry : Entry) (text : String) : Line where
  number := entry.lineNumber
  indent := entry.indent.toNat
  body := .note text

/-- The lines that a node is written on: its note, if it has one, and its text. -/
def Entry.lines (entry : Entry) : List Line :=
  (entry.note.map entry.noteLine).toList ++ [entry.line]

/-- The lines that a tree is written on, without those of its topmost node. -/
def Tree.lines (tree : Tree) : List Line :=
  tree.entries.tail.flatMap Entry.lines

/-- The document that a tree is written as. -/
def Tree.render (tree : Tree) : String :=
  Line.renderAll tree.lines

/-! ## Reading what is written -/

/-- What a line gives for a node, when the line is read as it is written. -/
structure Entry.IsRead (entry : Entry) : Prop where
  nonneg : 0 ≤ entry.indent
  recognised :
    Entry.ofContent? entry.content entry.indent entry.lineNumber entry.note = some entry

namespace Reading

/-- Nothing has been found but names that are declared twice. -/
def FindsOnlyNames (reading : Reading) : Prop :=
  ∀ finding ∈ reading.findings, ∃ name first, finding.problem = .alreadyDefined name first

variable {reading : Reading} {entry : Entry} {reached : Position}

/-- A line that can be attached is attached. -/
theorem step_of_admitted (resumed : reading.recovery = none) {line : Line} {text : String}
    (body : line.body = .structural text) (approached : reading.approach line = .ok reached)
    (recognised : Entry.ofContent? text line.indent line.number reading.pending = some entry)
    (admitted : reached.admits entry.kind = true) :
    ∃ events, reading.step line = (reading.arrived line reached events).attach entry := by
  rcases step_of_approach body (hears_of_recovery_eq_none resumed line) approached with
    ⟨events, step⟩
  have pending : (reading.arrived line reached events).pending = reading.pending := rfl
  have position : (reading.arrived line reached events).position = reached := rfl
  refine ⟨events, ?_⟩
  rw [step, fill, pending, recognised]
  simp only [position, admitted, if_true]

/-- The lines that a node is written on are read as the node, where it is admitted. -/
theorem run_entry_lines (resumed : reading.recovery = none) (bare : reading.pending = none)
    (read : entry.IsRead) (approached : reading.approach entry.line = .ok reached)
    (admitted : reached.admits entry.kind = true) :
    ∃ events,
      reading.run entry.lines = (reading.arrived entry.line reached events).attach entry := by
  have indent : (entry.line.indent : Int) = entry.indent := Int.toNat_of_nonneg read.nonneg
  have recognised := read.recognised
  cases note : entry.note with
  | none =>
      rw [note, ← bare, ← indent] at recognised
      simp only [Entry.lines, note, Option.map_none, Option.toList_none, List.nil_append,
        run_cons, run_nil]
      exact step_of_admitted resumed rfl approached recognised admitted
  | some text =>
      rw [note, ← indent] at recognised
      simp only [Entry.lines, note, Option.map_some, Option.toList_some, List.singleton_append,
        run_cons, run_nil]
      have body : (entry.noteLine text).body = .note text := rfl
      rcases step_of_note body (hears_of_recovery_eq_none resumed _) with ⟨before, noted⟩
      have unrepeated : reading.repeatedNote (entry.noteLine text) = [] := by
        simp [repeatedNote, bare]
      rw [noted, unrepeated, List.nil_append]
      -- The node takes the note that waits, so nothing but the events is left of its line.
      exact @step_of_admitted
        { reading with pending := some text, events := before, recovery := none }
        entry reached rfl entry.line entry.content rfl approached recognised admitted

/-- The nodes of a tree are read from what they are written on. -/
theorem run_lines_of_builds (entries : List Entry) {final : Position}
    (grounded : reading.position.Grounded) (resumed : reading.recovery = none)
    (bare : reading.pending = none) (names : reading.FindsOnlyNames)
    (read : ∀ entry ∈ entries, entry.IsRead) (builds : reading.position.Builds entries final) :
    (reading.run (entries.flatMap Entry.lines)).position = final ∧
      (reading.run (entries.flatMap Entry.lines)).FindsOnlyNames := by
  induction entries generalizing reading with
  | nil =>
      cases builds
      exact ⟨rfl, names⟩
  | cons entry rest induction =>
      cases builds with
      | @cons _ _ _ reached _ reaches column admitted later =>
          have indent : (entry.line.indent : Int) = entry.indent :=
            Int.toNat_of_nonneg (read entry List.mem_cons_self).nonneg
          have approached : reading.approach entry.line = .ok reached := by
            rw [approach_eq_ok_iff grounded, indent]
            exact ⟨reaches, column⟩
          rcases run_entry_lines resumed bare (read entry List.mem_cons_self) approached admitted
            with ⟨events, attached⟩
          rw [List.flatMap_cons, run_append, attached]
          apply induction
          · rw [attach_position]
            exact (grounded.reaches reaches).place ⟨⟨_, admitted⟩, column.symm⟩
          · exact attach_recovery _ _
          · exact attach_pending _ _
          · intro finding member
            rcases attach_findings (reading.arrived entry.line reached events) entry with
              ⟨added, findings, collisions⟩
            rw [findings, List.mem_append] at member
            exact member.elim (collisions finding) (names finding)
          · exact fun other member => read other (List.mem_cons_of_mem _ member)
          · rw [attach_position]
            exact later

end Reading

/-! ## What has been read -/

/-- A note has been read from one of the lines, if there is one. -/
def Line.HaveNote (lines : List Line) (note : Option String) : Prop :=
  ∀ text ∈ note, ∃ line ∈ lines, line.body = .note text

theorem Line.HaveNote.append {lines : List Line} {note : Option String}
    (known : Line.HaveNote lines note) (further : List Line) :
    Line.HaveNote (lines ++ further) note := by
  intro text member
  rcases known text member with ⟨line, early, body⟩
  exact ⟨line, List.mem_append_left _ early, body⟩

namespace Reading

/-- The note that waits and those of the nodes have been read from lines. -/
structure Annotated (lines : List Line) (reading : Reading) : Prop where
  pending : Line.HaveNote lines reading.pending
  entries : ∀ entry ∈ reading.position.toTree.entries, Line.HaveNote lines entry.note

theorem annotated_initial : Reading.initial.Annotated [] where
  pending := by
    simp [initial, Line.HaveNote]
  entries := by
    have start : initial.position.toTree.entries = [.root] := Position.initial_entries
    simp [start, Line.HaveNote, Entry.root]

theorem Annotated.append {lines : List Line} {reading : Reading}
    (annotated : reading.Annotated lines) (further : List Line) :
    reading.Annotated (lines ++ further) where
  pending := annotated.pending.append further
  entries := fun entry member => (annotated.entries entry member).append further

theorem Transition.annotated {earlier : List Line} {line : Line} {reading next : Reading}
    (annotated : reading.Annotated earlier) (transition : Transition reading line next) :
    next.Annotated (earlier ++ [line]) := by
  have before := annotated.append [line]
  cases transition with
  | silent quiet => exact before
  | skipped loud pausing deeper => exact before
  | @noted text events body heard =>
      refine ⟨?_, before.entries⟩
      intro other same
      rw [Option.mem_some_iff] at same
      exact ⟨line, by simp, same ▸ body⟩
  | @rejected text reached problem events body heard obstacle =>
      refine ⟨before.pending, ?_⟩
      show ∀ entry ∈ reached.toTree.entries, _
      rw [obstacle.reaches.toTree_eq]
      exact before.entries
  | @attached text reached entry events body heard approached recognised admitted =>
      have noted := (Entry.ofContent?_eq_some recognised).2.2.2
      constructor
      · simp [Line.HaveNote]
      · rw [attach_position, Position.entries_place]
        show ∀ other ∈ reached.toTree.entries ++ [entry], _
        rw [(reaches_of_approach approached).toTree_eq]
        intro other member
        rcases List.mem_append.mp member with old | new
        · exact before.entries other old
        · rw [List.mem_singleton.mp new, noted]
          exact before.pending

theorem run_annotated (lines : List Line) (ascending : Line.Ascending lines) :
    (initial.run lines).Annotated lines := by
  refine run_induction (fun lines reading => reading.Annotated lines) annotated_initial ?_ lines
    ascending
  intro earlier line reading next ascending annotated transition
  exact transition.annotated annotated

end Reading

/-! ## The tree of a document -/

namespace Outcome

variable {source : String} {entry : Entry}

/-- Every node below the root has been read from a line. -/
theorem exists_placement_of_mem_tail (member : entry ∈ (ofSource source).tree.entries.tail) :
    ∃ placement ∈ (ofSource source).tree.placements [], placement.child = entry ∧
      placement.IsSound (Line.ofSource source) := by
  have faithful := ofSource_faithful source
  rw [ofSource, ofLines_tree] at member ⊢
  rw [faithful.entries_eq, List.tail_cons, List.mem_map] at member
  rcases member with ⟨placement, placed, same⟩
  exact ⟨placement, placed, same, faithful.placed placement placed⟩

theorem isRead_of_mem_tail (member : entry ∈ (ofSource source).tree.entries.tail) :
    entry.IsRead := by
  rcases exists_placement_of_mem_tail member with ⟨placement, -, rfl, sound⟩
  rcases sound.recorded with ⟨line, -, text, -, -, recognised⟩
  rcases Entry.ofContent?_eq_some recognised with ⟨content, indent, lineNumber, -⟩
  rw [← content, ← indent, ← lineNumber] at recognised
  exact ⟨indent ▸ Int.natCast_nonneg _, recognised⟩

/-- What the nodes of a document are written on has been read from its lines. -/
theorem exists_body_of_mem_lines (member : entry ∈ (ofSource source).tree.entries.tail)
    {line : Line} (written : line ∈ entry.lines) :
    ∃ origin ∈ Line.ofSource source, origin.body = line.body := by
  have annotated := Reading.run_annotated _ (Line.ascending_ofSource source)
  rcases List.mem_append.mp written with noted | text
  · rw [ofSource, ofLines_tree] at member
    rw [Option.mem_toList, Option.map_eq_some_iff] at noted
    rcases noted with ⟨note, known, rfl⟩
    exact annotated.entries entry (List.mem_of_mem_tail member) note known
  · rw [List.mem_singleton.mp text]
    rcases exists_placement_of_mem_tail member with ⟨placement, -, rfl, sound⟩
    rcases sound.recorded with ⟨origin, known, content, body, -, recognised⟩
    refine ⟨origin, known, ?_⟩
    rw [body, ← (Entry.ofContent?_eq_some recognised).1]
    rfl

/-- A written tree is read as the lines that it is written on. -/
theorem ofSource_render_lines (source : String) :
    (Line.ofSource (ofSource source).tree.render).map Line.unnumbered =
      (ofSource source).tree.lines.map Line.unnumbered := by
  apply Line.ofSource_renderAll
  intro line member
  rcases List.mem_flatMap.mp member with ⟨entry, node, written⟩
  rcases exists_body_of_mem_lines node written with ⟨origin, known, body⟩
  exact body ▸ Line.isWritten_of_mem_ofSource known

/-- The lines that a tree is written on give the tree, and nothing is wrong but names. -/
theorem run_lines_tree (source : String) :
    (Reading.initial.run (ofSource source).tree.lines).position.toTree = (ofSource source).tree ∧
      (Reading.initial.run (ofSource source).tree.lines).FindsOnlyNames := by
  rcases ofSource_tree_isSound source with ⟨-, -, sound⟩
  have root : (ofSource source).tree.entry = .root := by
    rw [ofSource, ofLines_tree]
    exact (ofSource_faithful source).root
  rcases Position.exists_builds root fun placement member => (sound placement member).fits with
    ⟨final, builds, same⟩
  have none : Reading.initial.FindsOnlyNames := by
    intro finding impossible
    simp [Reading.initial] at impossible
  have grounded : Reading.initial.position.Grounded := Position.grounded_initial
  rcases Reading.run_lines_of_builds _ grounded rfl rfl none
    (fun entry member => isRead_of_mem_tail member) builds with ⟨position, names⟩
  exact ⟨by rw [Tree.lines, position, same], names⟩

/-- Up to the numbers of lines, a written tree has the outcome of what it is written on. -/
theorem ofSource_render_renumber (source : String) :
    (ofSource (ofSource source).tree.render).renumber (fun _ => 0) =
      (ofLines (ofSource source).tree.lines).renumber fun _ => 0 := by
  have lines := ofSource_render_lines source
  rw [ofSource, ← ofLines_renumber rfl, ← ofLines_renumber rfl]
  exact congrArg ofLines lines

/--
The tree of every document, however faulty the document is, is written as a
document of its own.  Up to the numbers of the lines the tree of that document
is the same, and all that is found in it are names that are declared twice.
-/
theorem ofSource_render_tree (source : String) :
    (ofSource (ofSource source).tree.render).tree.unnumbered =
        (ofSource source).tree.unnumbered ∧
      ∀ finding ∈ (ofSource (ofSource source).tree.render).findings,
        ∃ name first, finding.problem = .alreadyDefined name first := by
  rcases run_lines_tree source with ⟨same, names⟩
  have outcome := ofSource_render_renumber source
  constructor
  · have trees := congrArg Outcome.tree outcome
    simp only [renumber, ofLines_tree, same] at trees
    exact trees
  · intro finding member
    have findings := congrArg Outcome.findings outcome
    have moved := List.mem_map_of_mem (f := Finding.renumber fun _ => 0) member
    simp only [renumber] at findings
    rw [findings, ofLines_findings, List.mem_map] at moved
    rcases moved with ⟨known, reported, problems⟩
    rcases names known (List.mem_reverse.mp reported) with ⟨name, first, collision⟩
    have problem := congrArg Finding.problem problems
    simp only [Finding.renumber, collision, Problem.renumber] at problem
    cases here : finding.problem <;> simp [here] at problem
    exact ⟨_, _, rfl⟩

/-- The line that is rejected and the note that is replaced are not written. -/
example :
    (ofSource "class: A\n    bogus: y\n @ first\n@ second\n\tvar: x").tree.render =
      "class: A\n    @second\n    var: x\n" := by
  decide +kernel

end Outcome

end Outline
