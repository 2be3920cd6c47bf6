import Outline.Proofs.Building
import Outline.Proofs.Listing
import Outline.Proofs.Redeclaration

/-!
# Correct documents

A document is correct exactly if its structural lines are the listing of a tree
that the grammar and the indentation admit, no two notes follow each other, and
no variable of a class has the name of the class or of an earlier variable.
There is at most one such tree, and it is the one that is read.

In one direction a run in which no line is rejected has the listing of its lines.
In the other direction the lines of a tree are read just as the tree is built
from its listing.
-/

namespace Outline

namespace Tree

/-- All structural lines are recognised, and the tree that they list is admitted. -/
structure IsOutlineOf (lines : List Line) (tree : Tree) : Prop where
  root : tree.entry = .root
  listing : tree.entries.map some = some .root :: Entry.ofLines none lines
  fits : ∀ placement ∈ tree.placements [], placement.Fits

/-- No variable has the name of its class or of an earlier variable of the class. -/
def NamesAreDistinct (tree : Tree) : Prop :=
  ∀ placement ∈ tree.placements [], placement.isMember = true →
    ∀ rival ∈ placement.rivals, rival.name ≠ placement.child.name

end Tree

namespace Reading

/-- A structural line whose node comes first can be attached, and the rest can be built. -/
theorem first_of_builds {reading : Reading} {line : Line} {text : String} {rest : List Line}
    {entries : List Entry} {final : Position} (grounded : reading.position.Grounded)
    (body : line.body = .structural text)
    (listing : Entry.ofLines reading.pending (line :: rest) = entries.map some)
    (builds : reading.position.Builds entries final) :
    ∃ entry further reached,
      Entry.ofContent? text line.indent line.number reading.pending = some entry ∧
        reading.approach line = .ok reached ∧ reached.admits entry.kind = true ∧
        (reached.place entry).Grounded ∧ Entry.ofLines none rest = further.map some ∧
        (reached.place entry).Builds further final := by
  rw [Entry.ofLines_of_structural body] at listing
  cases builds with
  | nil => simp at listing
  | @cons entry further _ reached _ reaches column admitted later =>
      simp only [List.map_cons, List.cons.injEq] at listing
      rcases listing with ⟨recognised, listing⟩
      have indent := (Entry.ofContent?_eq_some recognised).2.1
      have fits : entry.FitsBelow reached.container := ⟨⟨_, admitted⟩, column.symm⟩
      rw [indent] at reaches column
      exact ⟨entry, further, reached, recognised,
        (approach_eq_ok_iff grounded).mpr ⟨reaches, column⟩, admitted,
        (grounded.reaches reaches).place fits, listing, later⟩

/-- Lines whose nodes can be placed one after the other are read in this way. -/
theorem run_of_builds (lines : List Line) {entries : List Entry} {reading : Reading}
    {final : Position} (grounded : reading.position.Grounded)
    (resumed : reading.recovery = none) (unhindered : reading.Unhindered)
    (listing : Entry.ofLines reading.pending lines = entries.map some)
    (builds : reading.position.Builds entries final) :
    (reading.run lines).position = final ∧ (reading.run lines).Unhindered := by
  -- After each line the nodes that are left can be built from where the reading is.
  induction lines generalizing reading entries with
  | nil =>
      simp only [Entry.ofLines, List.nil_eq, List.map_eq_nil_iff] at listing
      subst entries
      cases builds
      exact ⟨rfl, unhindered⟩
  | cons line rest induction =>
      rw [run, List.foldl_cons]
      have transition := step_transition reading line
      generalize reading.step line = next at transition
      cases transition with
      | silent quiet =>
          rw [Entry.ofLines_of_not_structural (Line.neither_of_silent quiet).1,
            Line.noteAfter_of_silent quiet] at listing
          exact induction grounded resumed unhindered listing builds
      | skipped loud pausing deeper =>
          simp [resumed] at pausing
      | noted events body heard =>
          have other := Line.isStructural_eq_false_of_isNote (Line.isNote_of_body body)
          rw [Entry.ofLines_of_not_structural other, Line.noteAfter, body] at listing
          exact induction grounded rfl (unhindered.note rfl) listing builds
      | rejected events body heard obstacle =>
          rcases first_of_builds grounded body listing builds with
            ⟨entry, further, reached, recognised, approached, admitted, -⟩
          exact absurd admitted (by simp [obstacle.not_placeable approached recognised])
      | @attached text reached entry events body heard approached recognised admitted =>
          rcases first_of_builds grounded body listing builds with
            ⟨node, further, place, known, arrives, -, standing, later, rising⟩
          have same : entry = node := Option.some.inj (recognised.symm.trans known)
          have here : reached = place := Except.ok.inj (approached.symm.trans arrives)
          subst node place
          have position : ((reading.arrived line reached events).attach entry).position =
              reached.place entry := attach_position _ _
          apply induction
          · rw [position]
            exact standing
          · exact attach_recovery _ _
          · exact unhindered.attach line reached events entry
          · rw [attach_pending]
            exact later
          · rw [position]
            exact rising

end Reading

/-! ## Correct documents -/

namespace Outcome

theorem isClean_iff_findings (source : String) :
    (ofSource source).isClean = true ↔
      (Reading.initial.run (Line.ofSource source)).findings = [] := by
  rw [isClean, ofSource, ofLines_findings, List.isEmpty_reverse, List.isEmpty_iff]

/-- A tree that the lines list is read, and no line is rejected. -/
theorem unhindered_of_isOutlineOf {source : String} {tree : Tree}
    (outline : tree.IsOutlineOf (Line.ofSource source)) :
    (ofSource source).tree = tree ∧
      (Reading.initial.run (Line.ofSource source)).Unhindered := by
  rcases Position.exists_builds outline.root outline.fits with ⟨final, builds, same⟩
  have listing : Entry.ofLines none (Line.ofSource source) = tree.entries.tail.map some := by
    rw [List.map_tail, outline.listing]
    rfl
  have start : Reading.initial.Unhindered := by
    intro finding impossible
    simp [Reading.initial] at impossible
  have grounded : Reading.initial.position.Grounded := Position.grounded_initial
  rcases Reading.run_of_builds (Line.ofSource source) grounded rfl start listing builds with
    ⟨position, unhindered⟩
  refine ⟨?_, unhindered⟩
  rw [ofSource, ofLines_tree, position, same]

theorem isOutlineOf_of_unhindered {source : String}
    (unhindered : (Reading.initial.run (Line.ofSource source)).Unhindered) :
    (ofSource source).tree.IsOutlineOf (Line.ofSource source) := by
  have listed := Reading.run_listed _ (Line.ascending_ofSource source) unhindered
  have faithful := ofSource_faithful source
  rw [ofSource, ofLines_tree]
  exact
    { root := faithful.root
      listing := listed.listing
      fits := fun placement member => (faithful.placed placement member).fits }

/-- When no line has been rejected, no variable is cut off from its class. -/
theorem isCutOff_eq_false_of_unhindered {source : String}
    (unhindered : (Reading.initial.run (Line.ofSource source)).Unhindered)
    {placement : Placement} (member : placement ∈ (ofSource source).tree.placements [])
    (isMember : placement.isMember = true) :
    placement.isCutOff (Line.ofSource source) = false := by
  have ascending := Line.ascending_ofSource source
  have traced := Reading.run_traced _ ascending
  have listed := Reading.run_listed _ ascending unhindered
  have faithful := ofSource_faithful source
  rw [ofSource, ofLines_tree] at member
  have sound := faithful.placed placement member
  have inside : placement.child.indent = indentUnit := by
    rw [sound.depth, sound.nested.around_of_classBlock (Placement.isMember_iff.mp isMember).1]
    rfl
  rw [Placement.isCutOff, List.any_eq_false]
  intro line known cutOff
  simp only [Line.cutsOff, Bool.and_eq_true, decide_eq_true_eq] at cutOff
  rcases cutOff with ⟨⟨⟨structural, first⟩, later⟩, before⟩
  -- The line that cuts off has a node, which would stand between the class and the variable.
  rcases Line.exists_text_of_isStructural structural with ⟨text, body⟩
  rcases Entry.exists_mem_ofLines known body none with ⟨note, gives⟩
  have listing := List.mem_cons_of_mem (some Entry.root) gives
  rw [← listed.listing, List.mem_map] at listing
  rcases listing with ⟨entry, placed, recognised⟩
  rcases Entry.ofContent?_eq_some recognised.symm with ⟨-, indent, number, -⟩
  have deeper := (traced.ancestral placement member).nearest entry placed (number ▸ later)
    (number ▸ before)
  rw [inside, indent, first] at deeper
  exact absurd deeper (by decide)

theorem namesAreDistinct_iff {source : String}
    (unhindered : (Reading.initial.run (Line.ofSource source)).Unhindered) :
    (ofSource source).tree.NamesAreDistinct ↔
      ∀ finding ∈ (ofSource source).findings, ∀ name first,
        finding.problem ≠ .alreadyDefined name first := by
  have taken : ∀ placement ∈ (ofSource source).tree.placements [], placement.isMember = true →
      placement.takenAt? (Line.ofSource source) ((ofSource source).tree.placements []) =
        placement.lineOfName? placement.rivals := by
    intro placement member isMember
    simp [Placement.takenAt?, isCutOff_eq_false_of_unhindered unhindered member isMember]
  constructor
  · rintro distinct ⟨lineNumber, problem⟩ member name first rfl
    rcases (alreadyDefined_mem_findings_iff source lineNumber name first).mp member with
      ⟨placement, placed, isMember, -, -, found⟩
    have free := Placement.lineOfName?_eq_none_iff.mpr (distinct placement placed isMember)
    rw [taken placement placed isMember, free] at found
    exact absurd found (by simp)
  · intro silent placement placed isMember
    rw [← Placement.lineOfName?_eq_none_iff, ← taken placement placed isMember,
      Option.eq_none_iff_forall_ne_some]
    intro first found
    exact silent _ ((alreadyDefined_mem_findings_iff source _ _ first).mpr
      ⟨placement, placed, isMember, rfl, rfl, found⟩) _ _ rfl

/-- Nothing is found if no line is rejected, no note is repeated and no name is redeclared. -/
theorem isClean_iff_of_unhindered {source : String}
    (unhindered : (Reading.initial.run (Line.ofSource source)).Unhindered) :
    (ofSource source).isClean = true ↔
      Line.NotesApart (Line.ofSource source) ∧ (ofSource source).tree.NamesAreDistinct := by
  have listed := Reading.run_listed _ (Line.ascending_ofSource source) unhindered
  rw [isClean_iff_findings, ← listed.notes, namesAreDistinct_iff unhindered, ofSource,
    ofLines_findings]
  simp only [List.mem_reverse]
  constructor
  · intro clean
    simp [clean, Reading.NoteFree]
  · rintro ⟨notes, names⟩
    rw [List.eq_nil_iff_forall_not_mem]
    rintro ⟨lineNumber, problem⟩ member
    have semantic := unhindered _ member
    cases problem with
    | repeatedNote => exact notes _ member rfl
    | alreadyDefined name first => exact names _ member name first rfl
    | _ => simp [Problem.category] at semantic

/--
A document is correct exactly if its notes are apart and its structural lines
list a tree that is admitted and has distinct names.  Then this is the only tree
that they list, and the one that is read.
-/
theorem ofSource_isClean_iff (source : String) :
    ((ofSource source).isClean = true ↔
      Line.NotesApart (Line.ofSource source) ∧
        ∃ tree : Tree, tree.IsOutlineOf (Line.ofSource source) ∧ tree.NamesAreDistinct) ∧
      ((ofSource source).isClean = true →
        ∀ tree : Tree,
          tree.IsOutlineOf (Line.ofSource source) ↔ tree = (ofSource source).tree) := by
  have unhindered : (ofSource source).isClean = true →
      (Reading.initial.run (Line.ofSource source)).Unhindered := by
    intro clean finding impossible
    simp [(isClean_iff_findings source).mp clean] at impossible
  refine ⟨⟨?_, ?_⟩, ?_⟩
  · intro clean
    rcases (isClean_iff_of_unhindered (unhindered clean)).mp clean with ⟨apart, distinct⟩
    exact ⟨apart, _, isOutlineOf_of_unhindered (unhindered clean), distinct⟩
  · rintro ⟨apart, tree, outline, distinct⟩
    rcases unhindered_of_isOutlineOf outline with ⟨same, smooth⟩
    exact (isClean_iff_of_unhindered smooth).mpr ⟨apart, same ▸ distinct⟩
  · intro clean tree
    constructor
    · intro outline
      exact (unhindered_of_isOutlineOf outline).1.symm
    · rintro rfl
      exact isOutlineOf_of_unhindered (unhindered clean)

/-- A class with a note on its variable and a function after it. -/
def correct : String :=
  "class: A\n    @ first\n    var: x\n    func: f\n        input: x"

theorem ofSource_isClean_iff_correct :
    (ofSource correct).isClean = true ∧
      (ofSource correct).tree.IsOutlineOf (Line.ofSource correct) := by
  have clean : (ofSource correct).isClean = true := by
    decide +kernel
  exact ⟨clean, ((ofSource_isClean_iff correct).2 clean _).mpr rfl⟩

end Outcome

end Outline
