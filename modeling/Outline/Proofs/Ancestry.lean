import Outline.Proofs.Soundness

/-!
# Parents by indentation

The parent of a node is the node of the last attached line before it that is
indented less.  Lines that were rejected or passed over count as well, with one
exception: a recovery may end at a note, and the line after the note may then
enter a block again that a rejected line had interrupted.

`Guarded` says that this is the only way: after a line that interrupts a block,
a note no deeper than the block has come.  It holds of all open blocks, and of
the child that a deeper line would enter unless the reading is still recovering.
-/

namespace Outline

/--
The line is the last structural one before a node that is indented less than
the node.
-/
structure Line.IsOuterOf (lines : List Line) (outer : Line) (entry : Entry) : Prop where
  member : outer ∈ lines
  structural : outer.isStructural = true
  before : outer.number < entry.lineNumber
  shallower : outer.indent < entry.indent
  nearest : ∀ other ∈ lines, other.isStructural = true → outer.number < other.number →
    other.number < entry.lineNumber → entry.indent ≤ other.indent

/-- Whether each node stands below the root or below its outer line, whatever came of that line. -/
def Tree.FollowsIndentation (lines : List Line) (tree : Tree) : Prop :=
  ∀ placement ∈ tree.placements [],
    (placement.child.indent = 0 → placement.parent = .root) ∧
      (placement.child.indent ≠ 0 → ∃ outer, Line.IsOuterOf lines outer placement.child ∧
        outer.number = placement.parent.lineNumber)

/-! ## Guarded blocks -/

/-- A line that lies outside a block is followed by a note that is no deeper than the block. -/
def Entry.Guarded (lines : List Line) (entry : Entry) : Prop :=
  ∀ line ∈ lines, line.isStructural = true → entry.lineNumber < line.number →
    line.indent < entry.bodyIndent →
      ∃ note ∈ lines, note.isNote = true ∧ line.number < note.number ∧ note.indent ≤ entry.indent

namespace Entry.Guarded

variable {lines : List Line} {entry : Entry}

/-- A further line that does not interrupt the block keeps it guarded. -/
theorem extend (guarded : entry.Guarded lines) {line : Line}
    (harmless : line.isStructural = true → entry.lineNumber < line.number →
      entry.bodyIndent ≤ line.indent) :
    entry.Guarded (lines ++ [line]) := by
  intro other member structural later shallower
  rcases List.mem_append.mp member with old | last
  · rcases guarded other old structural later shallower with ⟨note, noted, facts⟩
    exact ⟨note, List.mem_append_left _ noted, facts⟩
  · rw [List.mem_singleton.mp last] at structural later shallower
    exact absurd (harmless structural later) (not_le.mpr shallower)

/-- A note that is no deeper than the block guards it from all lines before. -/
theorem of_note {note : Line} (ascending : Line.Ascending (lines ++ [note]))
    (noted : note.isNote = true) (outer : (note.indent : Int) ≤ entry.indent) :
    entry.Guarded (lines ++ [note]) := by
  intro line member structural later shallower
  rcases List.mem_append.mp member with old | last
  · exact ⟨note, by simp, noted, ascending.lt_last old, outer⟩
  · rw [List.mem_singleton.mp last, Line.isStructural_eq_false_of_isNote noted] at structural
    exact absurd structural Bool.false_ne_true

/-- All lines up to the one of a node lie before it. -/
theorem of_last {line : Line} (ascending : Line.Ascending (lines ++ [line]))
    (last : entry.lineNumber = line.number) :
    entry.Guarded (lines ++ [line]) := by
  intro other member structural later shallower
  rcases List.mem_append.mp member with old | same
  · have before := ascending.lt_last old
    omega
  · rw [List.mem_singleton.mp same] at later
    omega

end Entry.Guarded

/-- Moving to where a line is tried keeps the open blocks guarded. -/
theorem Position.Reaches.guarded {lines : List Line} {indent : Int}
    {position reached : Position} (reaches : position.Reaches indent reached)
    (path : ∀ entry ∈ position.path, entry.Guarded lines)
    (latest : position.column < indent →
      ∀ child, position.latest = some child → child.entry.Guarded lines) :
    ∀ entry ∈ reached.path, entry.Guarded lines := by
  induction reaches with
  | stay => exact path
  | @leave position reached parent further enclosing outside later induction =>
      apply induction
      · intro entry member
        apply path
        simp only [Position.path, around, enclosing, List.map_cons, List.mem_cons]
        exact .inr (List.mem_cons.mp member)
      · intro deeper child closed
        simp only [leaveBlock, Option.some.injEq] at closed
        subst child
        exact path _ List.mem_cons_self
  | @enter position child known container deeper aligned =>
      intro entry member
      rcases List.mem_cons.mp member with rfl | outer
      · exact latest deeper child known
      · exact path entry outer

/-! ## The invariant -/

/-- A placement by indentation, with the one exception. -/
structure Placement.IsAncestral (lines : List Line) (entries : List Entry)
    (placement : Placement) : Prop where
  onTree : placement.parent ∈ entries
  before : placement.parent.lineNumber < placement.child.lineNumber
  nearest : ∀ other ∈ entries, placement.parent.lineNumber < other.lineNumber →
    other.lineNumber < placement.child.lineNumber → placement.child.indent ≤ other.indent
  guarded : ∀ line ∈ lines, line.isStructural = true →
    placement.parent.lineNumber < line.number → line.number < placement.child.lineNumber →
    line.indent < placement.child.indent →
      ∃ note ∈ lines, note.isNote = true ∧ line.number < note.number ∧
        note.number < placement.child.lineNumber ∧ note.indent ≤ placement.parent.indent

/-- Lines and nodes that come after a node say nothing about its placement. -/
theorem Placement.IsAncestral.extend {lines : List Line} {entries : List Entry}
    {placement : Placement} (ancestral : placement.IsAncestral lines entries) {line : Line}
    (later : placement.child.lineNumber < line.number) (added : List Entry)
    (laterAdded : ∀ entry ∈ added, placement.child.lineNumber < entry.lineNumber) :
    placement.IsAncestral (lines ++ [line]) (entries ++ added) where
  onTree := List.mem_append_left _ ancestral.onTree
  before := ancestral.before
  nearest := by
    intro other member above below
    rcases List.mem_append.mp member with old | new
    · exact ancestral.nearest other old above below
    · exact absurd below (laterAdded other new).not_gt
  guarded := by
    intro other member structural above below shallower
    rcases List.mem_append.mp member with old | last
    · rcases ancestral.guarded other old structural above below shallower with
        ⟨note, noted, facts⟩
      exact ⟨note, List.mem_append_left _ noted, facts⟩
    · rw [List.mem_singleton.mp last] at below
      exact absurd below later.not_gt

namespace Reading

/-- What a reading knows about the lines that its open blocks have been interrupted by. -/
structure Traced (lines : List Line) (reading : Reading) : Prop where
  onTree : reading.position.spine ⊆ reading.position.toTree.entries
  covered : ∀ entry ∈ reading.position.spine, ∀ other ∈ reading.position.toTree.entries,
    entry.lineNumber < other.lineNumber → entry.bodyIndent ≤ other.indent
  path : ∀ entry ∈ reading.position.path, entry.Guarded lines
  latest : ∀ child, reading.position.latest = some child →
    child.entry.Guarded lines ∨
      ∃ recovery, reading.recovery = some recovery ∧ recovery.column ≤ child.entry.indent
  recovery : ∀ recovery, reading.recovery = some recovery →
    recovery.column = reading.position.column
  ancestral : ∀ placement ∈ reading.position.toTree.placements [],
    placement.IsAncestral lines reading.position.toTree.entries

theorem traced_initial : Reading.initial.Traced [] := by
  have spine : Reading.initial.position.spine = [.root] := rfl
  have entries : Reading.initial.position.toTree.entries = [.root] := Position.initial_entries
  refine ⟨?_, ?_, ?_, ?_, ?_, ?_⟩
  · rw [spine, entries]
    exact List.Subset.refl _
  · rw [spine, entries]
    intro entry member other placed later
    rw [List.mem_singleton.mp member, List.mem_singleton.mp placed] at later
    exact absurd later (lt_irrefl _)
  · intro entry member line impossible
    simp at impossible
  · intro child impossible
    simp [initial, Position.initial] at impossible
  · intro recovery impossible
    simp [initial] at impossible
  · intro placement impossible
    simp [initial, Position.initial_placements] at impossible

namespace Traced

variable {lines : List Line} {line : Line} {reading : Reading}

theorem ancestral_extend (traced : reading.Traced lines)
    (faithful : reading.position.Faithful lines)
    (ascending : Line.Ascending (lines ++ [line])) :
    ∀ placement ∈ reading.position.toTree.placements [],
      placement.IsAncestral (lines ++ [line]) reading.position.toTree.entries := by
  intro placement member
  have later := faithful.lineNumber_lt ascending (faithful.child_mem member)
  simpa using (traced.ancestral placement member).extend later [] (by simp)

/-- A line that is not read, or says nothing about the outline, interrupts no open block. -/
theorem wait (traced : reading.Traced lines) (faithful : reading.position.Faithful lines)
    (ascending : Line.Ascending (lines ++ [line]))
    (harmless : line.isStructural = true →
      ∃ recovery, reading.recovery = some recovery ∧ recovery.column < line.indent) :
    reading.Traced (lines ++ [line]) where
  onTree := traced.onTree
  covered := traced.covered
  path := by
    intro entry member
    apply (traced.path entry member).extend
    intro structural later
    rcases harmless structural with ⟨recovery, pausing, deeper⟩
    rw [traced.recovery recovery pausing] at deeper
    exact (faithful.grounded.bodyIndent_le member).trans deeper.le
  latest := by
    intro child known
    rcases traced.latest child known with guarded | waiting
    · by_cases structural : line.isStructural = true
      · rcases harmless structural with ⟨recovery, pausing, deeper⟩
        refine .inr ⟨recovery, pausing, ?_⟩
        rw [traced.recovery recovery pausing, faithful.grounded.latest_indent known]
      · exact .inl (guarded.extend fun contrary => absurd contrary structural)
    · exact .inr waiting
  recovery := traced.recovery
  ancestral := traced.ancestral_extend faithful ascending

/-- A note that is read guards the latest child if a line has interrupted it. -/
theorem note (traced : reading.Traced lines) (faithful : reading.position.Faithful lines)
    (ascending : Line.Ascending (lines ++ [line])) (heard : reading.Hears line)
    (noted : line.isNote = true) {next : Reading} (position : next.position = reading.position)
    (resumed : next.recovery = none) :
    next.Traced (lines ++ [line]) where
  onTree := position ▸ traced.onTree
  covered := position ▸ traced.covered
  path := by
    rw [position]
    intro entry member
    apply (traced.path entry member).extend
    intro structural
    exact absurd (Line.isStructural_eq_false_of_isNote noted) (by simp [structural])
  latest := by
    rw [position]
    intro child known
    left
    rcases traced.latest child known with guarded | ⟨recovery, pausing, inner⟩
    · apply guarded.extend
      intro structural
      exact absurd (Line.isStructural_eq_false_of_isNote noted) (by simp [structural])
    · exact .of_note ascending noted ((heard recovery pausing).trans inner)
  recovery := by
    intro recovery impossible
    simp [resumed] at impossible
  ancestral := position ▸ traced.ancestral_extend faithful ascending

/-- The blocks that are open where a line is tried are guarded, and the line is inside them. -/
theorem path_reached (traced : reading.Traced lines) (faithful : reading.position.Faithful lines)
    (heard : reading.Hears line) {reached : Position}
    (reaches : reading.position.Reaches line.indent reached) :
    ∀ entry ∈ reached.path, entry.Guarded (lines ++ [line]) := by
  have guarded : ∀ entry ∈ reached.path, entry.Guarded lines := by
    apply reaches.guarded traced.path
    intro deeper child known
    rcases traced.latest child known with guarded | ⟨recovery, pausing, inner⟩
    · exact guarded
    -- A line that ends the recovery is not deep enough to enter the child.
    · have column := faithful.grounded.latest_indent known
      have shallow := heard recovery pausing
      omega
  intro entry member
  apply (guarded entry member).extend
  intro structural later
  have inner := (faithful.grounded.reaches reaches).bodyIndent_le member
  exact inner.trans (reaches.column_le faithful.grounded (Int.natCast_nonneg _))

theorem reject (traced : reading.Traced lines) (faithful : reading.position.Faithful lines)
    (ascending : Line.Ascending (lines ++ [line])) (heard : reading.Hears line)
    {reached : Position} (reaches : reading.position.Reaches line.indent reached)
    {next : Reading} (position : next.position = reached)
    (recovery : next.recovery = some ⟨line.number, reached.column⟩) :
    next.Traced (lines ++ [line]) where
  onTree := by
    rw [position, reaches.toTree_eq]
    exact List.Subset.trans reaches.spine_subset traced.onTree
  covered := by
    rw [position, reaches.toTree_eq]
    exact fun entry member => traced.covered entry (reaches.spine_subset member)
  path := position ▸ traced.path_reached faithful heard reaches
  latest := by
    intro child known
    rw [position] at known
    have column := (faithful.grounded.reaches reaches).latest_indent known
    exact .inr ⟨_, recovery, column.ge⟩
  recovery := by
    intro other pausing
    rw [recovery, Option.some.injEq] at pausing
    rw [← pausing, position]
  ancestral := by
    rw [position, reaches.toTree_eq]
    exact traced.ancestral_extend faithful ascending

/-- The new node stands below the innermost block by indentation. -/
theorem placement_isAncestral {reached : Position} {entry : Entry} (traced : reading.Traced lines)
    (arrival : Arrival lines reading line reached entry) (heard : reading.Hears line) :
    (reached.placement entry).IsAncestral (lines ++ [line])
      (reading.position.toTree.entries ++ [entry]) := by
  have onPath : reached.container ∈ reached.path := List.mem_cons_self
  have onSpine : reached.container ∈ reading.position.spine :=
    arrival.reaches.spine_subset (reached.path_subset_spine onPath)
  refine ⟨?_, ?_, ?_, ?_⟩
  · exact List.mem_append_left _ (traced.onTree onSpine)
  · exact arrival.lineNumber_lt (traced.onTree onSpine)
  · intro other placed above below
    rcases List.mem_append.mp placed with old | last
    · exact arrival.aligned.trans_le (traced.covered _ onSpine other old above)
    · rw [List.mem_singleton.mp last] at below
      exact absurd below (lt_irrefl _)
  · intro other known text above below shallower
    have inside : (other.indent : Int) < reached.container.bodyIndent :=
      shallower.trans_eq arrival.aligned
    rcases traced.path_reached arrival.faithful heard arrival.reaches _ onPath other known text
      above inside with ⟨note, noted, isNote, later, outer⟩
    refine ⟨note, noted, isNote, later, ?_, outer⟩
    rcases List.mem_append.mp noted with old | last
    · exact (arrival.ascending.lt_last old).trans_eq arrival.lineNumber.symm
    · rw [List.mem_singleton.mp last] at isNote
      exact absurd (Line.isStructural_eq_false_of_isNote isNote) (by simp [arrival.structural])

theorem attach {reached : Position} {entry : Entry} (traced : reading.Traced lines)
    (arrival : Arrival lines reading line reached entry) (heard : reading.Hears line)
    {next : Reading} (position : next.position = reached.place entry)
    (resumed : next.recovery = none) :
    next.Traced (lines ++ [line]) := by
  have onSpine : reached.path ⊆ reading.position.spine := fun other member =>
    arrival.reaches.spine_subset (reached.path_subset_spine member)
  refine ⟨?_, ?_, ?_, ?_, ?_, ?_⟩
  · rw [position, Position.spine_place, arrival.entries_eq]
    intro other member
    rcases List.mem_cons.mp member with rfl | opened
    · simp
    · exact List.mem_append_left _ (traced.onTree (onSpine opened))
  · rw [position, Position.spine_place, arrival.entries_eq]
    intro block member other placed later
    rcases List.mem_cons.mp member with rfl | opened <;>
      rcases List.mem_append.mp placed with old | new
    · exact absurd later (arrival.lineNumber_lt old).not_gt
    · rw [List.mem_singleton.mp new] at later
      exact absurd later (lt_irrefl _)
    · exact traced.covered block (onSpine opened) other old later
    · rw [List.mem_singleton.mp new, arrival.aligned]
      exact arrival.grounded.bodyIndent_le opened
  · rw [position, Position.path_place]
    exact traced.path_reached arrival.faithful heard arrival.reaches
  · intro child known
    simp only [position, Position.place, Option.some.injEq] at known
    subst child
    exact .inl (.of_last arrival.ascending arrival.lineNumber)
  · intro recovery impossible
    simp [resumed] at impossible
  · rw [position, arrival.placements_eq, arrival.entries_eq]
    intro placement member
    rcases List.mem_append.mp member with old | new
    · have placed := arrival.faithful.child_mem old
      apply (traced.ancestral placement old).extend
        (arrival.faithful.lineNumber_lt arrival.ascending placed)
      intro other last
      rw [List.mem_singleton.mp last]
      exact arrival.lineNumber_lt placed
    · rw [List.mem_singleton.mp new]
      exact traced.placement_isAncestral arrival heard

end Traced

theorem Transition.traced {earlier : List Line} {line : Line} {reading next : Reading}
    (ascending : Line.Ascending (earlier ++ [line]))
    (faithful : reading.position.Faithful earlier) (traced : reading.Traced earlier)
    (transition : Transition reading line next) :
    next.Traced (earlier ++ [line]) := by
  cases transition with
  | silent quiet =>
      apply traced.wait faithful ascending
      intro structural
      simp [(Line.neither_of_silent quiet).1] at structural
  | skipped loud pausing deeper =>
      exact traced.wait faithful ascending fun _ => ⟨_, pausing, deeper⟩
  | noted events body heard =>
      exact traced.note faithful ascending heard (Line.isNote_of_body body) rfl rfl
  | rejected events body heard obstacle =>
      exact traced.reject faithful ascending heard obstacle.reaches rfl rfl
  | attached events body heard approached recognised admitted =>
      have arrival := Arrival.of_approach faithful ascending body approached recognised admitted
      exact traced.attach arrival heard (attach_position _ _) (attach_recovery _ _)

theorem run_traced (lines : List Line) (ascending : Line.Ascending lines) :
    (Reading.initial.run lines).Traced lines := by
  refine faithful_induction (fun lines reading => reading.Traced lines) traced_initial ?_ lines
    ascending
  intro earlier line reading next ascending faithful traced transition
  exact transition.traced ascending faithful traced

end Reading

/-! ## Outer lines -/

/-- An outer line after the parent of a node has not been attached. -/
theorem Placement.IsAncestral.outer_unattached {lines : List Line} {position : Position}
    {placement : Placement} {outer : Line}
    (ancestral : placement.IsAncestral lines position.toTree.entries)
    (faithful : position.Faithful lines) (ascending : Line.Ascending lines)
    (isOuter : Line.IsOuterOf lines outer placement.child)
    (later : placement.parent.lineNumber < outer.number) :
    ∀ other ∈ position.toTree.entries, other.lineNumber ≠ outer.number := by
  intro other member same
  have deeper := ancestral.nearest other member (same ▸ later) (same ▸ isOuter.before)
  rcases faithful.lineNumber_mem member with rfl | ⟨line, known, -, number, indent⟩
  · have positive := (List.pairwise_cons.mp ascending).1 _
      (List.mem_map_of_mem isOuter.member)
    exact absurd same positive.ne
  · have lineEqual := ascending.eq_of_number_eq known isOuter.member (number.trans same)
    rw [← indent, lineEqual] at deeper
    exact absurd isOuter.shallower deeper.not_gt

/-- A node with a line before it that is indented less has an outer line. -/
theorem Line.exists_isOuterOf {lines : List Line} (ascending : Line.Ascending lines)
    {entry : Entry} {line : Line} (member : line ∈ lines)
    (structural : line.isStructural = true) (before : line.number < entry.lineNumber)
    (shallower : line.indent < entry.indent) :
    ∃ outer, Line.IsOuterOf lines outer entry := by
  induction lines using List.reverseRecOn with
  | nil => simp at member
  | append_singleton earlier last induction =>
      by_cases candidate : last.isStructural = true ∧ last.number < entry.lineNumber ∧
          last.indent < entry.indent
      · refine ⟨last, by simp, candidate.1, candidate.2.1, candidate.2.2, ?_⟩
        intro other known text above below
        rcases List.mem_append.mp known with old | same
        · exact absurd above (ascending.lt_last old).not_gt
        · rw [List.mem_singleton.mp same] at above
          exact absurd above (lt_irrefl _)
      · have old : line ∈ earlier := by
          rcases List.mem_append.mp member with old | same
          · exact old
          · rw [List.mem_singleton.mp same] at structural before shallower
            exact absurd ⟨structural, before, shallower⟩ candidate
        rcases induction ascending.init old with ⟨outer, isOuter⟩
        refine ⟨outer, List.mem_append_left _ isOuter.member, isOuter.structural, isOuter.before,
          isOuter.shallower, ?_⟩
        intro other known text above below
        rcases List.mem_append.mp known with old | same
        · exact isOuter.nearest other old text above below
        · rw [List.mem_singleton.mp same] at text below ⊢
          exact not_lt.mp fun deeper => candidate ⟨text, below, deeper⟩

namespace Outcome

/--
The parent of every node is the root, or it is the node of the last attached
line that is indented less.  That line is the outer line of the node, unless the
outer line has no node and a note that is no deeper than the parent stands
between the outer line and the node.
-/
theorem ofSource_parent_isNearest (source : String) :
    ∀ placement ∈ (ofSource source).tree.placements [],
      (placement.child.indent = 0 → placement.parent = .root) ∧
        placement.parent.indent < placement.child.indent ∧
        placement.parent.lineNumber < placement.child.lineNumber ∧
        (∀ other ∈ (ofSource source).tree.entries,
          placement.parent.lineNumber < other.lineNumber →
          other.lineNumber < placement.child.lineNumber →
            placement.child.indent ≤ other.indent) ∧
        (placement.child.indent ≠ 0 →
          ∃ outer, Line.IsOuterOf (Line.ofSource source) outer placement.child ∧
            (outer.number = placement.parent.lineNumber ∨
              (∀ other ∈ (ofSource source).tree.entries, other.lineNumber ≠ outer.number) ∧
                ∃ note ∈ Line.ofSource source, note.isNote = true ∧
                  outer.number < note.number ∧ note.number < placement.child.lineNumber ∧
                  note.indent ≤ placement.parent.indent)) := by
  have ascending := Line.ascending_ofSource source
  have faithful := ofSource_faithful source
  have traced := Reading.run_traced _ ascending
  rw [ofSource, ofLines_tree]
  intro placement member
  have sound := faithful.placed placement member
  have ancestral := traced.ancestral placement member
  have shallower : placement.parent.indent < placement.child.indent := by
    rw [sound.aligned]
    exact sound.nested.indent_lt_bodyIndent
  refine ⟨?_, shallower, ancestral.before, ancestral.nearest, ?_⟩
  · intro outermost
    have depth := sound.depth
    rw [outermost] at depth
    have around : placement.around = [] := by
      simpa [indentUnit] using depth
    exact (around ▸ sound.nested).eq_root
  · intro inner
    rcases faithful.lineNumber_mem ancestral.onTree with root | ⟨line, known, text, number, indent⟩
    · exact absurd (sound.aligned.trans (root ▸ Entry.bodyIndent_root)) inner
    · have before : line.number < placement.child.lineNumber := number ▸ ancestral.before
      have outside : line.indent < placement.child.indent := indent ▸ shallower
      rcases Line.exists_isOuterOf ascending known text before outside with ⟨outer, isOuter⟩
      refine ⟨outer, isOuter, ?_⟩
      rcases lt_trichotomy outer.number placement.parent.lineNumber with earlier | same | later
      · have nested := isOuter.nearest line known text (number ▸ earlier) before
        exact absurd outside nested.not_gt
      · exact .inl same
      · exact .inr ⟨ancestral.outer_unattached faithful ascending isOuter later,
          ancestral.guarded outer isOuter.member isOuter.structural later isOuter.before
            isOuter.shallower⟩

/--
A function is followed by a line that is rejected, by a note in the same column,
and by a line that belongs to the rejected one.
-/
def interrupted : String :=
  "class: A\n    func: f\n        input: a\n    bogus: y\n    @ note\n        input: z"

/-- The last node of the interrupted document, which has entered the function again. -/
def interruptedInput : Placement where
  parent :=
    { kind := .function, content := "func: f", indent := 4, lineNumber := 2, name := "f" }
  around :=
    [{ kind := .classBlock, content := "class: A", indent := 0, lineNumber := 1, name := "A" },
      .root]
  earlier := [{ kind := .input, content := "input: a", indent := 8, lineNumber := 3 }]
  child :=
    { kind := .input, content := "input: z", indent := 8, lineNumber := 6, note := some "note" }

theorem ofSource_parent_isNearest_interrupted :
    interruptedInput ∈ (ofSource interrupted).tree.placements [] ∧
      ∃ outer, Line.IsOuterOf (Line.ofSource interrupted) outer interruptedInput.child ∧
        (outer.number = 2 ∨
          (∀ other ∈ (ofSource interrupted).tree.entries, other.lineNumber ≠ outer.number) ∧
            ∃ note ∈ Line.ofSource interrupted, note.isNote = true ∧
              outer.number < note.number ∧ note.number < 6 ∧ note.indent ≤ (4 : Int)) := by
  have member : interruptedInput ∈ (ofSource interrupted).tree.placements [] := by
    decide +kernel
  have facts := ofSource_parent_isNearest interrupted interruptedInput member
  exact ⟨member, facts.2.2.2.2 (by decide)⟩

/-- The line of the rejected line's body ends up below the function before it. -/
theorem not_followsIndentation_interrupted :
    ¬ (ofSource interrupted).tree.FollowsIndentation (Line.ofSource interrupted) := by
  intro follows
  have member : interruptedInput ∈ (ofSource interrupted).tree.placements [] := by
    decide +kernel
  rcases (follows interruptedInput member).2 (by decide) with ⟨outer, isOuter, number⟩
  have rejected : ⟨4, 4, .structural "bogus: y"⟩ ∈ Line.ofSource interrupted := by
    decide +kernel
  have between : outer.number < 4 := by
    rw [number]
    decide
  have deeper := isOuter.nearest _ rejected rfl between (by decide)
  exact absurd deeper (by decide)

end Outcome

end Outline
