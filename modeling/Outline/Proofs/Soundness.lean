import Outline.Proofs.Transition

/-!
# The tree belongs to the lines

Whatever the lines of a document are, the tree that is read from them is sound:
each node stands at the column and in the order of siblings that its parent
admits, it is what its own line gives, and the lines of the nodes ascend through
the tree.

The invariant `Faithful` is about the position alone.  Moving keeps it since no
move changes the tree; placing keeps it since the new node is the last one in
document order.
-/

namespace Outline

/--
A node stands rightly in a tree that is read from some lines.  Its parent and
the nodes around are nested containers, the root outermost.  The node begins at
the column that its parent demands, one unit for each node between the root and
the node.  The parent admits it after the siblings before it, and it is what the
structural line of its number gives.
-/
structure Placement.IsSound (lines : List Line) (placement : Placement) : Prop where
  nested : Nested placement.parent placement.around
  aligned : placement.child.indent = placement.parent.bodyIndent
  depth : placement.child.indent = indentUnit * placement.around.length
  container : placement.parent.kind.isContainer = true
  admitted :
    Grammar.admits placement.parent.kind (placement.earlier.map Entry.kind).reverse
      placement.child.kind = true
  recorded :
    ∃ line ∈ lines, ∃ text, line.body = .structural text ∧
      line.number = placement.child.lineNumber ∧
      Entry.ofContent? text line.indent line.number placement.child.note = some placement.child

theorem Placement.IsSound.extend {lines : List Line} {placement : Placement}
    (sound : placement.IsSound lines) (further : List Line) :
    placement.IsSound (lines ++ further) := by
  rcases sound.recorded with ⟨line, member, recorded⟩
  exact { sound with recorded := ⟨line, List.mem_append_left _ member, recorded⟩ }

namespace Position

/-- What holds of every position that a reading of some lines comes to. -/
structure Faithful (lines : List Line) (position : Position) : Prop where
  grounded : position.Grounded
  root : position.toTree.entry = .root
  ascending : (position.toTree.entries.map Entry.lineNumber).Pairwise (· < ·)
  placed : ∀ placement ∈ position.toTree.placements [], placement.IsSound lines

theorem faithful_initial : Position.initial.Faithful [] where
  grounded := grounded_initial
  root := rfl
  ascending := by
    simp [initial_entries]
  placed := by
    simp [initial_placements]

namespace Faithful

variable {lines : List Line} {position : Position}

theorem extend (faithful : position.Faithful lines) (further : List Line) :
    position.Faithful (lines ++ further) where
  grounded := faithful.grounded
  root := faithful.root
  ascending := faithful.ascending
  placed := fun placement member => (faithful.placed placement member).extend further

theorem reaches (faithful : position.Faithful lines) {indent : Int} {reached : Position}
    (reaches : position.Reaches indent reached) :
    reached.Faithful lines where
  grounded := faithful.grounded.reaches reaches
  root := reaches.toTree_eq ▸ faithful.root
  ascending := reaches.toTree_eq ▸ faithful.ascending
  placed := reaches.toTree_eq ▸ faithful.placed

theorem entries_eq (faithful : position.Faithful lines) :
    position.toTree.entries =
      .root :: (position.toTree.placements []).map Placement.child := by
  rw [Tree.entries_eq_placements [], faithful.root]

theorem child_mem (faithful : position.Faithful lines) {placement : Placement}
    (member : placement ∈ position.toTree.placements []) :
    placement.child ∈ position.toTree.entries := by
  rw [faithful.entries_eq]
  exact List.mem_cons_of_mem _ (List.mem_map_of_mem member)

/-- No two nodes below the root have the same line. -/
theorem eq_of_lineNumber_eq (faithful : position.Faithful lines) {placement other : Placement}
    (member : placement ∈ position.toTree.placements [])
    (known : other ∈ position.toTree.placements [])
    (same : placement.child.lineNumber = other.child.lineNumber) :
    placement = other := by
  have ascending := faithful.ascending
  rw [faithful.entries_eq, List.map_cons, List.map_map] at ascending
  have distinct : ((position.toTree.placements []).map
      (Entry.lineNumber ∘ Placement.child)).Nodup :=
    (List.pairwise_cons.mp ascending).2.imp fun below => below.ne
  exact List.inj_on_of_nodup_map distinct member known same

/-- Every node but the root has the number of a line. -/
theorem lineNumber_mem (faithful : position.Faithful lines) {entry : Entry}
    (member : entry ∈ position.toTree.entries) :
    entry = .root ∨
      ∃ line ∈ lines, line.isStructural = true ∧ line.number = entry.lineNumber ∧
        line.indent = entry.indent := by
  rw [faithful.entries_eq, List.mem_cons, List.mem_map] at member
  rcases member with root | ⟨placement, placed, rfl⟩
  · exact .inl root
  · rcases (faithful.placed placement placed).recorded with
      ⟨line, member, text, body, number, recognised⟩
    have indent := (Entry.ofContent?_eq_some recognised).2.1
    exact .inr ⟨line, member, Line.isStructural_of_body body, number, indent.symm⟩

/-- All nodes come before a line that is still to be read. -/
theorem lineNumber_lt {line : Line} (faithful : position.Faithful lines)
    (ascending : Line.Ascending (lines ++ [line])) {entry : Entry}
    (member : entry ∈ position.toTree.entries) :
    entry.lineNumber < line.number := by
  rcases faithful.lineNumber_mem member with rfl | ⟨other, earlier, -, number, -⟩
  · exact ascending.pos_last
  · exact number ▸ ascending.lt_last earlier

theorem child_lineNumber_lt {line : Line} (faithful : position.Faithful lines)
    (ascending : Line.Ascending (lines ++ [line])) :
    ∀ placement ∈ position.toTree.placements [], placement.child.lineNumber < line.number :=
  fun _ member => faithful.lineNumber_lt ascending (faithful.child_mem member)

/-- Placing what a line gives at its column keeps the tree sound. -/
theorem place {line : Line} {text : String} {note : Option String} {entry : Entry}
    (faithful : position.Faithful lines) (ascending : Line.Ascending (lines ++ [line]))
    (body : line.body = .structural text)
    (recognised : Entry.ofContent? text line.indent line.number note = some entry)
    (column : position.column = line.indent)
    (admitted : position.admits entry.kind = true) :
    (position.place entry).Faithful (lines ++ [line]) := by
  rcases Entry.ofContent?_eq_some recognised with ⟨-, indent, lineNumber, noted⟩
  have aligned : entry.indent = position.column := indent.trans column.symm
  have sound : (position.placement entry).IsSound (lines ++ [line]) :=
    { nested := faithful.grounded.nested
      aligned := aligned
      depth := by
        rw [placement, aligned, faithful.grounded.column_eq]
        simp [around]
      container := faithful.grounded.nested.isContainer
      admitted := by
        simpa [placement, admits, Function.comp_def] using admitted
      recorded := by
        refine ⟨line, by simp, text, body, lineNumber.symm, ?_⟩
        rw [placement, noted]
        exact recognised }
  refine ⟨faithful.grounded.place ⟨⟨_, admitted⟩, aligned⟩, ?_, ?_, ?_⟩
  · rw [place_toTree_entry]
    exact faithful.root
  · rw [entries_place, List.map_append, List.pairwise_append]
    refine ⟨faithful.ascending, by simp, ?_⟩
    intro earlier member later last
    rcases List.mem_map.mp member with ⟨other, placed, rfl⟩
    simp only [List.map_cons, List.map_nil, List.mem_singleton] at last
    rw [last, lineNumber]
    exact faithful.lineNumber_lt ascending placed
  · intro placement member
    rw [placements_place, List.mem_append, List.mem_singleton] at member
    rcases member with old | rfl
    · exact (faithful.placed placement old).extend [line]
    · exact sound

end Faithful

end Position

namespace Reading

/-- Every transition leads to a position that is faithful to one line more. -/
theorem Transition.faithful {earlier : List Line} {line : Line} {reading next : Reading}
    (ascending : Line.Ascending (earlier ++ [line]))
    (faithful : reading.position.Faithful earlier)
    (transition : Transition reading line next) :
    next.position.Faithful (earlier ++ [line]) := by
  cases transition with
  | silent quiet => exact faithful.extend [line]
  | skipped loud pausing deeper => exact faithful.extend [line]
  | noted events body heard => exact faithful.extend [line]
  | rejected events body heard obstacle =>
      exact (faithful.reaches obstacle.reaches).extend [line]
  | attached events body heard approached recognised admitted =>
      rcases (approach_eq_ok_iff faithful.grounded).mp approached with ⟨reaches, column⟩
      rw [attach_position]
      exact (faithful.reaches reaches).place ascending body recognised column admitted

theorem run_faithful (lines : List Line) (ascending : Line.Ascending lines) :
    (Reading.initial.run lines).position.Faithful lines := by
  refine run_induction (fun lines reading => reading.position.Faithful lines)
    Position.faithful_initial ?_ lines ascending
  intro earlier line reading next ascending faithful transition
  exact transition.faithful ascending faithful

/-- A node that a line gives, at the position at which it is placed. -/
structure Arrival (lines : List Line) (reading : Reading) (line : Line) (reached : Position)
    (entry : Entry) : Prop where
  faithful : reading.position.Faithful lines
  ascending : Line.Ascending (lines ++ [line])
  structural : line.isStructural = true
  reaches : reading.position.Reaches line.indent reached
  column : reached.column = line.indent
  indent : entry.indent = line.indent
  lineNumber : entry.lineNumber = line.number
  admitted : reached.admits entry.kind = true

namespace Arrival

variable {lines : List Line} {line : Line} {reading : Reading} {reached : Position}
  {entry : Entry}

theorem of_approach {text : String} (faithful : reading.position.Faithful lines)
    (ascending : Line.Ascending (lines ++ [line])) (body : line.body = .structural text)
    (approached : reading.approach line = .ok reached)
    (recognised : Entry.ofContent? text line.indent line.number reading.pending = some entry)
    (admitted : reached.admits entry.kind = true) :
    Arrival lines reading line reached entry := by
  rcases (approach_eq_ok_iff faithful.grounded).mp approached with ⟨reaches, column⟩
  rcases Entry.ofContent?_eq_some recognised with ⟨-, indent, lineNumber, -⟩
  exact
    { faithful, ascending, reaches, column, indent, lineNumber, admitted
      structural := Line.isStructural_of_body body }

theorem grounded (arrival : Arrival lines reading line reached entry) : reached.Grounded :=
  arrival.faithful.grounded.reaches arrival.reaches

theorem aligned (arrival : Arrival lines reading line reached entry) :
    entry.indent = reached.column :=
  arrival.indent.trans arrival.column.symm

/-- The column of the line is one unit for each block around the innermost one. -/
theorem lineIndent_eq (arrival : Arrival lines reading line reached entry) :
    (line.indent : Int) = indentUnit * reached.enclosing.length := by
  rw [← arrival.column, arrival.grounded.column_eq]

/-- All nodes of the tree come before the new one. -/
theorem lineNumber_lt (arrival : Arrival lines reading line reached entry) {other : Entry}
    (member : other ∈ reading.position.toTree.entries) :
    other.lineNumber < entry.lineNumber :=
  arrival.lineNumber ▸ arrival.faithful.lineNumber_lt arrival.ascending member

theorem placements_eq (arrival : Arrival lines reading line reached entry) :
    (reached.place entry).toTree.placements [] =
      reading.position.toTree.placements [] ++ [reached.placement entry] := by
  rw [Position.placements_place, arrival.reaches.toTree_eq]

theorem entries_eq (arrival : Arrival lines reading line reached entry) :
    (reached.place entry).toTree.entries = reading.position.toTree.entries ++ [entry] := by
  rw [Position.entries_place, arrival.reaches.toTree_eq]

end Arrival

/-- An invariant may be carried through a run beside the soundness of the tree. -/
theorem faithful_induction (Invariant : List Line → Reading → Prop)
    (initial : Invariant [] .initial)
    (step : ∀ (earlier : List Line) (line : Line) (reading next : Reading),
      Line.Ascending (earlier ++ [line]) → reading.position.Faithful earlier →
      Invariant earlier reading → Transition reading line next →
      Invariant (earlier ++ [line]) next)
    (lines : List Line) (ascending : Line.Ascending lines) :
    Invariant lines (Reading.initial.run lines) := by
  refine (run_induction
    (fun lines reading => reading.position.Faithful lines ∧ Invariant lines reading)
    ⟨Position.faithful_initial, initial⟩ ?_ lines ascending).2
  rintro earlier line reading next ascending ⟨faithful, invariant⟩ transition
  exact ⟨transition.faithful ascending faithful,
    step earlier line reading next ascending faithful invariant transition⟩

end Reading

namespace Outcome

theorem ofSource_faithful (source : String) :
    (Reading.initial.run (Line.ofSource source)).position.Faithful (Line.ofSource source) :=
  Reading.run_faithful _ (Line.ascending_ofSource source)

/--
The tree of every document is sound.  Its nodes are the root and those that are
placed, with their lines in ascending order, and each one that is placed stands
where its parent admits it and is what its own line gives.
-/
theorem ofSource_tree_isSound (source : String) :
    (ofSource source).tree.entries =
        .root :: ((ofSource source).tree.placements []).map Placement.child ∧
      ((ofSource source).tree.entries.map Entry.lineNumber).Pairwise (· < ·) ∧
      ∀ placement ∈ (ofSource source).tree.placements [],
        placement.IsSound (Line.ofSource source) := by
  have faithful := ofSource_faithful source
  rw [ofSource, ofLines_tree]
  exact ⟨faithful.entries_eq, faithful.ascending, faithful.placed⟩

/-- A class whose function is followed by a line that is rejected. -/
def disturbed : String :=
  "class: A\n    func: f\n      input: a\n    var: x"

/-- The last node of the disturbed document. -/
def disturbedField : Placement where
  parent :=
    { kind := .classBlock, content := "class: A", indent := 0, lineNumber := 1, name := "A" }
  around := [.root]
  earlier :=
    [{ kind := .function, content := "func: f", indent := 4, lineNumber := 2, name := "f" }]
  child := { kind := .field, content := "var: x", indent := 4, lineNumber := 4, name := "x" }

theorem ofSource_tree_isSound_disturbed :
    disturbedField ∈ (ofSource disturbed).tree.placements [] ∧
      disturbedField.IsSound (Line.ofSource disturbed) := by
  have member : disturbedField ∈ (ofSource disturbed).tree.placements [] := by
    decide +kernel
  exact ⟨member, (ofSource_tree_isSound disturbed).2.2 disturbedField member⟩

end Outcome

end Outline
