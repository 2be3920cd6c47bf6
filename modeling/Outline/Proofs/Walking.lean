import Outline.Proofs.Rejection
import Outline.Walk

/-!
# Walking along the right edge of a tree

The right edge of a tree leads from its root to the last child, from there to the
last child of that one, and so on.  The references of a walk are moved on their
own, but they stay on this edge: a walk follows a reading of the same lines, whose
position is open along the edge, and both references can be read off the position.

The main statement says so after any lines of a document, and tells of every line
that may come next how far the walk goes up for it, and that it goes down to the
last child of the block or not at all.  It needs no invariant of its own: going up,
going down and adding a node are shown to do to the references what the reading
does to its position.
-/

namespace Outline

/-! ## References into the tree of a position -/

namespace Tree

variable {tree node : Tree} {reference : Reference}

theorem entryAt_of_node? (leads : tree.node? reference = some node) :
    tree.entryAt reference = node.entry := by
  rw [entryAt, leads, Option.elim_some]

theorem childrenAt_of_node? (leads : tree.node? reference = some node) :
    tree.childrenAt reference = node.children := by
  rw [childrenAt, leads, Option.elim_some]

/-- Every node on the way to a reference is the last child of its parent. -/
def IsRightmost (tree : Tree) : Reference → Prop
  | [] => True
  | place :: above => place + 1 = (tree.childrenAt above).length ∧ tree.IsRightmost above

end Tree

namespace Position

/-- The tree of the innermost open block. -/
def openTree (position : Position) : Tree :=
  position.block.close position.latest

/-- The reference to the innermost open block. -/
def reference (position : Position) : Reference :=
  position.enclosing.map fun parent => parent.finished.length

/-- The reference to the latest child, or to the innermost open block if there is none. -/
def lastReference (position : Position) : Reference :=
  match position.latest with
  | none => position.reference
  | some _ => position.block.finished.length :: position.reference

/-- What holds of a position without blocks around it, and is kept by the ones around. -/
theorem leave_induction {motive : Position → Prop}
    (outermost : ∀ position, position.enclosing = [] → motive position)
    (leave : ∀ position parent further, position.enclosing = parent :: further →
      motive (position.leaveBlock parent further) → motive position)
    (position : Position) :
    motive position := by
  rcases position with ⟨block, latest, enclosing⟩
  induction enclosing generalizing block latest with
  | nil => exact outermost _ rfl
  | cons parent further induction => exact leave _ _ _ rfl (induction _ _)

variable {position : Position} {parent : Block} {further : List Block} {child : Tree}
  {indent : Int}

theorem toTree_leaveBlock (enclosing : position.enclosing = parent :: further) :
    position.toTree = (position.leaveBlock parent further).toTree := by
  simp [toTree_eq_closeAll, leaveBlock, enclosing]

theorem reference_leaveBlock (enclosing : position.enclosing = parent :: further) :
    position.reference =
      parent.finished.length :: (position.leaveBlock parent further).reference := by
  simp [reference, enclosing, leaveBlock]

theorem node?_toTree (position : Position) :
    position.toTree.node? position.reference = some position.openTree := by
  induction position using leave_induction with
  | outermost position alone =>
      rw [toTree_eq_closeAll, reference, alone]
      rfl
  | leave position parent further enclosing induction =>
      rw [reference_leaveBlock enclosing, toTree_leaveBlock enclosing, Tree.node?, induction]
      simp [openTree, leaveBlock, Block.close]

theorem entryAt_toTree (position : Position) :
    position.toTree.entryAt position.reference = position.container :=
  Tree.entryAt_of_node? position.node?_toTree

theorem childrenAt_toTree (position : Position) :
    position.toTree.childrenAt position.reference = position.children.reverse :=
  Tree.childrenAt_of_node? position.node?_toTree

/-- The position is on the right edge of its tree. -/
theorem isRightmost_toTree (position : Position) :
    position.toTree.IsRightmost position.reference := by
  induction position using leave_induction with
  | outermost position alone =>
      rw [reference, alone]
      exact trivial
  | leave position parent further enclosing induction =>
      rw [reference_leaveBlock enclosing, toTree_leaveBlock enclosing]
      refine ⟨?_, induction⟩
      rw [childrenAt_toTree]
      simp [children, leaveBlock]

/-- A change of the innermost block leaves the blocks around it as they are. -/
theorem change_toTree (position : Position) (f : Tree → Tree) :
    position.toTree.change f position.reference =
      closeAll (f position.openTree) position.enclosing := by
  induction position using leave_induction generalizing f with
  | outermost position alone =>
      rw [toTree_eq_closeAll, reference, alone]
      rfl
  | leave position parent further enclosing induction =>
      rw [reference_leaveBlock enclosing, toTree_leaveBlock enclosing, Tree.change, induction,
        enclosing, closeAll_cons]
      simp [openTree, leaveBlock, Block.close, List.modify_eq_take_drop]

theorem addAt_toTree (position : Position) (entry : Entry) :
    position.toTree.addAt position.reference entry = (position.place entry).toTree := by
  rw [Tree.addAt, change_toTree, toTree_eq_closeAll]
  simp [place, openTree, Block.close, children]

/-- Going up from the innermost block leads to where blocks have been left. -/
theorem climb_toTree (position : Position) (indent : Int) :
    position.toTree.climb indent position.reference =
      ((position.leaveTo indent).reference, position.isLeftAt indent) := by
  induction position using leave_induction with
  | outermost position alone =>
      rw [leaveTo_eq_self (.inl alone), isLeftAt_eq_false_iff.mpr (.inl alone), reference, alone]
      rfl
  | leave position parent further enclosing induction =>
      have entry := position.entryAt_toTree
      rw [reference_leaveBlock enclosing] at entry ⊢
      rw [Tree.climb, entry, ← column]
      by_cases outside : indent < position.column
      · rw [toTree_leaveBlock enclosing, leaveTo_eq_of_isLeftAt enclosing outside, induction]
        simp [isLeftAt, enclosing, outside]
      · have inside : position.enclosing = [] ∨ position.column ≤ indent :=
          .inr (not_lt.mp outside)
        rw [leaveTo_eq_self inside, isLeftAt_eq_false_iff.mpr inside, if_neg outside,
          reference_leaveBlock enclosing]

theorem lastBelow_toTree (latest : position.latest = some child) :
    position.toTree.lastBelow position.reference = position.lastReference := by
  have count : (position.toTree.childrenAt position.reference).length =
      position.block.finished.length + 1 := by
    simp [childrenAt_toTree, children, latest]
  rw [Tree.lastBelow, count, lastReference, latest]

theorem reference_openChild (position : Position) (child : Tree) :
    (position.openChild child).reference =
      position.block.finished.length :: position.reference :=
  rfl

/-- An opened child is where the latest child has been, and nothing has been added to it. -/
theorem lastReference_openChild (latest : position.latest = some child) :
    (position.openChild child).lastReference = position.lastReference := by
  rw [lastReference, lastReference, latest]
  rfl

theorem entryAt_lastReference (position : Position) :
    position.toTree.entryAt position.lastReference =
      position.latest.elim position.container Tree.entry := by
  cases latest : position.latest with
  | none => rw [lastReference, latest, entryAt_toTree, Option.elim_none]
  | some child =>
      have leads : position.toTree.node? position.lastReference = some child := by
        rw [lastReference, latest, Tree.node?, node?_toTree]
        simp [openTree, Block.close, latest]
      rw [Tree.entryAt_of_node? leads, Option.elim_some]

/-- After a block has been left it is the latest child. -/
theorem exists_latest_of_isLeftAt (outside : position.isLeftAt indent = true) :
    ∃ child, (position.leaveTo indent).latest = some child := by
  induction position using leave_induction with
  | outermost position alone =>
      rw [isLeftAt_eq_false_iff.mpr (.inl alone)] at outside
      cases outside
  | leave position parent further enclosing induction =>
      have deeper : indent < position.column := by
        simpa [isLeftAt, enclosing] using outside
      rw [leaveTo_eq_of_isLeftAt enclosing deeper]
      cases again : (position.leaveBlock parent further).isLeftAt indent with
      | true => exact induction again
      | false =>
          rw [leaveTo_eq_self (isLeftAt_eq_false_iff.mp again)]
          exact ⟨position.openTree, rfl⟩

end Position

/-! ## A walk follows a reading -/

namespace Walk

/-- A walk has the tree of a reading, and references to where the reading is in it. -/
structure Follows (walk : Walk) (reading : Reading) : Prop where
  tree : walk.tree = reading.position.toTree
  current : walk.current = reading.position.reference
  last : walk.last = reading.position.lastReference
  scopes : walk.scopes = reading.scopes
  pending : walk.pending = reading.pending
  findings : walk.findings = reading.findings
  recovery : walk.recovery = reading.recovery

namespace Follows

variable {walk : Walk} {reading : Reading}

theorem initial : Walk.initial.Follows .initial where
  tree := rfl
  current := rfl
  last := rfl
  scopes := rfl
  pending := rfl
  findings := rfl
  recovery := rfl

theorem entryAt_current (follows : walk.Follows reading) :
    walk.tree.entryAt walk.current = reading.position.container := by
  rw [follows.tree, follows.current, Position.entryAt_toTree]

theorem childrenAt_current (follows : walk.Follows reading) :
    walk.tree.childrenAt walk.current = reading.position.children.reverse := by
  rw [follows.tree, follows.current, Position.childrenAt_toTree]

theorem column_eq (follows : walk.Follows reading) : walk.column = reading.position.column := by
  rw [column, follows.entryAt_current]
  rfl

theorem climb_eq (follows : walk.Follows reading) (indent : Int) :
    walk.tree.climb indent walk.current =
      ((reading.position.leaveTo indent).reference, reading.position.isLeftAt indent) := by
  rw [follows.tree, follows.current, Position.climb_toTree]

/-! ### Reports -/

theorem report (follows : walk.Follows reading) (lineNumber : Int) (problem : Problem) :
    (walk.report lineNumber problem).Follows (reading.report lineNumber problem) :=
  { follows with findings := congrArg _ follows.findings }

theorem reject (follows : walk.Follows reading) (line : Line) (problem : Problem) (column : Int) :
    (walk.reject line problem column).Follows (reading.reject line problem column) :=
  { follows.report line.number problem with recovery := rfl }

theorem annotate (follows : walk.Follows reading) (line : Line) (text : String) :
    (walk.annotate line text).Follows (reading.annotate line text) := by
  rw [Walk.annotate, Reading.annotate, follows.pending]
  split_ifs
  · exact { follows.report line.number .repeatedNote with pending := rfl }
  · exact { follows with pending := rfl }

/-! ### Moves -/

/-- Going up, a walk forgets the node added last for the block that it has come from. -/
theorem ascend (follows : walk.Follows reading) (indent : Int) :
    (walk.ascend indent).Follows (reading.leaveTo indent) := by
  have climbed := follows.climb_eq indent
  have same : walk.tree = (reading.position.leaveTo indent).toTree :=
    follows.tree.trans (Position.reaches_leaveTo _ _).toTree_eq.symm
  rw [Walk.ascend, climbed]
  refine ⟨same, rfl, ?_, by rw [follows.scopes]; rfl, follows.pending, follows.findings,
    follows.recovery⟩
  cases outside : reading.position.isLeftAt indent with
  | true =>
      rcases Position.exists_latest_of_isLeftAt outside with ⟨child, latest⟩
      rw [same]
      exact Position.lastBelow_toTree latest
  | false =>
      have stays := Position.leaveTo_eq_self (Position.isLeftAt_eq_false_iff.mp outside)
      exact follows.last.trans (congrArg _ stays.symm)

theorem ascends_eq (follows : walk.Follows reading) (indent : Int) :
    walk.ascends indent = reading.position.isLeftAt indent := by
  rw [ascends, follows.climb_eq]

/-- A walk goes on to the node added last where a reading opens the latest child. -/
theorem descend_eq (follows : walk.Follows reading) (grounded : reading.position.Grounded)
    (hasLeft : Bool) (indent : Int) :
    walk.descend hasLeft indent =
      (reading.position.arrive hasLeft indent).map fun position =>
        { walk with current := position.reference } := by
  have target : walk.tree.entryAt walk.last =
      reading.position.latest.elim reading.position.container Tree.entry := by
    rw [follows.tree, follows.last, Position.entryAt_lastReference]
  rw [descend, Position.arrive, follows.column_eq, target]
  split_ifs with left deeper
  · rfl
  · cases latest : reading.position.latest with
    | none =>
        have aside : indent ≠ reading.position.container.bodyIndent := deeper.ne'
        simp [grounded.nested.isContainer, aside, Except.map]
        rfl
    | some child =>
        have last : walk.last = (reading.position.openChild child).reference := by
          rw [follows.last, Position.lastReference, latest, Position.reference_openChild]
        rw [Option.elim_some, last]
        dsimp only
        split_ifs <;> rfl
  · rw [Except.map, ← follows.current]

theorem arrive (follows : walk.Follows reading) {hasLeft : Bool} {indent : Int}
    {position : Position} (arrived : reading.position.arrive hasLeft indent = .ok position) :
    { walk with current := position.reference }.Follows { reading with position } := by
  rcases Position.arrive_eq_ok_iff.mp arrived with
    ⟨rfl, -, -⟩ | ⟨-, deeper, child, latest, container, aligned, rfl⟩
  · exact { follows with current := rfl }
  · have same := (Position.Reaches.enter latest container deeper aligned).toTree_eq
    exact
      { follows with
        tree := follows.tree.trans same.symm
        current := rfl
        last := follows.last.trans (Position.lastReference_openChild latest).symm }

/-! ### Nodes -/

theorem admits_eq (follows : walk.Follows reading) (kind : Kind) :
    walk.admits kind = reading.position.admits kind := by
  rw [admits, follows.entryAt_current, follows.childrenAt_current, List.reverse_reverse]
  rfl

theorem openScope (follows : walk.Follows reading) (entry : Entry) :
    (walk.openScope entry).Follows (reading.openScope entry) := by
  rw [Walk.openScope, Reading.openScope]
  split_ifs
  · exact { follows with scopes := by rw [follows.scopes]; rfl }
  · exact follows

theorem declare (follows : walk.Follows reading) (entry : Entry) :
    (walk.declare entry).Follows (reading.declare entry) := by
  rw [Walk.declare, Reading.declare, follows.scopes]
  split_ifs
  · cases reading.scopes.declare entry with
    | ok scopes => exact { follows with scopes := rfl }
    | error first => exact follows.report ..
  · exact follows

/-- A node is added where the position places it. -/
theorem attach (follows : walk.Follows reading) (entry : Entry) :
    (walk.attach entry).Follows (reading.attach entry) := by
  have tree : walk.tree.addAt walk.current entry = (reading.position.place entry).toTree := by
    rw [follows.tree, follows.current, Position.addAt_toTree]
  have last : (walk.tree.childrenAt walk.current).length :: walk.current =
      (reading.position.place entry).lastReference := by
    rw [follows.childrenAt_current, List.length_reverse, follows.current]
    rfl
  rw [Walk.attach, tree, last]
  refine declare (openScope ?_ entry) entry
  exact { follows with tree := rfl, current := follows.current, last := rfl, pending := rfl }

theorem fill (follows : walk.Follows reading) (line : Line) (text : String) (column : Int) :
    (walk.fill line text column).Follows (reading.fill line text column) := by
  rw [Walk.fill, Reading.fill, follows.pending]
  cases Entry.ofContent? text line.indent line.number reading.pending with
  | none => exact follows.reject ..
  | some entry =>
      simp only [follows.admits_eq, follows.entryAt_current]
      split_ifs
      · exact follows.attach entry
      · exact follows.reject ..

theorem build (follows : walk.Follows reading) (grounded : reading.position.Grounded)
    (line : Line) (text : String) :
    (walk.build line text).Follows (reading.build line text) := by
  have left := follows.ascend line.indent
  have stays : (reading.leaveTo line.indent).position.Grounded :=
    grounded.reaches (Position.reaches_leaveTo _ _)
  rw [Walk.build, Reading.build]
  simp only [follows.ascends_eq, left.descend_eq stays, left.column_eq]
  cases arrived : (reading.leaveTo line.indent).position.arrive
      (reading.position.isLeftAt line.indent) line.indent with
  | error problem => exact left.reject ..
  | ok position =>
      have reached := left.arrive arrived
      simp only [Except.map, reached.column_eq]
      exact reached.fill ..

/-! ### Lines -/

theorem accept (follows : walk.Follows reading) (grounded : reading.position.Grounded)
    (line : Line) :
    (walk.accept line).Follows (reading.accept line) := by
  rw [Walk.accept, Reading.accept]
  cases line.body with
  | blank | comment text => exact follows
  | note text => exact follows.annotate line text
  | structural text => exact follows.build grounded line text

theorem step (follows : walk.Follows reading) (grounded : reading.position.Grounded)
    (line : Line) :
    (walk.step line).Follows (reading.step line) := by
  rw [Walk.step, Reading.step, follows.recovery]
  split_ifs
  · exact follows
  · cases reading.recovery with
    | none => exact follows.accept grounded line
    | some recovery =>
        simp only
        split_ifs
        · have resumed :
              { walk with recovery := none }.Follows (reading.resume recovery line) :=
            { follows with recovery := rfl }
          exact resumed.accept grounded line
        · exact follows

/-- After any lines a walk is where a reading is. -/
theorem run (lines : List Line) : (Walk.initial.run lines).Follows (Reading.initial.run lines) := by
  induction lines using List.reverseRecOn with
  | nil => exact initial
  | append_singleton earlier line induction =>
      rw [Reading.run_append, Walk.run, List.foldl_append]
      exact induction.step (Reading.initial_run_grounded earlier) line

end Follows

end Walk

/-! ## The edge of the tree -/

namespace Reading

variable {reading next : Reading} {line : Line}

/-- Only a structural line that is read moves the position, or places a node there. -/
theorem Transition.position_eq (transition : Transition reading line next) :
    ¬ (line.isStructural = true ∧ reading.Hears line) ∧ next.position = reading.position ∨
      (line.isStructural = true ∧ reading.Hears line) ∧
        ∃ reached, reading.position.Reaches line.indent reached ∧
          (next.position = reached ∨ ∃ entry, next.position = reached.place entry) := by
  cases transition with
  | silent quiet =>
      refine .inl ⟨?_, rfl⟩
      simp [(Line.neither_of_silent quiet).1]
  | skipped loud pausing deeper =>
      refine .inl ⟨?_, rfl⟩
      rintro ⟨structural, heard⟩
      exact absurd (heard _ pausing) deeper.not_ge
  | noted events body heard =>
      refine .inl ⟨?_, rfl⟩
      simp [Line.isStructural_eq_false_of_isNote (Line.isNote_of_body body)]
  | rejected events body heard obstacle =>
      exact .inr ⟨⟨Line.isStructural_of_body body, heard⟩, _, obstacle.reaches, .inl rfl⟩
  | attached events body heard approached recognised admitted =>
      exact .inr ⟨⟨Line.isStructural_of_body body, heard⟩, _, reaches_of_approach approached,
        .inr ⟨_, attach_position _ _⟩⟩

end Reading

namespace Walk

/--
The current block accepts children and lies on the right edge of the tree; the
node added last is this block itself or its last child.
-/
structure IsOnEdge (walk : Walk) : Prop where
  container : ∃ block, walk.tree.node? walk.current = some block ∧
    block.entry.kind.isContainer = true
  rightmost : walk.tree.IsRightmost walk.current
  last : walk.last = walk.current ∨
    ∃ place, walk.last = place :: walk.current ∧
      place + 1 = (walk.tree.childrenAt walk.current).length

/--
Going up for a line at a column ends at the innermost block, from the current one
outwards, that the line does not lie outside of.
-/
structure GoesUp (walk : Walk) (indent : Int) : Prop where
  outwards : (walk.ascend indent).current <:+ walk.current
  inside : (walk.ascend indent).column ≤ indent
  innermost : ∀ reference, reference <:+ walk.current →
    (walk.tree.entryAt reference).bodyIndent ≤ indent →
      reference <:+ (walk.ascend indent).current

/-- Whether a line is read, because nothing is passed over or the recovery ends at it. -/
def Hears (walk : Walk) (line : Line) : Prop :=
  ∀ recovery, walk.recovery = some recovery → line.indent ≤ recovery.column

/--
Only a structural line that is read moves the current block.  It is tried where
the walk has gone up to for it, or in the last child of the current block, and
never in a block that it lies outside of.  Then a node is added there or nothing is.
-/
structure Moves (walk : Walk) (line : Line) : Prop where
  idle : ¬ (line.isStructural = true ∧ walk.Hears line) →
    (walk.step line).tree = walk.tree ∧ (walk.step line).current = walk.current ∧
      (walk.step line).last = walk.last
  tried : line.isStructural = true → walk.Hears line →
    (walk.ascend line.indent).column ≤ line.indent ∧
      ((walk.step line).current = (walk.ascend line.indent).current ∨
        (walk.ascend line.indent).current = walk.current ∧
          ∃ place, (walk.step line).current = place :: walk.current ∧
            place + 1 = (walk.tree.childrenAt walk.current).length ∧
            (walk.tree.entryAt (place :: walk.current)).bodyIndent = line.indent) ∧
      ((walk.step line).tree = walk.tree ∨
        ∃ entry, (walk.step line).tree = walk.tree.addAt (walk.step line).current entry)

variable {walk : Walk} {reading : Reading}

theorem Follows.isOnEdge (follows : walk.Follows reading) (grounded : reading.position.Grounded) :
    walk.IsOnEdge where
  container := by
    refine ⟨reading.position.openTree, ?_, grounded.nested.isContainer⟩
    rw [follows.tree, follows.current, Position.node?_toTree]
  rightmost := by
    rw [follows.tree, follows.current]
    exact Position.isRightmost_toTree _
  last := by
    rw [follows.childrenAt_current, follows.last, follows.current, Position.lastReference]
    cases latest : reading.position.latest with
    | none => exact .inl rfl
    | some child =>
        refine .inr ⟨_, rfl, ?_⟩
        simp [Position.children, latest]

/-- What is passed going up are the blocks that the line lies outside of. -/
theorem climb_goesUp (tree : Tree) (indent : Int) (reference : Reference) :
    (tree.climb indent reference).1 <:+ reference ∧
      ∀ other, other <:+ reference → (tree.entryAt other).bodyIndent ≤ indent →
        other <:+ (tree.climb indent reference).1 := by
  induction reference with
  | nil => exact ⟨List.suffix_rfl, fun other inside _ => inside⟩
  | cons place above induction =>
      rw [Tree.climb]
      split_ifs with outside
      · refine ⟨induction.1.trans (List.suffix_cons place above), fun other inside reached => ?_⟩
        rcases List.suffix_cons_iff.mp inside with rfl | further
        · exact absurd reached outside.not_ge
        · exact induction.2 other further reached
      · exact ⟨List.suffix_rfl, fun other inside _ => inside⟩

theorem Follows.goesUp (follows : walk.Follows reading) (grounded : reading.position.Grounded)
    {indent : Int} (nonneg : 0 ≤ indent) :
    walk.GoesUp indent where
  outwards := (climb_goesUp walk.tree indent walk.current).1
  inside := by
    rw [(follows.ascend indent).column_eq]
    exact (Position.reaches_leaveTo _ _).column_le grounded nonneg
  innermost := (climb_goesUp walk.tree indent walk.current).2

theorem Follows.hears_iff (follows : walk.Follows reading) (line : Line) :
    walk.Hears line ↔ reading.Hears line := by
  rw [Hears, Reading.Hears, follows.recovery]

/-- A line is tried where the walk has gone up to, or in the last child of the block. -/
theorem Follows.reference_of_reaches (follows : walk.Follows reading) {indent : Int}
    {reached : Position} (reaches : reading.position.Reaches indent reached) :
    reached.reference = (walk.ascend indent).current ∨
      (walk.ascend indent).current = walk.current ∧
        ∃ place, reached.reference = place :: walk.current ∧
          place + 1 = (walk.tree.childrenAt walk.current).length ∧
          (walk.tree.entryAt (place :: walk.current)).bodyIndent = indent := by
  have up : (walk.ascend indent).current = (reading.position.leaveTo indent).reference :=
    (follows.ascend indent).current
  rcases reaches.eq_leaveTo_or_enter with rfl | ⟨inside, -, child, latest, -, aligned, rfl⟩
  · exact .inl up.symm
  · right
    have last : walk.last = reading.position.block.finished.length :: walk.current := by
      rw [follows.last, follows.current, Position.lastReference, latest]
    refine ⟨?_, reading.position.block.finished.length, ?_, ?_, ?_⟩
    · rw [up, Position.leaveTo_eq_self inside, follows.current]
    · rw [Position.reference_openChild, follows.current]
    · rw [follows.childrenAt_current]
      simp [Position.children, latest]
    · rw [← last, follows.tree, follows.last, Position.entryAt_lastReference, latest, aligned]
      rfl

theorem Follows.moves (follows : walk.Follows reading) (grounded : reading.position.Grounded)
    (line : Line) :
    walk.Moves line := by
  have next := follows.step grounded line
  rcases (Reading.step_transition reading line).position_eq with
    ⟨idle, same⟩ | ⟨heard, reached, reaches, settled⟩
  · refine ⟨fun _ => ⟨?_, ?_, ?_⟩, fun structural heard => ?_⟩
    · rw [next.tree, same, follows.tree]
    · rw [next.current, same, follows.current]
    · rw [next.last, same, follows.last]
    · exact absurd ⟨structural, (follows.hears_iff line).mp heard⟩ idle
  · have tree : reached.toTree = walk.tree := reaches.toTree_eq.trans follows.tree.symm
    have current : (walk.step line).current = reached.reference := by
      rw [next.current]
      rcases settled with same | ⟨entry, placed⟩
      · rw [same]
      · rw [placed]
        rfl
    refine ⟨fun idle => ?_, fun _ _ => ⟨?_, ?_, ?_⟩⟩
    · exact absurd ⟨heard.1, (follows.hears_iff line).mpr heard.2⟩ idle
    · exact (follows.goesUp grounded (Int.natCast_nonneg _)).inside
    · rw [current]
      exact follows.reference_of_reaches reaches
    · rw [current, next.tree]
      rcases settled with same | ⟨entry, placed⟩
      · exact .inl (by rw [same, tree])
      · exact .inr ⟨entry, by rw [placed, ← tree, Position.addAt_toTree]⟩

/-- What holds of a walk that is where a reading is, and of every line that may come next. -/
structure StaysOnEdge (walk : Walk) (reading : Reading) : Prop where
  follows : walk.Follows reading
  onEdge : walk.IsOnEdge
  goesUp : ∀ indent : Int, 0 ≤ indent → walk.GoesUp indent
  moves : ∀ line : Line, walk.Moves line

/--
After any lines of a document a walk is where a reading is.  Its current block is
a container on the right edge of the tree, and the node added last is this block
or its last child.  For any line it goes up to the innermost block that the line
does not lie outside of, and down to the last child of the block or not at all.
-/
theorem ofSource_staysOnEdge (source : String) (count : Nat) :
    (initial.run ((Line.ofSource source).take count)).StaysOnEdge
      (Reading.initial.run ((Line.ofSource source).take count)) := by
  have follows := Follows.run ((Line.ofSource source).take count)
  have grounded := Reading.initial_run_grounded ((Line.ofSource source).take count)
  exact ⟨follows, follows.isOnEdge grounded, fun _ => follows.goesUp grounded,
    follows.moves grounded⟩

/-- A line enters a class again and is rejected there; deeper lines then lie below the class. -/
example :
    let walk := initial.run (Line.ofSource "class: A\n    var: x\nbogus: y\n@ note\n    bogus: z")
    walk.current = [0] ∧ walk.last = [0] ∧ (walk.tree.childrenAt [0]).length = 1 := by
  decide +kernel

end Walk

end Outline
