import Mathlib.Tactic.Ring
import Outline.Proofs.Placement

/-!
# Moving through a growing tree

Before a line is placed, the position moves: it leaves blocks from the inside,
or it enters the latest child of the innermost block.  `Reaches` has one rule
for each of these moves, so that what holds of a position is carried to where a
line is tried by one case for each rule.

The main statements are that no move changes the tree, that the columns of the
open blocks grow by one unit a level, and that a line arrives exactly at the
position it reaches at its own column.
-/

namespace Outline

/-! ## The grammar and the kinds of containers -/

namespace Grammar

theorem isContainer_of_admits {container child : Kind} {earlier : List Kind}
    (admitted : admits container earlier child = true) :
    container.isContainer = true := by
  cases container <;> simp [admits] at admitted <;> rfl

theorem ne_root_of_admits {container child : Kind} {earlier : List Kind}
    (admitted : admits container earlier child = true) :
    child ≠ .root := by
  rintro rfl
  cases container <;>
    simp [admits, rootAdmits, classAdmits, functionAdmits, blockAdmits] at admitted

end Grammar

/-! ## Nested blocks -/

theorem Entry.bodyIndent_root : Entry.root.bodyIndent = 0 :=
  rfl

theorem Entry.bodyIndent_of_ne_root {entry : Entry} (notRoot : entry.kind ≠ .root) :
    entry.bodyIndent = entry.indent + indentUnit := by
  simp [Entry.bodyIndent, notRoot]

/-- A node stands at the column of another one, which admits its kind at some place. -/
structure Entry.FitsBelow (entry parent : Entry) : Prop where
  admitted : ∃ earlier, Grammar.admits parent.kind earlier entry.kind = true
  aligned : entry.indent = parent.bodyIndent

namespace Entry.FitsBelow

variable {entry parent : Entry}

theorem ne_root (fits : entry.FitsBelow parent) : entry.kind ≠ .root := by
  rcases fits.admitted with ⟨earlier, admitted⟩
  exact Grammar.ne_root_of_admits admitted

theorem bodyIndent_eq (fits : entry.FitsBelow parent) :
    entry.bodyIndent = parent.bodyIndent + indentUnit := by
  rw [bodyIndent_of_ne_root fits.ne_root, fits.aligned]

end Entry.FitsBelow

/-- A container stands inside other ones, each below the next one, the root outermost. -/
inductive Nested : Entry → List Entry → Prop where
  | root : Nested .root []
  | inside {entry parent : Entry} {around : List Entry}
      (outer : Nested parent around)
      (container : entry.kind.isContainer = true)
      (fits : entry.FitsBelow parent) :
      Nested entry (parent :: around)

namespace Nested

variable {entry : Entry} {around : List Entry}

theorem isContainer (nested : Nested entry around) : entry.kind.isContainer = true := by
  cases nested with
  | root => rfl
  | inside outer container fits => exact container

/-- The column of a block is its depth in units. -/
theorem bodyIndent_eq (nested : Nested entry around) :
    entry.bodyIndent = indentUnit * around.length := by
  induction nested with
  | root => rfl
  | inside outer container fits induction =>
      rw [fits.bodyIndent_eq, induction]
      simp only [List.length_cons]
      push_cast
      ring

theorem indent_lt_bodyIndent (nested : Nested entry around) : entry.indent < entry.bodyIndent := by
  cases nested with
  | root => decide
  | inside outer container fits =>
      rw [Entry.bodyIndent_of_ne_root fits.ne_root]
      simp [indentUnit]

theorem bodyIndent_nonneg (nested : Nested entry around) : 0 ≤ entry.bodyIndent := by
  rw [nested.bodyIndent_eq]
  exact Int.mul_nonneg (Int.natCast_nonneg _) (Int.natCast_nonneg _)

theorem bodyIndent_le_of_mem (nested : Nested entry around) {outer : Entry}
    (member : outer ∈ around) :
    outer.bodyIndent ≤ entry.bodyIndent := by
  induction nested with
  | root => simp at member
  | @inside inner parent further nested container fits induction =>
      have step : parent.bodyIndent ≤ inner.bodyIndent := by
        rw [fits.bodyIndent_eq]
        simp [indentUnit]
      rcases List.mem_cons.mp member with rfl | later
      · exact step
      · exact (induction later).trans step

theorem eq_root (nested : Nested entry []) : entry = .root := by
  cases nested
  rfl

theorem of_cons {parent : Entry} (nested : Nested entry (parent :: around)) :
    Nested parent around ∧ entry.FitsBelow parent := by
  cases nested with
  | inside outer container fits =>
      exact ⟨outer, fits⟩

end Nested

namespace Position

/-! ## Moves -/

/-- The position after the innermost block has been left for the one around it. -/
def leaveBlock (position : Position) (parent : Block) (further : List Block) : Position where
  block := parent
  latest := some (position.block.close position.latest)
  enclosing := further

/-- The positions at which a line at a column may be tried. -/
inductive Reaches (indent : Int) : Position → Position → Prop where
  | stay {position : Position}
      (inside : position.enclosing = [] ∨ position.column ≤ indent) :
      Reaches indent position position
  | leave {position reached : Position} {parent : Block} {further : List Block}
      (enclosing : position.enclosing = parent :: further)
      (outside : indent < position.column)
      (later : Reaches indent (position.leaveBlock parent further) reached) :
      Reaches indent position reached
  | enter {position : Position} {child : Tree}
      (latest : position.latest = some child)
      (container : child.entry.kind.isContainer = true)
      (deeper : position.column < indent)
      (aligned : indent = child.entry.bodyIndent) :
      Reaches indent position (position.openChild child)

/-- The trees of all positions that a line may be tried at are the same. -/
theorem Reaches.toTree_eq {indent : Int} {position reached : Position}
    (reaches : Reaches indent position reached) :
    reached.toTree = position.toTree := by
  induction reaches with
  | stay => rfl
  | @leave position reached parent further enclosing outside later induction =>
      rw [induction]
      simp [toTree_eq_closeAll, leaveBlock, enclosing]
  | @enter position child latest container deeper aligned =>
      simp only [toTree_eq_closeAll, openChild, closeAll_cons, latest]
      have entered :
          Block.close { entry := child.entry, finished := child.children.reverse } none =
            child := by
        cases child
        simp [Block.close]
      rw [entered]

/-! ## The open path -/

/-- The open blocks, from the inside to the root. -/
def path (position : Position) : List Entry :=
  position.container :: position.around

/-- The open blocks and, before them, the child that a deeper line would enter. -/
def spine (position : Position) : List Entry :=
  (position.latest.map Tree.entry).toList ++ position.path

theorem path_subset_spine (position : Position) : position.path ⊆ position.spine :=
  List.subset_append_right _ _

/-- A move brings no other node onto the spine. -/
theorem Reaches.spine_subset {indent : Int} {position reached : Position}
    (reaches : Reaches indent position reached) :
    reached.spine ⊆ position.spine := by
  induction reaches with
  | stay => exact List.Subset.refl _
  | @leave position reached parent further enclosing outside later induction =>
      have onPath : (position.leaveBlock parent further).spine = position.path := by
        simp [spine, path, leaveBlock, container, around, enclosing, Block.close]
      exact fun entry member => position.path_subset_spine (onPath ▸ induction member)
  | @enter position child latest container deeper aligned =>
      have same : (position.openChild child).spine = position.spine := by
        simp [spine, path, openChild, Position.container, around, latest]
      exact same ▸ List.Subset.refl _

theorem spine_place (position : Position) (entry : Entry) :
    (position.place entry).spine = entry :: position.path :=
  rfl

theorem path_place (position : Position) (entry : Entry) :
    (position.place entry).path = position.path :=
  rfl

/-! ## Grounded positions -/

/-- The open blocks are nested, and the latest child begins where they demand it. -/
structure Grounded (position : Position) : Prop where
  nested : Nested position.container position.around
  latest : ∀ child, position.latest = some child → child.entry.FitsBelow position.container

theorem grounded_initial : Grounded .initial where
  nested := .root
  latest := by
    intro child latest
    simp [initial] at latest

theorem Grounded.leaveBlock {position : Position} (grounded : position.Grounded)
    {parent : Block} {further : List Block} (enclosing : position.enclosing = parent :: further) :
    (position.leaveBlock parent further).Grounded := by
  have nested := grounded.nested
  simp only [around, enclosing, List.map_cons] at nested
  rcases nested.of_cons with ⟨outer, fits⟩
  refine ⟨outer, ?_⟩
  intro child latest
  simp only [Position.leaveBlock, Option.some.injEq] at latest
  subst child
  exact fits

theorem Grounded.openChild {position : Position} (grounded : position.Grounded) {child : Tree}
    (latest : position.latest = some child)
    (container : child.entry.kind.isContainer = true) :
    (position.openChild child).Grounded := by
  refine ⟨.inside grounded.nested container (grounded.latest child latest), ?_⟩
  intro other impossible
  simp [Position.openChild] at impossible

theorem Grounded.reaches {indent : Int} {position reached : Position}
    (grounded : position.Grounded) (reaches : Reaches indent position reached) :
    reached.Grounded := by
  induction reaches with
  | stay => exact grounded
  | leave enclosing outside later induction =>
      exact induction (grounded.leaveBlock enclosing)
  | enter latest container deeper aligned =>
      exact grounded.openChild latest container

theorem Grounded.place {position : Position} (grounded : position.Grounded) {entry : Entry}
    (fits : entry.FitsBelow position.container) :
    (position.place entry).Grounded := by
  refine ⟨grounded.nested, ?_⟩
  intro child latest
  simp only [Position.place, Option.some.injEq] at latest
  subst child
  exact fits

theorem Grounded.latest_indent {position : Position} (grounded : position.Grounded) {child : Tree}
    (latest : position.latest = some child) :
    child.entry.indent = position.column :=
  (grounded.latest child latest).aligned

theorem Grounded.column_eq {position : Position} (grounded : position.Grounded) :
    position.column = indentUnit * position.enclosing.length := by
  rw [column, grounded.nested.bodyIndent_eq]
  simp [around]

theorem Grounded.column_nonneg {position : Position} (grounded : position.Grounded) :
    0 ≤ position.column :=
  grounded.nested.bodyIndent_nonneg

theorem Grounded.bodyIndent_le {position : Position} (grounded : position.Grounded)
    {entry : Entry} (member : entry ∈ position.path) :
    entry.bodyIndent ≤ position.column := by
  rcases List.mem_cons.mp member with rfl | outer
  · exact le_rfl
  · exact grounded.nested.bodyIndent_le_of_mem outer

theorem Grounded.column_eq_zero {position : Position} (grounded : position.Grounded)
    (outermost : position.enclosing = []) :
    position.column = 0 := by
  simp [grounded.column_eq, outermost]

/-- A line is never tried in a block that it lies outside of. -/
theorem Reaches.column_le {indent : Int} {position reached : Position}
    (reaches : Reaches indent position reached) (grounded : position.Grounded)
    (nonneg : 0 ≤ indent) :
    reached.column ≤ indent := by
  induction reaches with
  | stay inside =>
      rcases inside with outermost | inside
      · rw [grounded.column_eq_zero outermost]
        exact nonneg
      · exact inside
  | leave enclosing outside later induction =>
      exact induction (grounded.leaveBlock enclosing)
  | enter latest container deeper aligned =>
      exact aligned.ge

/-! ## Arriving -/

theorem leaveTo_eq_of_isLeftAt {position : Position} {indent : Int} {parent : Block}
    {further : List Block} (enclosing : position.enclosing = parent :: further)
    (outside : indent < position.column) :
    position.leaveTo indent = (position.leaveBlock parent further).leaveTo indent := by
  simp only [column, container] at outside
  simp [leaveTo, enclosing, leaveBlocks, outside, leaveBlock]

theorem leaveTo_eq_self {position : Position} {indent : Int}
    (inside : position.enclosing = [] ∨ position.column ≤ indent) :
    position.leaveTo indent = position := by
  rcases position with ⟨block, latest, enclosing⟩
  cases enclosing with
  | nil => rfl
  | cons parent further =>
      have inside : ¬ indent < block.entry.bodyIndent := by
        simpa [column, container] using inside
      simp [leaveTo, leaveBlocks, inside]

/-- Leaving blocks ends at a position that the line reaches. -/
theorem reaches_leaveTo (position : Position) (indent : Int) :
    Reaches indent position (position.leaveTo indent) := by
  rcases position with ⟨block, latest, enclosing⟩
  induction enclosing generalizing block latest with
  | nil =>
      exact .stay (.inl rfl)
  | cons parent further induction =>
      by_cases outside : indent < block.entry.bodyIndent
      · rw [leaveTo_eq_of_isLeftAt rfl outside]
        exact .leave rfl outside (induction _ _)
      · rw [leaveTo_eq_self (.inr (not_lt.mp outside))]
        exact .stay (.inr (not_lt.mp outside))

theorem isLeftAt_eq_false_iff {position : Position} {indent : Int} :
    position.isLeftAt indent = false ↔
      position.enclosing = [] ∨ position.column ≤ indent := by
  cases enclosing : position.enclosing <;> simp [isLeftAt, enclosing]

/-- What arriving says about where the line is put. -/
theorem arrive_eq_ok_iff {position arrived : Position} {hasLeft : Bool} {indent : Int} :
    position.arrive hasLeft indent = .ok arrived ↔
      (arrived = position ∧ indent ≤ position.column ∧
        (hasLeft = true → indent = position.column)) ∨
      (hasLeft = false ∧ position.column < indent ∧
        ∃ child, position.latest = some child ∧ child.entry.kind.isContainer = true ∧
          indent = child.entry.bodyIndent ∧ arrived = position.openChild child) := by
  unfold arrive
  cases hasLeft <;> cases latest : position.latest <;> grind

/-- A line is expected at the column of the block that it has arrived at. -/
theorem expected_of_arrive {position arrived : Position} {hasLeft : Bool} {indent : Int}
    (success : position.arrive hasLeft indent = .ok arrived) :
    (if position.column < indent then arrived.column else position.column) = arrived.column := by
  split_ifs with deeper
  · rfl
  · rw [arrive, if_neg deeper] at success
    split_ifs at success
    rw [Except.ok.inj success]

/-- A line arrives only at a position that it reaches. -/
theorem reaches_of_arrive {position reached : Position} {indent : Int}
    (arrived : (position.leaveTo indent).arrive (position.isLeftAt indent) indent = .ok reached) :
    Reaches indent position reached := by
  rcases arrive_eq_ok_iff.mp arrived with ⟨rfl, -, -⟩ | ⟨stays, deeper, child, latest,
    container, aligned, rfl⟩
  · exact reaches_leaveTo position indent
  · rw [leaveTo_eq_self (isLeftAt_eq_false_iff.mp stays)] at latest deeper ⊢
    exact .enter latest container deeper aligned

/-- A line that leaves a block does not enter it again. -/
theorem Reaches.eq_leaveTo_or_enter {indent : Int} {position reached : Position}
    (reaches : Reaches indent position reached) :
    reached = position.leaveTo indent ∨
      ((position.enclosing = [] ∨ position.column ≤ indent) ∧ position.column < indent ∧
        ∃ child, position.latest = some child ∧ child.entry.kind.isContainer = true ∧
          indent = child.entry.bodyIndent ∧ reached = position.openChild child) := by
  induction reaches with
  | stay inside =>
      exact .inl (leaveTo_eq_self inside).symm
  | enter latest container deeper aligned =>
      exact .inr ⟨.inr deeper.le, deeper, _, latest, container, aligned, rfl⟩
  | leave enclosing outside later induction =>
      left
      rw [leaveTo_eq_of_isLeftAt enclosing outside]
      rcases induction with stays | ⟨-, -, child, latest, -, aligned, -⟩
      · exact stays
      · simp only [leaveBlock, Option.some.injEq] at latest
        subst child
        exact absurd aligned outside.ne

/-- A line arrives exactly at the position it reaches at its own column. -/
theorem arrive_leaveTo_eq_ok_iff {position reached : Position} {indent : Int}
    (grounded : position.Grounded) (nonneg : 0 ≤ indent) :
    (position.leaveTo indent).arrive (position.isLeftAt indent) indent = .ok reached ↔
      Reaches indent position reached ∧ reached.column = indent := by
  constructor
  · intro arrived
    have reaches := reaches_of_arrive arrived
    have below := reaches.column_le grounded nonneg
    rcases arrive_eq_ok_iff.mp arrived with ⟨rfl, above, -⟩ | ⟨-, -, child, -, -, aligned, rfl⟩
    · exact ⟨reaches, le_antisymm below above⟩
    · exact ⟨reaches, aligned.symm⟩
  · rw [arrive_eq_ok_iff]
    rintro ⟨reaches, column⟩
    rcases reaches.eq_leaveTo_or_enter with rfl | ⟨inside, entered⟩
    · exact .inl ⟨rfl, column.ge, fun _ => column.symm⟩
    · rw [leaveTo_eq_self inside]
      exact .inr ⟨isLeftAt_eq_false_iff.mpr inside, entered⟩

end Position

end Outline
