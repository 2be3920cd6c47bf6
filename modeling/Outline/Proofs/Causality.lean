import Outline.Proofs.Building
import Outline.Proofs.Renumbering
import Outline.Proofs.Yield

/-!
# Later lines change nothing

A document is read once, from above.  What has come of a line stays as it is,
since all that later lines add bears their own numbers.  So the first lines of a
document, read alone, give what the whole document gives up to the last of them.
This holds for every cut, also for one among lines that are passed over.

The two readings go together up to the cut, and the longer one then goes on.
Neither of them looks ahead, so it is enough that no step touches what is cut off
from the later lines.
-/

namespace Outline

/-! ## Trees up to a line -/

namespace Tree

section

variable (last : Int)

mutual

/-- The tree without the nodes that come after a line. -/
def upTo : Tree → Tree
  | ⟨entry, children⟩ => ⟨entry, upToAll children⟩

/-- The trees that do not begin after a line, each without the nodes that do. -/
def upToAll : List Tree → List Tree
  | [] => []
  | tree :: rest =>
    if tree.entry.lineNumber ≤ last then tree.upTo :: upToAll rest else upToAll rest

end

end

variable {last : Int}

theorem upToAll_eq_map (trees : List Tree) :
    upToAll last trees =
      (trees.filter fun tree => tree.entry.lineNumber ≤ last).map (upTo last) := by
  induction trees with
  | nil => simp [upToAll]
  | cons tree rest induction =>
      by_cases early : tree.entry.lineNumber ≤ last <;> simp [upToAll, early, induction]

theorem upTo_mk (entry : Entry) (children : List Tree) :
    upTo last ⟨entry, children⟩ =
      ⟨entry, (children.filter fun tree => tree.entry.lineNumber ≤ last).map (upTo last)⟩ := by
  rw [upTo, upToAll_eq_map]

@[simp]
theorem upTo_entry (tree : Tree) : (tree.upTo last).entry = tree.entry := by
  cases tree
  rw [upTo_mk]

mutual

/-- Nothing is cut off from a tree whose nodes all come early. -/
theorem upTo_eq_self (tree : Tree) (early : ∀ entry ∈ tree.entries, entry.lineNumber ≤ last) :
    tree.upTo last = tree := by
  match tree with
  | ⟨entry, children⟩ =>
      rw [entries_mk] at early
      rw [upTo, upToAll_eq_self children]
      exact fun other member => early other (List.mem_cons_of_mem _ member)

theorem upToAll_eq_self (trees : List Tree)
    (early : ∀ entry ∈ trees.flatMap Tree.entries, entry.lineNumber ≤ last) :
    upToAll last trees = trees := by
  match trees with
  | [] => simp [upToAll]
  | ⟨entry, children⟩ :: rest =>
      simp only [List.flatMap_cons, List.mem_append] at early
      have top : entry.lineNumber ≤ last := early entry (.inl (by simp [entries_mk]))
      rw [upToAll, if_pos top, upTo_eq_self _ fun other member => early other (.inl member),
        upToAll_eq_self rest fun other member => early other (.inr member)]

end

end Tree

namespace Position

variable {last : Int}

/-- Trees that are the same up to a line stay so when blocks are closed around them. -/
theorem closeAll_upTo {inner other : Tree} (same : inner.upTo last = other.upTo last)
    (enclosing : List Block) :
    (closeAll inner enclosing).upTo last = (closeAll other enclosing).upTo last := by
  induction enclosing generalizing inner other with
  | nil => exact same
  | cons parent further induction =>
      have entry : inner.entry = other.entry := by
        rw [← @Tree.upTo_entry last inner, same, Tree.upTo_entry]
      apply induction
      simp only [Block.close, Option.toList_some, List.singleton_append, List.reverse_cons,
        Tree.upTo_mk, List.filter_append, List.map_append]
      by_cases early : other.entry.lineNumber ≤ last <;> simp [entry, early, same]

/-- A node that comes after a line is cut off with the tree of that line. -/
theorem place_upTo (position : Position) {entry : Entry} (later : last < entry.lineNumber) :
    (position.place entry).toTree.upTo last = position.toTree.upTo last := by
  apply closeAll_upTo
  simp [Block.close, place, children, Tree.upTo_mk, later.not_ge]

end Position

/-! ## Readings of more lines -/

namespace Reading

variable {last : Int}

/-- A line changes nothing of the tree up to an earlier line. -/
theorem step_upTo (reading : Reading) {line : Line} (later : last < line.number) :
    (reading.step line).position.toTree.upTo last = reading.position.toTree.upTo last := by
  have transition := step_transition reading line
  generalize reading.step line = next at transition
  cases transition with
  | silent quiet => rfl
  | skipped loud pausing deeper => rfl
  | noted events body heard => rfl
  | @rejected text reached problem events body heard obstacle =>
      show reached.toTree.upTo last = _
      rw [obstacle.reaches.toTree_eq]
  | @attached text reached entry events body heard approached recognised admitted =>
      have number : last < entry.lineNumber :=
        (Entry.ofContent?_eq_some recognised).2.2.1 ▸ later
      rw [attach_position, Position.place_upTo _ number]
      show reached.toTree.upTo last = _
      rw [(reaches_of_approach approached).toTree_eq]

theorem run_upTo (reading : Reading) {lines : List Line}
    (later : ∀ line ∈ lines, last < line.number) :
    (reading.run lines).position.toTree.upTo last = reading.position.toTree.upTo last := by
  induction lines generalizing reading with
  | nil => rfl
  | cons line rest induction =>
      rw [run_cons, induction _ fun other member => later other (List.mem_cons_of_mem _ member),
        step_upTo reading (later line List.mem_cons_self)]

/-- All nodes of a reading have numbers of its lines, or are the root. -/
theorem lineNumber_le_of_mem_entries {lines : List Line} (ascending : Line.Ascending lines)
    (early : ∀ line ∈ lines, line.number ≤ last) (nonneg : 0 ≤ last) {entry : Entry}
    (member : entry ∈ (initial.run lines).position.toTree.entries) :
    entry.lineNumber ≤ last := by
  rcases (run_faithful lines ascending).lineNumber_mem member with
    rfl | ⟨line, known, -, number, -⟩
  · exact nonneg
  · exact number ▸ early line known

end Reading

/-! ## Outcomes of more lines -/

/-- An outcome is another one up to a line: nothing more and nothing less is known there. -/
structure Outcome.IsUpTo (outcome : Outcome) (last : Int) (whole : Outcome) : Prop where
  tree : outcome.tree = whole.tree.upTo last
  /-- Each node has the same parent, the same nodes around it and the same nodes before it. -/
  placements :
    outcome.tree.placements [] =
      (whole.tree.placements []).filter fun placement => placement.child.lineNumber ≤ last
  findings : outcome.findings = whole.findings.filter fun finding => finding.lineNumber ≤ last

/-- What lines give is kept up to the last of them when later ones are read. -/
theorem Outcome.ofLines_isUpTo {last : Int} {first second : List Line}
    (ascending : Line.Ascending first) (nonneg : 0 ≤ last)
    (early : ∀ line ∈ first, line.number ≤ last) (later : ∀ line ∈ second, last < line.number) :
    (ofLines first).IsUpTo last (ofLines (first ++ second)) := by
  have known := Reading.initial_run_grows first
  rcases Reading.run_grows (Reading.initial.run first) second with
    ⟨placements, findings, grows, nodes, reports⟩
  constructor
  · rw [ofLines_tree, ofLines_tree, Reading.run_append, Reading.run_upTo _ later,
      Tree.upTo_eq_self]
    exact fun entry member =>
      Reading.lineNumber_le_of_mem_entries ascending early nonneg member
  · rw [ofLines_tree, ofLines_tree, Reading.run_append, grows.placements, filter_front]
    · intro placement member
      rcases known.1 placement member with ⟨line, old, -, number⟩
      simpa [number] using early line old
    · intro placement member
      rcases nodes placement member with ⟨line, new, -, number⟩
      simpa [number] using later line new
  · rw [ofLines_findings, ofLines_findings, Reading.run_append, grows.findings,
      List.reverse_append, filter_front]
    · intro finding member
      rcases known.2 finding (List.mem_reverse.mp member) with ⟨line, old, number⟩
      simpa [number] using early line old
    · intro finding member
      rcases reports finding (List.mem_reverse.mp member) with ⟨line, new, number⟩
      simpa [number] using later line new

/-- The lines after the first ones have higher numbers. -/
theorem Line.lt_number_of_mem_drop {raws : List String} {count : Nat} {line : Line}
    (member : line ∈ (Line.ofRaws (raws.drop count)).map
      (Line.renumber (Line.shift 0 (raws.take count).length))) :
    count < line.number := by
  rcases List.mem_map.mp member with ⟨source, known, rfl⟩
  rcases Line.number_of_mem_ofRaws known with ⟨positive, bounded⟩
  have moved : (source.renumber (Line.shift 0 (raws.take count).length)).number =
      source.number + (raws.take count).length :=
    if_pos positive
  rw [moved]
  simp only [List.length_drop, List.length_take] at bounded ⊢
  omega

/--
Nothing that comes later in a document changes what has come of a line.  The
first lines, read alone, give the outcome of the whole document up to the last
of them.
-/
theorem Outcome.ofRaws_take_isUpTo (raws : List String) (count : Nat) :
    (ofRaws (raws.take count)).IsUpTo count (ofRaws raws) := by
  have whole := Line.ofRaws_append (raws.take count) (raws.drop count)
  rw [List.take_append_drop] at whole
  have early : ∀ line ∈ Line.ofRaws (raws.take count), line.number ≤ count := by
    intro line member
    have bounded := (Line.number_of_mem_ofRaws member).2
    rw [List.length_take] at bounded
    omega
  simp only [ofRaws]
  rw [whole]
  exact ofLines_isUpTo (Line.ascending_ofRaws _) (Int.natCast_nonneg _) early
    fun line member => Line.lt_number_of_mem_drop member

end Outline
