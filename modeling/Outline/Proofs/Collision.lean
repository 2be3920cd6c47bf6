import Outline.Proofs.Transition

/-!
# Collisions of names

A variable of a class collides with the class or with an earlier variable of the
class that has its name.

A structural line at the first column ends the scope of the class, also if the
line is rejected.  A variable of the class that comes after such a line is cut
off from the class.  It is compared with the strays, the variables of the
document that are cut off before it, of whatever class.

What a variable is compared with is settled by the lines and the nodes up to the
variable.
-/

namespace Outline

/-! ## Collisions -/

/-- Whether a line ends the scope of an earlier class. -/
def Line.cutsOff (line : Line) (entry : Entry) : Bool :=
  line.isStructural && line.indent = 0 && entry.lineNumber < line.number

/-- Whether one of the lines ends the scope of a class. -/
def Entry.isCutOff (lines : List Line) (entry : Entry) : Bool :=
  lines.any fun line => line.cutsOff entry

namespace Placement

/-- Whether a named variable stands below a class. -/
def isMember (placement : Placement) : Bool :=
  placement.parent.kind = .classBlock && placement.child.kind = .field
    && placement.child.name != ""

theorem isMember_iff {placement : Placement} :
    placement.isMember = true ↔
      placement.parent.kind = .classBlock ∧ placement.child.kind = .field ∧
        placement.child.name ≠ "" := by
  simp [isMember, and_assoc]

theorem declares_of_isMember {placement : Placement} (isMember : placement.isMember = true) :
    placement.child.kind.opensScope = false ∧ placement.child.declares = true := by
  rcases isMember_iff.mp isMember with ⟨-, field, named⟩
  rw [Entry.declares, field]
  exact ⟨rfl, by simp [Kind.mayDeclare, named]⟩

/-- Whether a line between a node and its parent has ended the scope of the parent. -/
def isCutOff (lines : List Line) (placement : Placement) : Bool :=
  lines.any fun line =>
    line.cutsOff placement.parent && line.number < placement.child.lineNumber

/-- The parent of a node and the variables before the node below it. -/
def rivals (placement : Placement) : List Entry :=
  placement.parent :: placement.earlier.filter fun entry => entry.kind = .field

/-- The named variables before a node that are cut off from their classes. -/
def strays (lines : List Line) (placements : List Placement) (placement : Placement) :
    List Entry :=
  (placements.filter fun other =>
    other.isMember && other.isCutOff lines
      && other.child.lineNumber < placement.child.lineNumber).map Placement.child

/-- The line of the first of some nodes that has the name of the placed one. -/
def lineOfName? (placement : Placement) (entries : List Entry) : Option Int :=
  (entries.find? fun entry => entry.name = placement.child.name).map Entry.lineNumber

theorem lineOfName?_eq_none_iff {placement : Placement} {entries : List Entry} :
    placement.lineOfName? entries = none ↔
      ∀ entry ∈ entries, entry.name ≠ placement.child.name := by
  simp [lineOfName?]

/-- The line that a report about a placed variable would cite. -/
def takenAt? (lines : List Line) (placements : List Placement) (placement : Placement) :
    Option Int :=
  placement.lineOfName?
    (if placement.isCutOff lines then placement.strays lines placements else placement.rivals)

theorem takenAt?_eq_rivals_iff {lines : List Line} {placements : List Placement}
    {placement : Placement} :
    placement.takenAt? lines placements = placement.lineOfName? placement.rivals ↔
      (placement.isCutOff lines = true →
        placement.lineOfName? (placement.strays lines placements) =
          placement.lineOfName? placement.rivals) := by
  rw [takenAt?]
  cases placement.isCutOff lines <;> simp

/-- What is reported about a placed node, if anything. -/
def redeclared? (lines : List Line) (placements : List Placement) (placement : Placement) :
    Option (Int × String × Int) :=
  if placement.isMember then
    (placement.takenAt? lines placements).map fun first =>
      (placement.child.lineNumber, placement.child.name, first)
  else
    none

end Placement

/-- The line, the name and the cited line of a finding about a redeclared name. -/
def Finding.redeclared? (finding : Finding) : Option (Int × String × Int) :=
  match finding.problem with
  | .alreadyDefined name first => some (finding.lineNumber, name, first)
  | _ => none

/--
Whether the findings report exactly the variables that have the name of their
class or of an earlier variable of the class, and cite the first of these.
-/
def Tree.CollisionsAreReported (tree : Tree) (findings : List Finding) : Prop :=
  ∀ (lineNumber : Int) (name : String) (first : Int),
    ⟨lineNumber, .alreadyDefined name first⟩ ∈ findings ↔
      ∃ placement ∈ tree.placements [], placement.isMember = true ∧
        placement.child.lineNumber = lineNumber ∧ placement.child.name = name ∧
          placement.lineOfName? placement.rivals = some first

/-! ## Later lines -/

theorem Entry.isCutOff_append (lines : List Line) (line : Line) (entry : Entry) :
    entry.isCutOff (lines ++ [line]) = (entry.isCutOff lines || line.cutsOff entry) := by
  simp [isCutOff]

theorem Line.cutsOff_eq_false_of_inner {line : Line} (inner : line.isStructural = true →
    0 < line.indent) (entry : Entry) :
    line.cutsOff entry = false := by
  cases structural : line.isStructural with
  | false => simp [cutsOff, structural]
  | true => simp [cutsOff, (inner structural).ne']

/-- The named variables that are cut off from their classes. -/
def strayMembers (lines : List Line) (placements : List Placement) : List Entry :=
  (placements.filter fun other => other.isMember && other.isCutOff lines).map Placement.child

namespace Placement

variable {lines : List Line} {placement : Placement} {placements : List Placement} {line : Line}

/-- A later line does not cut a node off. -/
theorem isCutOff_append (older : placement.child.lineNumber < line.number) :
    placement.isCutOff (lines ++ [line]) = placement.isCutOff lines := by
  have later : ¬ line.number < placement.child.lineNumber := older.not_gt
  simp [isCutOff, later]

/-- A node is cut off by the lines before its own if its parent is. -/
theorem isCutOff_last (ascending : Line.Ascending (lines ++ [line]))
    (last : placement.child.lineNumber = line.number) :
    placement.isCutOff (lines ++ [line]) = placement.parent.isCutOff lines := by
  have before : ∀ other ∈ lines, other.number < placement.child.lineNumber :=
    fun other member => last ▸ ascending.lt_last member
  rw [Bool.eq_iff_iff]
  simp only [isCutOff, Entry.isCutOff, List.any_eq_true, List.mem_append, List.mem_singleton,
    Bool.and_eq_true, decide_eq_true_eq]
  constructor
  · rintro ⟨other, member | rfl, cuts, earlier⟩
    · exact ⟨other, member, cuts⟩
    · exact absurd earlier last.not_gt
  · rintro ⟨other, member, cuts⟩
    exact ⟨other, .inl member, cuts, before other member⟩

theorem strayMembers_append_line
    (older : ∀ other ∈ placements, other.child.lineNumber < line.number) :
    strayMembers (lines ++ [line]) placements = strayMembers lines placements := by
  rw [strayMembers, strayMembers]
  congr 1
  apply List.filter_congr
  intro other member
  rw [isCutOff_append (older other member)]

/-- What is reported about a node is settled by the lines and the nodes up to it. -/
theorem redeclared?_extend (added : List Placement)
    (member : placement ∈ placements)
    (older : ∀ other ∈ placements, other.child.lineNumber < line.number)
    (newer : ∀ other ∈ added, line.number ≤ other.child.lineNumber) :
    placement.redeclared? (lines ++ [line]) (placements ++ added) =
      placement.redeclared? lines placements := by
  have strays : placement.strays (lines ++ [line]) (placements ++ added) =
      placement.strays lines placements := by
    rw [Placement.strays, Placement.strays, List.filter_append, List.map_append]
    have none : (added.filter fun other =>
        other.isMember && other.isCutOff (lines ++ [line])
          && other.child.lineNumber < placement.child.lineNumber) = [] := by
      rw [List.filter_eq_nil_iff]
      intro other later
      have order := (older placement member).trans_le (newer other later)
      simp [order.le]
    rw [none, List.map_nil, List.append_nil]
    congr 1
    apply List.filter_congr
    intro other known
    rw [isCutOff_append (older other known)]
  rw [redeclared?, redeclared?, takenAt?, takenAt?, strays,
    isCutOff_append (older placement member)]

/-- The last node is compared with the strays before it, or with its rivals. -/
theorem takenAt?_last (ascending : Line.Ascending (lines ++ [line]))
    (older : ∀ other ∈ placements, other.child.lineNumber < line.number)
    (last : placement.child.lineNumber = line.number) :
    placement.takenAt? (lines ++ [line]) (placements ++ [placement]) =
      placement.lineOfName?
        (if placement.parent.isCutOff lines then strayMembers lines placements
          else placement.rivals) := by
  have strays : placement.strays (lines ++ [line]) (placements ++ [placement]) =
      strayMembers lines placements := by
    rw [Placement.strays, strayMembers, List.filter_append, List.map_append]
    have own : ([placement].filter fun other =>
        other.isMember && other.isCutOff (lines ++ [line])
          && other.child.lineNumber < placement.child.lineNumber) = [] := by
      simp
    rw [own, List.map_nil, List.append_nil]
    congr 1
    apply List.filter_congr
    intro other known
    have before := older other known
    simp [isCutOff_append before, last, before]
  rw [takenAt?, strays, isCutOff_last ascending last]

end Placement

end Outline
