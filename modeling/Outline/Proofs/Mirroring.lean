import Outline.Proofs.Ancestry
import Outline.Proofs.OpenPath

/-!
# Scopes and the open path

The open scopes are those that belong to the position at which a node has been
placed.  A line ends scopes by its own column, while it leaves blocks by the
columns of their bodies, and a line that is rejected does both.  After such a
line the scopes may lack that of the latest child.

This goes unnoticed if the next structural line is no deeper than the block.  It
is no deeper in a recovery.  It is no deeper after a note that has ended a
recovery, if the note stands in the column of that line.  So the invariant
`Mirrors` says that scopes and position agree, or that they will at the next
structural line.
-/

namespace Outline

/-! ## Aligned documents -/

/-- Every note stands in the column of the first structural line after it. -/
def Line.Aligned : List Line → Prop
  | [] => True
  | line :: rest =>
    (line.isNote = true → ∀ next ∈ rest.find? Line.isStructural, line.indent = next.indent) ∧
      Aligned rest

instance Line.decidableAligned : (lines : List Line) → Decidable (Line.Aligned lines)
  | [] => inferInstanceAs (Decidable True)
  | line :: rest =>
    have : Decidable (Line.Aligned rest) := Line.decidableAligned rest
    inferInstanceAs (Decidable ((line.isNote = true →
      ∀ next ∈ rest.find? Line.isStructural, line.indent = next.indent) ∧ Line.Aligned rest))

/-- A note after which no structural line has come. -/
def Line.Waits (lines : List Line) (note : Line) : Prop :=
  ∃ early late, lines = early ++ note :: late ∧ note.isNote = true ∧
    ∀ other ∈ late, other.isStructural = false

namespace Line

theorem Aligned.of_append {first second : List Line} (aligned : Aligned (first ++ second)) :
    Aligned first := by
  induction first with
  | nil => trivial
  | cons line rest induction =>
      refine ⟨?_, induction aligned.2⟩
      intro noted next known
      apply aligned.1 noted
      simp only [Option.mem_def] at known ⊢
      simp [List.find?_append, known]

theorem Aligned.right_of_append {first second : List Line} (aligned : Aligned (first ++ second)) :
    Aligned second := by
  induction first with
  | nil => exact aligned
  | cons line rest induction => exact induction aligned.2

/-- A structural line stands in the column of the notes that wait for it. -/
theorem Aligned.indent_eq {lines : List Line} {note next : Line}
    (aligned : Aligned (lines ++ [next])) (waits : Waits lines note)
    (structural : next.isStructural = true) :
    note.indent = next.indent := by
  rcases waits with ⟨early, late, rfl, noted, quiet⟩
  rw [List.append_assoc] at aligned
  apply aligned.right_of_append.1 noted
  have none : late.find? Line.isStructural = none := by
    simpa [List.find?_eq_none] using quiet
  simp [List.find?_append, none, structural]

theorem Waits.append {lines : List Line} {note line : Line} (waits : Waits lines note)
    (other : line.isStructural = false) :
    Waits (lines ++ [line]) note := by
  rcases waits with ⟨early, late, rfl, noted, quiet⟩
  refine ⟨early, late ++ [line], by simp, noted, ?_⟩
  intro later member
  rcases List.mem_append.mp member with old | last
  · exact quiet later old
  · exact List.mem_singleton.mp last ▸ other

theorem waits_last (lines : List Line) {note : Line} (noted : note.isNote = true) :
    Waits (lines ++ [note]) note :=
  ⟨lines, [], rfl, noted, by simp⟩

end Line

namespace Reading

variable {reading : Reading} {entry : Entry}

/-! ## The invariant -/

/-- The next structural line that is read will be no deeper than the innermost block. -/
def IsBounded (lines : List Line) (reading : Reading) : Prop :=
  reading.recovery.isSome = true ∨
    ∃ note, Line.Waits lines note ∧ (note.indent : Int) ≤ reading.position.column

theorem IsBounded.of_hears {lines : List Line} {line : Line} (bounded : reading.IsBounded lines)
    (traced : reading.Traced lines) (heard : reading.Hears line) :
    (line.indent : Int) ≤ reading.position.column ∨
      ∃ note, Line.Waits lines note ∧ (note.indent : Int) ≤ reading.position.column := by
  rcases bounded with pausing | waiting
  · left
    rcases Option.isSome_iff_exists.mp pausing with ⟨recovery, pausing⟩
    rw [← traced.recovery recovery pausing]
    exact heard recovery pausing
  · exact .inr waiting

/-- The scopes belong to the position, or they will at the next structural line. -/
def Mirrors (lines : List Line) (reading : Reading) : Prop :=
  reading.scopes = reading.position.scopes ∨
    reading.IsBounded lines ∧ ∀ indent ≤ reading.position.column,
      reading.scopes.leaveTo indent = reading.position.scopes.leaveTo indent

theorem mirrors_initial : Reading.initial.Mirrors [] :=
  .inl rfl

namespace Mirrors

variable {lines : List Line} {line : Line} {next : Reading}

/-- What a structural line leaves open belongs to the position at which it is tried. -/
theorem leaveTo_eq (mirrors : reading.Mirrors lines) (traced : reading.Traced lines)
    (grounded : reading.position.Grounded) (aligned : Line.Aligned (lines ++ [line]))
    (structural : line.isStructural = true) (heard : reading.Hears line) {reached : Position}
    (reaches : reading.position.Reaches line.indent reached) :
    reading.scopes.leaveTo line.indent = reached.scopes.leaveTo line.indent := by
  rw [← reaches.leaveTo_scopes grounded]
  rcases mirrors with same | ⟨bounded, agrees⟩
  · rw [same]
  · apply agrees
    rcases bounded.of_hears traced heard with shallow | ⟨note, waits, shallow⟩
    · exact shallow
    · rw [← aligned.indent_eq waits structural]
      exact shallow

theorem attach (mirrors : reading.Mirrors lines) (traced : reading.Traced lines)
    (grounded : reading.position.Grounded) (aligned : Line.Aligned (lines ++ [line]))
    (structural : line.isStructural = true) (heard : reading.Hears line) {reached : Position}
    (approached : reading.approach line = .ok reached)
    (admitted : reached.admits entry.kind = true) (events : List Event) :
    ((reading.arrived line reached events).attach entry).scopes = (reached.place entry).scopes := by
  rcases (approach_eq_ok_iff grounded).mp approached with ⟨reaches, column⟩
  have left := mirrors.leaveTo_eq traced grounded aligned structural heard reaches
  have inside := (grounded.reaches reaches).leaveTo_column
  rw [column, ← left] at inside
  have arrived : (reading.arrived line reached events).scopes =
      { inner := Tree.scopes reached.openTrees } := inside
  exact attach_scopes arrived admitted

/-- A line that is silent or passed over changes nothing. -/
theorem wait (mirrors : reading.Mirrors lines)
    (unread : line.isStructural = true → reading.recovery.isSome = true) :
    reading.Mirrors (lines ++ [line]) := by
  rcases mirrors with same | ⟨bounded, agrees⟩
  · exact .inl same
  · refine .inr ⟨?_, agrees⟩
    cases structural : line.isStructural with
    | true => exact .inl (unread structural)
    | false =>
        rcases bounded with pausing | ⟨note, waits, shallow⟩
        · exact .inl pausing
        · exact .inr ⟨note, waits.append structural, shallow⟩

/-- A note that ends a recovery is no deeper than the innermost block. -/
theorem note (mirrors : reading.Mirrors lines) (traced : reading.Traced lines)
    (noted : line.isNote = true) (heard : reading.Hears line)
    (position : next.position = reading.position) (scopes : next.scopes = reading.scopes) :
    next.Mirrors (lines ++ [line]) := by
  rw [Mirrors, position, scopes]
  rcases mirrors with same | ⟨bounded, agrees⟩
  · exact .inl same
  · refine .inr ⟨.inr ?_, agrees⟩
    rw [position]
    rcases bounded.of_hears traced heard with shallow | ⟨note, waits, shallow⟩
    · exact ⟨line, Line.waits_last lines noted, shallow⟩
    · exact ⟨note, waits.append (Line.isStructural_eq_false_of_isNote noted), shallow⟩

end Mirrors

/-- In an aligned document every transition keeps scopes and blocks in step. -/
theorem Transition.mirrors {earlier : List Line} {line : Line} {next : Reading}
    (aligned : Line.Aligned (earlier ++ [line])) (faithful : reading.position.Faithful earlier)
    (traced : reading.Traced earlier) (mirrors : reading.Mirrors earlier)
    (transition : Transition reading line next) :
    next.Mirrors (earlier ++ [line]) := by
  cases transition with
  | silent quiet =>
      apply mirrors.wait
      intro structural
      simp [(Line.neither_of_silent quiet).1] at structural
  | skipped loud pausing deeper =>
      apply mirrors.wait
      simp [pausing]
  | noted events body heard =>
      exact mirrors.note traced (Line.isNote_of_body body) heard rfl rfl
  | @rejected text reached problem events body heard obstacle =>
      have reaches := obstacle.reaches
      have left := mirrors.leaveTo_eq traced faithful.grounded aligned
        (Line.isStructural_of_body body) heard reaches
      -- The latest child may have lost its scope; the recovery ends before a line can enter it.
      refine .inr ⟨.inl rfl, ?_⟩
      intro indent shallow
      have inside := shallow.trans
        (reaches.column_le faithful.grounded (Int.natCast_nonneg _))
      show (reading.scopes.leaveTo line.indent).leaveTo indent = reached.scopes.leaveTo indent
      rw [left, Scopes.leaveTo_leaveTo _ inside]
  | @attached text reached entry events body heard approached recognised admitted =>
      left
      rw [attach_position]
      exact mirrors.attach traced faithful.grounded aligned (Line.isStructural_of_body body) heard
        approached admitted events

theorem run_mirrors (lines : List Line) (ascending : Line.Ascending lines)
    (aligned : Line.Aligned lines) :
    (Reading.initial.run lines).Mirrors lines := by
  refine (faithful_induction
    (fun lines reading => reading.Traced lines ∧ (Line.Aligned lines → reading.Mirrors lines))
    ⟨traced_initial, fun _ => mirrors_initial⟩ ?_ lines ascending).2 aligned
  rintro earlier line reading next ascending faithful ⟨traced, mirrors⟩ transition
  refine ⟨transition.traced ascending faithful traced, ?_⟩
  intro aligned
  exact transition.mirrors aligned faithful traced (mirrors aligned.of_append)

/-! ## Whenever a node has been placed -/

/--
In an aligned document, whenever a node has been placed, the open scopes are
those of the classes and functions on the path to the node, in this order, and
nothing is declared outside of them.
-/
theorem ofSource_scopes_belongTo (source : String) (aligned : Line.Aligned (Line.ofSource source))
    {before after : List Line} {line : Line}
    (split : Line.ofSource source = before ++ line :: after)
    {node : Entry} (placed : (initial.run (before ++ [line])).position.toTree.entries =
      (initial.run before).position.toTree.entries ++ [node]) :
    ∃ path, (initial.run (before ++ [line])).position.toTree.IsPath node path ∧
      List.Forall₂ Scope.BelongsTo (initial.run (before ++ [line])).scopes.inner.reverse
        (path.filter fun tree => tree.entry.kind.opensScope) ∧
      (initial.run (before ++ [line])).scopes.root.declarations = [] := by
  have ascending := Line.ascending_ofSource source
  rw [split, List.append_cons] at ascending aligned
  have faithful := run_faithful before ascending.of_append.init
  have traced := run_traced before ascending.of_append.init
  have mirrors := run_mirrors before ascending.of_append.init aligned.of_append.of_append
  have transition := step_transition (initial.run before) line
  rw [run_append, run_cons, run_nil] at placed ⊢
  generalize (initial.run before).step line = next at transition placed
  cases transition with
  | silent quiet => simp at placed
  | skipped loud pausing deeper => simp at placed
  | noted events body heard => simp at placed
  | @rejected text reached problem events body heard obstacle =>
      have same : reached.toTree = (initial.run before).position.toTree :=
        obstacle.reaches.toTree_eq
      simp [reject, report, arrived, same] at placed
  | @attached text reached entry events body heard approached recognised admitted =>
      have belongs := mirrors.attach traced faithful.grounded aligned.of_append
        (Line.isStructural_of_body body) heard approached admitted events
      have same : ((initial.run before).arrived line reached events).position.toTree =
          (initial.run before).position.toTree :=
        (reaches_of_approach approached).toTree_eq
      rw [attach_position, Position.entries_place, same, List.append_cancel_left_eq,
        List.singleton_inj] at placed
      subst node
      rw [attach_position, belongs]
      have leaf : (reached.place entry).latest = some ⟨entry, []⟩ := rfl
      refine ⟨_, Position.isPath_lineage leaf, ?_, rfl⟩
      rw [Position.scopes, Tree.scopes, ← List.map_reverse, ← List.filter_reverse,
        List.forall₂_map_left_iff, List.forall₂_same]
      exact fun tree _ => tree.scope_belongsTo

/-- A line of a class is rejected, and a note on a function ends the recovery. -/
def recovered : String :=
  "class: A\n    var: x\n    bogus: y\n        input: b\n    @ note\n    func: f\n"
    ++ "        input: a\n    var: x"

/-- The lines of the recovered document before the input. -/
def recoveredLines : List Line :=
  (Line.ofSource recovered).take 6

/-- The input of the function. -/
def recoveredInput : Entry where
  kind := .input
  content := "input: a"
  indent := 8
  lineNumber := 7

/-- When the input is placed, the scopes of the class and of the function are open. -/
theorem ofSource_scopes_belongTo_recovered :
    Line.Aligned (Line.ofSource recovered) ∧
      ∃ path, (initial.run (recoveredLines
          ++ [⟨7, 8, .structural "input: a"⟩])).position.toTree.IsPath recoveredInput path ∧
        List.Forall₂ Scope.BelongsTo
          (initial.run (recoveredLines ++ [⟨7, 8, .structural "input: a"⟩])).scopes.inner.reverse
          (path.filter fun tree => tree.entry.kind.opensScope) := by
  have aligned : Line.Aligned (Line.ofSource recovered) := by
    decide +kernel
  have split : Line.ofSource recovered =
      recoveredLines ++ ⟨7, 8, .structural "input: a"⟩ :: (Line.ofSource recovered).drop 7 := by
    decide +kernel
  have placed :
      (initial.run (recoveredLines ++ [⟨7, 8, .structural "input: a"⟩])).position.toTree.entries =
        (initial.run recoveredLines).position.toTree.entries ++ [recoveredInput] := by
    decide +kernel
  rcases ofSource_scopes_belongTo recovered aligned split placed with ⟨path, toNode, belongs, -⟩
  exact ⟨aligned, path, toNode, belongs⟩

end Reading

end Outline
