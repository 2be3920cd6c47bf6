import Outline.Proofs.Listing

/-!
# The stack of scopes

A class opens a scope at the first column and a function opens one a unit further
right.  Before a scope is opened, all scopes are closed that do not begin to the
left of it.  So the columns at which the open scopes begin grow from the outside
to the inside, and beside the outermost scope at most two are open.

This holds after every line, also after one that has been rejected: closing
scopes takes them from the inside only, and what has been declared in a scope
does not matter here.  Because of it no scope is missed when scopes are closed
from the inside: none is left open that begins at the column of the line or
further right.
-/

namespace Outline

namespace Grammar

theorem eq_classBlock_of_admits_function {container : Kind} {earlier : List Kind}
    (admitted : admits container earlier .function = true) :
    container = .classBlock := by
  cases container <;> simp [admits, rootAdmits, functionAdmits, blockAdmits] at admitted ⊢

end Grammar

/-! ## Frames -/

namespace Scope

/-- What a scope is opened with. -/
def frame (scope : Scope) : String × Option Entry :=
  (scope.name, scope.owner)

/-- The column at which the owner of a scope begins. -/
def column? (scope : Scope) : Option Int :=
  scope.owner.map Entry.indent

theorem endsAt_eq_any_column? (scope : Scope) (indent : Int) :
    scope.endsAt indent = scope.column?.any fun column => indent ≤ column := by
  rw [endsAt, column?, Option.any_map]

end Scope

namespace Reading

/-- Attaching a node opens its scope if it has one, and changes no frame of another scope. -/
theorem attach_levels (reading : Reading) (entry : Entry) :
    (reading.attach entry).scopes.levels.map Scope.frame =
      (if entry.kind.opensScope then [(entry.name, some entry)] else []) ++
        reading.scopes.levels.map Scope.frame := by
  cases opens : entry.kind.opensScope with
  | true =>
      rw [(attach_of_opensScope reading opens).1]
      rfl
  | false =>
      cases declares : entry.declares with
      | false =>
          rw [(attach_of_not_declares reading opens declares).1]
          rfl
      | true =>
          cases found : reading.scopes.current.find? entry.name with
          | some first =>
              rw [(attach_of_taken reading opens declares found).1]
              rfl
          | none =>
              rw [(attach_of_free reading opens declares found).1]
              cases inner : reading.scopes.inner <;>
                simp [Scopes.levels, Scopes.replaceCurrent, Scopes.current, Scope.frame, Scope.add,
                  inner]

theorem attach_frames (reading : Reading) (entry : Entry) :
    (reading.attach entry).scopes.inner.map Scope.frame =
      (if entry.kind.opensScope then [(entry.name, some entry)] else []) ++
        reading.scopes.inner.map Scope.frame := by
  have levels := attach_levels reading entry
  simp only [Scopes.levels, List.map_append, ← List.append_assoc] at levels
  exact List.append_inj_left' levels rfl

theorem attach_root_frame (reading : Reading) (entry : Entry) :
    (reading.attach entry).scopes.root.frame = reading.scopes.root.frame := by
  have levels := attach_levels reading entry
  simp only [Scopes.levels, List.map_append, ← List.append_assoc] at levels
  exact List.singleton_inj.mp (List.append_inj_right' levels rfl)

end Reading

/-! ## Columns -/

namespace Scopes

/-- Where columns grow to the inside, those are left open that lie before the column of a line. -/
theorem exists_columns_leaveTo {scopes : Scopes} {columns : List Int}
    (same : scopes.inner.map Scope.column? = columns.map some)
    (descending : columns.Pairwise (· > ·)) (indent : Int) :
    ∃ rest, rest <:+ columns ∧
      (scopes.leaveTo indent).inner.map Scope.column? = rest.map some ∧
      ∀ column ∈ rest, column < indent := by
  refine ⟨columns.dropWhile fun column => indent ≤ column, List.dropWhile_suffix _, ?_, ?_⟩
  · have ends : (fun scope : Scope => scope.endsAt indent) =
        (fun column? => column?.any fun column => decide (indent ≤ column)) ∘ Scope.column? :=
      funext fun scope => scope.endsAt_eq_any_column? indent
    rw [leaveTo, ends, ← List.dropWhile_map, same, List.dropWhile_map]
    rfl
  · intro column member
    have head := List.head?_dropWhile_not (fun column => decide (indent ≤ column)) columns
    have fewer := descending.sublist
      (List.dropWhile_sublist fun column => decide (indent ≤ column))
    cases kept : columns.dropWhile fun column => decide (indent ≤ column) with
    | nil => simp [kept] at member
    | cons first rest =>
        rw [kept] at member fewer head
        have outside : first < indent := by simpa using head
        rcases List.mem_cons.mp member with rfl | further
        · exact outside
        · exact lt_trans ((List.pairwise_cons.mp fewer).1 column further) outside

/--
The scopes inside the outermost one begin at columns that grow from the outside
to the inside, each of them the column of a class or that of a function.
-/
def Stacked (scopes : Scopes) : Prop :=
  ∃ columns : List Int, scopes.inner.map Scope.column? = columns.map some ∧
    columns.Pairwise (· > ·) ∧ ∀ column ∈ columns, column = 0 ∨ column = indentUnit

namespace Stacked

variable {scopes : Scopes}

theorem of_frames {other : Scopes} (stacked : scopes.Stacked)
    (frames : other.inner.map Scope.frame = scopes.inner.map Scope.frame) :
    other.Stacked := by
  have columns := congrArg (List.map fun frame => frame.2.map Entry.indent) frames
  rw [List.map_map, List.map_map] at columns
  rcases stacked with ⟨known, same, facts⟩
  exact ⟨known, columns.trans same, facts⟩

/-- Beside the outermost scope at most two scopes are open. -/
theorem length_le (stacked : scopes.Stacked) : scopes.inner.length ≤ 2 := by
  rcases stacked with ⟨columns, same, descending, known⟩
  have length := congrArg List.length same
  rw [List.length_map, List.length_map] at length
  rw [length]
  match columns with
  | [] | [_] | [_, _] => simp
  | first :: second :: third :: rest =>
      simp only [List.pairwise_cons, List.mem_cons, forall_eq_or_imp, indentUnit]
        at descending known
      omega

/-- A line closes all scopes that begin at its column or further right. -/
theorem leaveTo_column_lt (stacked : scopes.Stacked) (indent : Int) :
    ∃ columns : List Int, (scopes.leaveTo indent).inner.map Scope.column? = columns.map some ∧
      columns.Pairwise (· > ·) ∧ (∀ column ∈ columns, column = 0 ∨ column = indentUnit) ∧
      ∀ column ∈ columns, column < indent := by
  rcases stacked with ⟨columns, same, descending, known⟩
  rcases exists_columns_leaveTo same descending indent with ⟨rest, suffix, left, before⟩
  exact ⟨rest, left, descending.sublist suffix.sublist,
    fun column member => known column (suffix.subset member), before⟩

theorem leaveTo (stacked : scopes.Stacked) (indent : Int) : (scopes.leaveTo indent).Stacked := by
  rcases stacked.leaveTo_column_lt indent with ⟨columns, same, descending, known, -⟩
  exact ⟨columns, same, descending, known⟩

/-- A scope may be opened where the line of its owner has closed scopes before. -/
theorem enter {other : Scopes} (stacked : scopes.Stacked) {owner : Entry}
    (column : owner.indent = 0 ∨ owner.indent = indentUnit)
    (frames : other.inner.map Scope.frame =
      (owner.name, some owner) :: (scopes.leaveTo owner.indent).inner.map Scope.frame) :
    other.Stacked := by
  have columns := congrArg (List.map fun frame => frame.2.map Entry.indent) frames
  rw [List.map_cons, List.map_map, List.map_map] at columns
  rcases stacked.leaveTo_column_lt owner.indent with ⟨around, same, descending, known, before⟩
  refine ⟨owner.indent :: around, ?_, ?_, ?_⟩
  · exact columns.trans (congrArg _ same)
  · exact List.pairwise_cons.mpr ⟨before, descending⟩
  · exact List.forall_mem_cons.mpr ⟨column, known⟩

end Stacked

end Scopes

/-! ## Readings -/

namespace Reading

/-- A class begins at the first column and a function one unit further right. -/
theorem Arrival.indent_of_opensScope {lines : List Line} {reading : Reading} {line : Line}
    {reached : Position} {entry : Entry} (arrival : Arrival lines reading line reached entry)
    (opens : entry.kind.opensScope = true) :
    entry.indent = 0 ∨ entry.indent = indentUnit := by
  have admitted := arrival.admitted
  have nested := arrival.grounded.nested
  rw [arrival.aligned, Position.column, nested.bodyIndent_eq]
  cases kind : entry.kind <;> simp [kind, Kind.opensScope] at opens <;> rw [kind] at admitted
  · left
    have top := nested.eq_root_of_kind (Grammar.eq_root_of_admits_classBlock admitted)
    simp [top.2]
  · right
    have around := nested.around_of_classBlock (Grammar.eq_classBlock_of_admits_function admitted)
    simp [around]

theorem Transition.stacked {earlier : List Line} {line : Line} {reading next : Reading}
    (ascending : Line.Ascending (earlier ++ [line]))
    (faithful : reading.position.Faithful earlier) (stacked : reading.scopes.Stacked)
    (transition : Transition reading line next) :
    next.scopes.Stacked := by
  cases transition with
  | silent quiet => exact stacked
  | skipped loud pausing deeper => exact stacked
  | noted events body heard => exact stacked
  | rejected events body heard obstacle => exact stacked.leaveTo line.indent
  | @attached text reached entry events body heard approached recognised admitted =>
      have arrival := Arrival.of_approach faithful ascending body approached recognised admitted
      have frames := attach_frames (reading.arrived line reached events) entry
      have left : (reading.arrived line reached events).scopes =
          reading.scopes.leaveTo entry.indent := by
        rw [arrival.indent]
        rfl
      rw [left] at frames
      cases opens : entry.kind.opensScope with
      | false =>
          rw [opens] at frames
          exact (stacked.leaveTo entry.indent).of_frames frames
      | true =>
          rw [opens] at frames
          exact stacked.enter (arrival.indent_of_opensScope opens) frames

theorem run_stacked (lines : List Line) (ascending : Line.Ascending lines) :
    (Reading.initial.run lines).scopes.Stacked := by
  refine faithful_induction (fun _ reading => reading.scopes.Stacked) ?_ ?_ lines ascending
  · exact ⟨[], rfl, List.Pairwise.nil, by simp⟩
  · intro earlier line reading next ascending faithful stacked transition
    exact transition.stacked ascending faithful stacked

theorem Transition.root_frame {line : Line} {reading next : Reading}
    (transition : Transition reading line next) :
    next.scopes.root.frame = reading.scopes.root.frame := by
  cases transition with
  | attached events body heard approached recognised admitted => exact attach_root_frame _ _
  | silent | skipped | noted | rejected => rfl

theorem run_root_frame (lines : List Line) :
    (Reading.initial.run lines).scopes.root.frame = Scope.outermost.frame := by
  induction lines using List.reverseRecOn with
  | nil => rfl
  | append_singleton earlier line induction =>
      rw [run_append]
      exact (step_transition _ line).root_frame.trans induction

end Reading

/-! ## Closing -/

namespace Scopes

/--
The outermost scope has no owner; the owners of the others begin further right
the further inside their scopes are.
-/
structure Deepens (scopes : Scopes) : Prop where
  outermost : scopes.root.owner = none
  inner : ∃ columns : List Int, scopes.inner.map Scope.column? = columns.map some ∧
    columns.Pairwise (· > ·)

/-- No open scope begins at a column or further right. -/
def LiesBefore (column : Int) (scopes : Scopes) : Prop :=
  ∀ scope ∈ scopes.levels, ¬ scope.BeginsFrom column

namespace Deepens

variable {scopes : Scopes}

theorem leaveTo (deepens : scopes.Deepens) (column : Int) :
    (scopes.leaveTo column).Deepens := by
  rcases deepens.inner with ⟨columns, same, descending⟩
  rcases exists_columns_leaveTo same descending column with ⟨rest, suffix, left, -⟩
  exact ⟨deepens.outermost, rest, left, descending.sublist suffix.sublist⟩

/-- Among such scopes all are closed that begin at the column or further right. -/
theorem liesBefore_leaveTo (deepens : scopes.Deepens) (column : Int) :
    (scopes.leaveTo column).LiesBefore column := by
  rcases deepens.inner with ⟨columns, same, descending⟩
  rcases exists_columns_leaveTo same descending column with ⟨rest, -, left, before⟩
  rintro scope member ⟨owner, owned, right⟩
  rcases List.mem_append.mp member with inner | outermost
  · have known : scope.column? ∈ rest.map some := left ▸ List.mem_map_of_mem inner
    rw [Scope.column?, owned, Option.map_some] at known
    rcases List.mem_map.mp known with ⟨other, listed, equal⟩
    rw [Option.some.inj equal] at listed
    exact absurd right (before _ listed).not_ge
  · rw [List.mem_singleton.mp outermost, leaveTo_root, deepens.outermost] at owned
    exact absurd owned (by simp)

end Deepens

/-- The open scopes after the first lines of a document are in this order. -/
theorem deepens_run (source : String) (count : Nat) :
    (Reading.initial.run ((Line.ofSource source).take count)).scopes.Deepens := by
  have ascending := Line.ascending_ofSource source
  rw [← List.take_append_drop count (Line.ofSource source)] at ascending
  rcases Reading.run_stacked _ ascending.of_append with ⟨columns, same, descending, -⟩
  have outermost := congrArg Prod.snd
    (Reading.run_root_frame ((Line.ofSource source).take count))
  exact ⟨outermost, columns, same, descending⟩

/--
At a column the longest segment of scopes is closed that begin there or further
right, one after the other.  Two closings are one closing at the lesser column,
and they close as many scopes as that one.  While a document is read, the owners
of the open scopes begin further right the further inside the scopes are, so no
scope is left open that begins at the column or further right.
-/
theorem leaveTo_composes :
    (∀ (scopes : Scopes) (column : Int),
      scopes.Closes column (scopes.endedAt column) (scopes.leaveTo column) ∧
        (fun scopes => scopes.perform .leave)^[(scopes.endedAt column).length] scopes =
          scopes.leaveTo column) ∧
    (∀ (scopes : Scopes) (first second : Int),
      (scopes.leaveTo first).leaveTo second = scopes.leaveTo (min first second) ∧
        (scopes.endedAt first).length + ((scopes.leaveTo first).endedAt second).length =
          (scopes.endedAt (min first second)).length) ∧
    ∀ (source : String) (count : Nat),
      let scopes := (Reading.initial.run ((Line.ofSource source).take count)).scopes
      scopes.Deepens ∧
        ∀ column : Int,
          (scopes.leaveTo column).Deepens ∧ (scopes.leaveTo column).LiesBefore column := by
  refine ⟨?_, ?_, ?_⟩
  · intro scopes column
    have closes := scopes.closes_leaveTo column
    exact ⟨closes, closes.iterate_leave⟩
  · intro scopes first second
    refine ⟨scopes.leaveTo_min first second, ?_⟩
    rw [← scopes.endedAt_min, List.length_append]
  · intro source count scopes
    have deepens : scopes.Deepens := deepens_run source count
    exact ⟨deepens, fun column => ⟨deepens.leaveTo column, deepens.liesBefore_leaveTo column⟩⟩

end Scopes

end Outline
