import Mathlib.Data.List.Infix
import Outline.Proofs.Causality
import Outline.Proofs.Influence

/-!
# Notes and the nodes that take them

Two sorts of lines decide what becomes of notes: the notes that are heard and the
structural lines that are attached.  In the sequence of these lines each note
looks at the line right after it.  An attached line takes the note for its node,
another note replaces it and is reported, and the last note is dropped.

Lines that are rejected or passed over stand outside the sequence, so they
neither take a note nor discard it.  The main statement follows from the invariant
`Heeds`: the tree is the listing of the effective lines alone, and the note that
waits is the one that ends them.
-/

namespace Outline

/-! ## Effective lines -/

instance (reading : Reading) (line : Line) : Decidable (reading.Hears line) :=
  inferInstanceAs (Decidable (∀ recovery ∈ reading.recovery, line.indent ≤ recovery.column))

namespace Line

/-- Whether a line is a note that is heard or a structural line that is attached. -/
def IsEffective (lines : List Line) (line : Line) : Prop :=
  line.isNote = true ∧ ¬ line.IsUnheard lines ∨
    line.isStructural = true ∧ (Outcome.ofLines lines).Assigns line .attached

theorem isUnheard_iff {lines : List Line} {line : Line} :
    line.IsUnheard lines ↔
      ∃ index, ∃ inside : index < lines.length,
        lines[index] = line ∧ ¬ (Reading.initial.run (lines.take index)).Hears line := by
  constructor
  · rintro ⟨before, after, rfl, unheard⟩
    exact ⟨before.length, by simp, by simp, by simpa using unheard⟩
  · rintro ⟨index, inside, rfl, unheard⟩
    refine ⟨lines.take index, lines.drop (index + 1), ?_, unheard⟩
    rw [List.getElem_cons_drop, List.take_append_drop]

instance (lines : List Line) (line : Line) : Decidable (line.IsUnheard lines) :=
  decidable_of_iff _ isUnheard_iff.symm

instance (lines : List Line) (line : Line) : Decidable (line.IsEffective lines) :=
  inferInstanceAs (Decidable (_ ∧ _ ∨ _ ∧ _ ∧ _))

/-- The lines that decide what becomes of notes, in the order of the document. -/
def effective (lines : List Line) : List Line :=
  lines.filter fun line => line.IsEffective lines

end Line

/-! ## Further lines -/

namespace Outcome

variable {earlier : List Line} {line other : Line}

theorem ofLines_isUpTo_init (ascending : Line.Ascending (earlier ++ [line])) :
    (ofLines earlier).IsUpTo (line.number - 1) (ofLines (earlier ++ [line])) := by
  apply ofLines_isUpTo ascending.init
  · have positive := ascending.pos_last
    omega
  · intro before member
    have below := ascending.lt_last member
    omega
  · intro last member
    rw [List.mem_singleton.mp member]
    omega

/-- What a line has is not changed by a further line. -/
theorem assigns_append_iff (ascending : Line.Ascending (earlier ++ [line]))
    (member : other ∈ earlier) (fate : Fate) :
    (ofLines (earlier ++ [line])).Assigns other fate ↔ (ofLines earlier).Assigns other fate := by
  have below := ascending.lt_last member
  have known := ofLines_isUpTo_init ascending
  have own (number : Int) :
      (decide (number = other.number) && decide (number ≤ line.number - 1)) =
        decide (number = other.number) := by
    by_cases same : number = other.number <;> simp [same]
    omega
  have nodes : (ofLines earlier).nodesAt other = (ofLines (earlier ++ [line])).nodesAt other := by
    rw [nodesAt, nodesAt, Tree.entries_eq_placements [], Tree.entries_eq_placements [],
      known.placements, known.tree, Tree.upTo_entry, List.filter_cons, List.filter_cons,
      List.filter_map, List.filter_map, List.filter_filter]
    simp only [Function.comp_apply, own, Function.comp_def]
  have findings :
      (ofLines earlier).findingsAt other = (ofLines (earlier ++ [line])).findingsAt other := by
    simp only [findingsAt, known.findings, List.filter_filter, own]
  cases fate <;> simp [Assigns, refusalsAt, nodes, findings]

/-- The nodes of the last line are those that it has added. -/
theorem nodesAt_last (ascending : Line.Ascending (earlier ++ [line])) {added : List Entry}
    (entries : (Reading.initial.run (earlier ++ [line])).position.toTree.entries =
      (Reading.initial.run earlier).position.toTree.entries ++ added)
    (own : ∀ entry ∈ added, entry.lineNumber = line.number) :
    (ofLines (earlier ++ [line])).nodesAt line = added := by
  have faithful := Reading.run_faithful earlier ascending.init
  rw [nodesAt, ofLines_tree, entries, List.filter_append, List.filter_eq_nil_iff.mpr,
    List.filter_eq_self.mpr, List.nil_append]
  · simpa using own
  · intro entry member
    have below := faithful.lineNumber_lt ascending member
    simp [below.ne]

/-- A structural line that has a node is attached. -/
theorem assigns_attached_iff {after : List Line}
    (ascending : Line.Ascending (earlier ++ line :: after))
    (structural : line.isStructural = true) :
    (ofLines (earlier ++ line :: after)).Assigns line .attached ↔
      (ofLines (earlier ++ line :: after)).nodesAt line ≠ [] := by
  rcases (fate_of_structural ascending structural).1 with ⟨fate, assigned⟩
  constructor
  · rintro ⟨single, -⟩ empty
    simp [empty] at single
  · intro nonempty
    cases fate with
    | attached => exact assigned
    | rejected => exact absurd assigned.2 nonempty
    | omitted => exact absurd assigned.1 nonempty

end Outcome

namespace Line

variable {earlier after : List Line} {line other : Line}

theorem isUnheard_split_iff (ascending : Ascending (earlier ++ line :: after)) :
    line.IsUnheard (earlier ++ line :: after) ↔ ¬ (Reading.initial.run earlier).Hears line := by
  constructor
  · rintro ⟨before, rest, same, unheard⟩
    rwa [← ascending.split_eq same] at unheard
  · intro unheard
    exact ⟨earlier, after, rfl, unheard⟩

theorem isEffective_append_iff (ascending : Ascending (earlier ++ [line]))
    (member : other ∈ earlier) :
    other.IsEffective (earlier ++ [line]) ↔ other.IsEffective earlier := by
  rw [IsEffective, IsEffective, Outcome.assigns_append_iff ascending member]
  rcases List.append_of_mem member with ⟨before, rest, rfl⟩
  rw [isUnheard_split_iff ascending.init]
  rw [List.append_assoc, List.cons_append] at ascending ⊢
  rw [isUnheard_split_iff ascending]

theorem effective_append (ascending : Ascending (earlier ++ [line])) :
    effective (earlier ++ [line]) =
      effective earlier ++ if line.IsEffective (earlier ++ [line]) then [line] else [] := by
  have old : earlier.filter (fun other => other.IsEffective (earlier ++ [line])) =
      effective earlier := by
    apply List.filter_congr
    intro other member
    simp only [isEffective_append_iff ascending member]
  rw [effective, List.filter_append, old]
  by_cases counts : line.IsEffective (earlier ++ [line]) <;> simp [counts]

/-- A line without a node that is no note to be heard decides nothing. -/
theorem effective_append_idle (ascending : Ascending (earlier ++ [line]))
    (unheard : line.isNote = true → ¬ (Reading.initial.run earlier).Hears line)
    (entries : (Reading.initial.run (earlier ++ [line])).position.toTree.entries =
      (Reading.initial.run earlier).position.toTree.entries) :
    effective (earlier ++ [line]) = effective earlier := by
  have bare : (Outcome.ofLines (earlier ++ [line])).nodesAt line = [] :=
    Outcome.nodesAt_last ascending (by simpa using entries) (by simp)
  rw [effective_append ascending, if_neg, List.append_nil]
  rintro (⟨noted, heard⟩ | ⟨structural, attached⟩)
  · exact heard ((isUnheard_split_iff ascending).mpr (unheard noted))
  · exact (Outcome.assigns_attached_iff ascending structural).mp attached bare

theorem effective_append_note (ascending : Ascending (earlier ++ [line]))
    (noted : line.isNote = true) (heard : (Reading.initial.run earlier).Hears line) :
    effective (earlier ++ [line]) = effective earlier ++ [line] := by
  rw [effective_append ascending, if_pos]
  left
  exact ⟨noted, fun unheard => (isUnheard_split_iff ascending).mp unheard heard⟩

theorem effective_append_node (ascending : Ascending (earlier ++ [line]))
    (structural : line.isStructural = true) {entry : Entry}
    (entries : (Reading.initial.run (earlier ++ [line])).position.toTree.entries =
      (Reading.initial.run earlier).position.toTree.entries ++ [entry])
    (number : entry.lineNumber = line.number) :
    effective (earlier ++ [line]) = effective earlier ++ [line] := by
  have node := Outcome.nodesAt_last ascending entries (by simpa using number)
  rw [effective_append ascending, if_pos]
  right
  refine ⟨structural, (Outcome.assigns_attached_iff ascending structural).mpr ?_⟩
  simp [node]

theorem isNote_or_isStructural_of_mem_effective {lines : List Line}
    (member : line ∈ effective lines) :
    line.isNote = true ∨ line.isStructural = true := by
  have counts := (List.mem_filter.mp member).2
  rw [decide_eq_true_eq] at counts
  exact counts.imp And.left And.left

end Line

/-- What the structural lines give is read with the note that waits for each of them. -/
theorem Entry.exists_split_of_mem_ofLines {pending : Option String} {lines : List Line}
    {given : Option Entry} (member : given ∈ Entry.ofLines pending lines) :
    ∃ before line text after, lines = before ++ line :: after ∧ line.body = .structural text ∧
      given = Entry.ofContent? text line.indent line.number
        (before.foldl Line.noteAfter pending) := by
  induction lines generalizing pending with
  | nil => simp [ofLines] at member
  | cons line rest induction =>
      have later : given ∈ ofLines (line.noteAfter pending) rest →
          ∃ before other text after, line :: rest = before ++ other :: after ∧
            other.body = .structural text ∧ given = ofContent? text other.indent other.number
              (before.foldl Line.noteAfter pending) := by
        intro inside
        rcases induction inside with ⟨before, other, text, after, rfl, facts⟩
        exact ⟨line :: before, other, text, after, rfl, facts⟩
      rw [ofLines, List.mem_append] at member
      rcases member with own | inside
      · cases body : line.body with
        | structural text =>
            simp only [body, List.mem_singleton] at own
            exact ⟨[], line, text, rest, rfl, body, own⟩
        | _ => simp [body] at own
      · exact later inside

/-! ## Neighbours in a sequence -/

theorem pair_infix_concat_iff {Item : Type} {items : List Item} {first second last : Item} :
    [first, second] <:+: items ++ [last] ↔
      [first, second] <:+: items ∨ items.getLast? = some first ∧ second = last := by
  rw [List.infix_concat_iff, List.suffix_concat_iff, or_comm]
  apply or_congr_right
  constructor
  · rintro (impossible | ⟨front, same, before, ends⟩)
    · simp at impossible
    · have parts : [first] = front ∧ [second] = [last] := List.append_inj' same rfl
      rw [← ends, ← parts.1]
      simpa using parts.2
  · rintro ⟨final, rfl⟩
    rcases List.getLast?_eq_some_iff.mp final with ⟨before, rfl⟩
    exact .inr ⟨[first], rfl, List.suffix_append before [first]⟩

namespace Line

variable {lines : List Line} {line : Line}

/-- A note with a number stands right after another note. -/
def RepeatsNoteAt (lines : List Line) (number : Int) : Prop :=
  ∃ note other, [note, other] <:+: lines ∧ note.isNote = true ∧ other.isNote = true ∧
    other.number = number

theorem repeatsNoteAt_concat_iff {number : Int} :
    RepeatsNoteAt (lines ++ [line]) number ↔
      RepeatsNoteAt lines number ∨
        (∃ note ∈ lines.getLast?, note.isNote = true) ∧ line.isNote = true ∧
          line.number = number := by
  simp only [RepeatsNoteAt, pair_infix_concat_iff]
  constructor
  · rintro ⟨note, other, inside | ⟨final, rfl⟩, noted, follows, same⟩
    · exact .inl ⟨note, other, inside, noted, follows, same⟩
    · exact .inr ⟨⟨note, final, noted⟩, follows, same⟩
  · rintro (⟨note, other, inside, facts⟩ | ⟨⟨note, final, noted⟩, follows, same⟩)
    · exact ⟨note, other, .inl inside, facts⟩
    · exact ⟨note, line, .inr ⟨final, rfl⟩, noted, follows, same⟩

/-- Among lines that all count, the note that waits is the last line. -/
theorem foldl_noteAfter_eq_some_iff
    (counting : ∀ line ∈ lines, line.isNote = true ∨ line.isStructural = true) {text : String} :
    lines.foldl noteAfter none = some text ↔ ∃ note ∈ lines.getLast?, note.body = .note text := by
  rcases List.eq_nil_or_concat lines with rfl | ⟨before, last, rfl⟩
  · simp
  · have kind := counting last (by simp)
    rw [List.concat_eq_append, List.foldl_append, List.getLast?_concat]
    cases body : last.body <;> simp [isNote, isStructural, body] at kind <;>
      simp [noteAfter, body]

theorem foldl_noteAfter_isSome_iff
    (counting : ∀ line ∈ lines, line.isNote = true ∨ line.isStructural = true) :
    (lines.foldl noteAfter none).isSome = true ↔ ∃ note ∈ lines.getLast?, note.isNote = true := by
  rw [Option.isSome_iff_exists]
  constructor
  · rintro ⟨text, waits⟩
    rcases (foldl_noteAfter_eq_some_iff counting).mp waits with ⟨note, last, body⟩
    exact ⟨note, last, isNote_of_body body⟩
  · rintro ⟨note, last, noted⟩
    rcases exists_text_of_isNote noted with ⟨text, body⟩
    exact ⟨text, (foldl_noteAfter_eq_some_iff counting).mpr ⟨note, last, body⟩⟩

end Line

namespace Reading

/-! ## The invariant -/

/-- The tree lists the effective lines alone, and the note that waits is the one that ends them. -/
structure Heeds (lines : List Line) (reading : Reading) : Prop where
  pending : reading.pending = (Line.effective lines).foldl Line.noteAfter none
  listing :
    reading.position.toTree.entries.map some =
      some .root :: Entry.ofLines none (Line.effective lines)
  repeated : ∀ number, ⟨number, .repeatedNote⟩ ∈ reading.findings ↔
    Line.RepeatsNoteAt (Line.effective lines) number

theorem heeds_initial : Reading.initial.Heeds [] where
  pending := rfl
  listing := by
    simp [initial, Position.initial_entries, Line.effective, Entry.ofLines]
  repeated := by
    simp [initial, Line.effective, Line.RepeatsNoteAt]

theorem repeatedNote_mem_append_iff {added findings : List Finding} (free : NoteFree added)
    (number : Int) :
    ⟨number, .repeatedNote⟩ ∈ added ++ findings ↔ ⟨number, .repeatedNote⟩ ∈ findings := by
  rw [List.mem_append, or_iff_right_of_imp]
  exact fun new => absurd rfl (free _ new)

namespace Heeds

variable {earlier : List Line} {line : Line} {reading next : Reading}

theorem idle (heeds : reading.Heeds earlier) (added : List Finding)
    (same : Line.effective (earlier ++ [line]) = Line.effective earlier)
    (pending : next.pending = reading.pending)
    (entries : next.position.toTree.entries = reading.position.toTree.entries)
    (findings : next.findings = added ++ reading.findings)
    (free : NoteFree added) :
    next.Heeds (earlier ++ [line]) where
  pending := by
    rw [pending, same, heeds.pending]
  listing := by
    rw [entries, same, heeds.listing]
  repeated := by
    intro number
    rw [findings, repeatedNote_mem_append_iff free, same, heeds.repeated]

theorem note (heeds : reading.Heeds earlier)
    (further : Line.effective (earlier ++ [line]) = Line.effective earlier ++ [line])
    {text : String} (body : line.body = .note text) (pending : next.pending = some text)
    (entries : next.position.toTree.entries = reading.position.toTree.entries)
    (findings : next.findings = reading.repeatedNote line ++ reading.findings) :
    next.Heeds (earlier ++ [line]) where
  pending := by
    rw [pending, further, List.foldl_append]
    simp [Line.noteAfter, body]
  listing := by
    have other := Line.isStructural_eq_false_of_isNote (Line.isNote_of_body body)
    rw [entries, further, Entry.ofLines_append_other other, heeds.listing]
  repeated := by
    intro number
    have waits := @Line.foldl_noteAfter_isSome_iff (Line.effective earlier)
      fun _ => Line.isNote_or_isStructural_of_mem_effective
    rw [← heeds.pending] at waits
    rw [findings, further, Line.repeatsNoteAt_concat_iff, ← waits, ← heeds.repeated,
      List.mem_append, or_comm]
    apply or_congr_right
    cases pending : reading.pending <;>
      simp [repeatedNote, pending, Line.isNote_of_body body, eq_comm]

theorem node (heeds : reading.Heeds earlier)
    (further : Line.effective (earlier ++ [line]) = Line.effective earlier ++ [line])
    {text : String} (body : line.body = .structural text) (pending : next.pending = none)
    {entry : Entry}
    (recognised : Entry.ofContent? text line.indent line.number reading.pending = some entry)
    (entries : next.position.toTree.entries = reading.position.toTree.entries ++ [entry])
    {added : List Finding} (findings : next.findings = added ++ reading.findings)
    (free : NoteFree added) :
    next.Heeds (earlier ++ [line]) where
  pending := by
    rw [pending, further, List.foldl_append]
    simp [Line.noteAfter, body]
  listing := by
    rw [entries, further, Entry.ofLines_append_structural body, ← heeds.pending, recognised,
      List.map_append, heeds.listing]
    rfl
  repeated := by
    intro number
    have noNote := Line.isNote_eq_false_of_isStructural (Line.isStructural_of_body body)
    rw [findings, repeatedNote_mem_append_iff free, further, Line.repeatsNoteAt_concat_iff,
      heeds.repeated]
    simp [noNote]

end Heeds

theorem run_heeds (lines : List Line) (ascending : Line.Ascending lines) :
    (Reading.initial.run lines).Heeds lines := by
  induction lines using List.reverseRecOn with
  | nil => exact heeds_initial
  | append_singleton earlier line induction =>
      have heeds := induction ascending.init
      have transition := step_transition (initial.run earlier) line
      have last : initial.run (earlier ++ [line]) = (initial.run earlier).step line := by
        simp
      rw [last]
      generalize (initial.run earlier).step line = next at transition last
      cases transition with
      | silent quiet =>
          have neither := Line.neither_of_silent quiet
          have same := Line.effective_append_idle ascending (by simp [neither]) (by rw [last])
          exact heeds.idle [] same rfl rfl rfl (by simp [NoteFree])
      | @skipped recovery loud pausing deeper =>
          have unheard : ¬ (initial.run earlier).Hears line := by
            rw [hears_iff pausing]
            exact not_le.mpr deeper
          have same := Line.effective_append_idle ascending (fun _ => unheard) (by rw [last])
          exact heeds.idle [] same rfl rfl rfl (by simp [NoteFree])
      | noted events body heard =>
          have further := Line.effective_append_note ascending (Line.isNote_of_body body) heard
          exact heeds.note further body rfl rfl rfl
      | @rejected text reached problem events body heard obstacle =>
          have structural := Line.isStructural_of_body body
          have entries : reached.toTree.entries =
              (initial.run earlier).position.toTree.entries := by
            rw [obstacle.reaches.toTree_eq]
          have same := Line.effective_append_idle ascending
            (by simp [Line.isNote_eq_false_of_isStructural structural])
            (by rw [last]; exact entries)
          refine heeds.idle [_] same rfl entries rfl ?_
          intro finding member
          rw [List.mem_singleton.mp member]
          rintro rfl
          exact obstacle.category_ne_semantic rfl
      | @attached text reached entry events body heard approached recognised admitted =>
          have entries :
              (((initial.run earlier).arrived line reached events).attach
                entry).position.toTree.entries =
                (initial.run earlier).position.toTree.entries ++ [entry] := by
            rw [attach_position, Position.entries_place]
            show reached.toTree.entries ++ [entry] = _
            rw [(reaches_of_approach approached).toTree_eq]
          have further := Line.effective_append_node ascending (Line.isStructural_of_body body)
            (by rw [last]; exact entries) (Entry.ofContent?_eq_some recognised).2.2.1
          rcases attach_findings ((initial.run earlier).arrived line reached events) entry with
            ⟨added, findings, names⟩
          refine heeds.node further body (attach_pending _ _) recognised entries findings ?_
          intro finding member
          rcases names finding member with ⟨name, first, problem⟩
          simp [problem]

/-- Each node but the root comes from an effective line, with the note that waits there. -/
theorem Heeds.eq_root_or_exists_split {lines : List Line} {reading : Reading}
    (heeds : reading.Heeds lines) {node : Entry}
    (member : node ∈ reading.position.toTree.entries) :
    node = .root ∨ ∃ before line text after,
      Line.effective lines = before ++ line :: after ∧ line.body = .structural text ∧
        line.number = node.lineNumber ∧ node.note = before.foldl Line.noteAfter none := by
  have listed := List.mem_map_of_mem (f := some) member
  rw [heeds.listing, List.mem_cons] at listed
  rcases listed with root | given
  · exact .inl (Option.some.inj root)
  · rcases Entry.exists_split_of_mem_ofLines given with
      ⟨before, line, text, after, split, body, recognised⟩
    rcases Entry.ofContent?_eq_some recognised.symm with ⟨-, -, number, note⟩
    exact .inr ⟨before, line, text, after, split, body, number.symm, note⟩

/-- A node has the note that waits when its line is read. -/
theorem Heeds.note_eq {lines : List Line} {reading : Reading} (heeds : reading.Heeds lines)
    (ascending : Line.Ascending lines) {before after : List Line} {line : Line}
    (split : Line.effective lines = before ++ line :: after) {node : Entry}
    (member : node ∈ reading.position.toTree.entries) (number : node.lineNumber = line.number) :
    node.note = before.foldl Line.noteAfter none := by
  have inOrder : Line.Ascending (before ++ line :: after) := split ▸ ascending.filter _
  rcases heeds.eq_root_or_exists_split member with
    rfl | ⟨first, other, text, rest, parts, body, own, note⟩
  · have positive : 0 < line.number := inOrder.pos_of_mem (by simp)
    rw [← number] at positive
    exact absurd positive (by decide)
  · rw [split] at parts
    have same : other = line :=
      inOrder.eq_of_number_eq (by simp [parts]) (by simp) (own.trans number)
    subst other
    rw [note, inOrder.split_eq parts]

end Reading

/-! ## What becomes of the notes of a document -/

/--
What becomes of notes in an outcome, given the lines that decide about them.  An
attached line takes the note right before it for its only node, and no node has
a note from elsewhere.  A note is reported exactly if it stands right after
another one.  After a note that is the last of these lines no node comes, and
nothing is found but lines that are rejected.
-/
structure Outcome.HandsOutNotes (outcome : Outcome) (effective : List Line) : Prop where
  taken : ∀ note line text, [note, line] <:+: effective → note.body = .note text →
    line.isStructural = true → ∃ node, outcome.nodesAt line = [node] ∧ node.note = some text
  earned : ∀ node ∈ outcome.tree.entries, ∀ text, node.note = some text →
    ∃ note line, [note, line] <:+: effective ∧ note.body = .note text ∧
      line.isStructural = true ∧ line.number = node.lineNumber
  reported : ∀ number, ⟨number, .repeatedNote⟩ ∈ outcome.findings ↔
    Line.RepeatsNoteAt effective number
  dropped : ∀ note ∈ effective.getLast?, note.isNote = true →
    (∀ node ∈ outcome.tree.entries, node.lineNumber < note.number) ∧
      ∀ finding ∈ outcome.findings, note.number < finding.lineNumber →
        finding.problem.category.isRefusal = true

namespace Outcome

variable {lines : List Line}

theorem nodesAt_of_mem_effective {line : Line} (member : line ∈ Line.effective lines)
    (structural : line.isStructural = true) :
    ∃ node, (ofLines lines).nodesAt line = [node] := by
  have counts := (List.mem_filter.mp member).2
  rw [decide_eq_true_eq] at counts
  rcases counts with ⟨noted, -⟩ | ⟨-, single, -⟩
  · simp [Line.isStructural_eq_false_of_isNote noted] at structural
  · exact List.length_eq_one_iff.mp single

/-- Where something is found that is no refusal, there is an effective line. -/
theorem exists_effective_of_mem_findings (ascending : Line.Ascending lines) {finding : Finding}
    (member : finding ∈ (ofLines lines).findings)
    (absorbed : finding.problem.category.isRefusal = false) :
    ∃ line ∈ Line.effective lines, line.number = finding.lineNumber := by
  rcases exists_yield_of_mem_findings ascending member with
    ⟨before, line, after, placements, findings, recovery, rfl, number, own, yields, nodes, -⟩
  refine ⟨line, ?_, number⟩
  rw [Line.effective, List.mem_filter, decide_eq_true_eq]
  refine ⟨by simp, ?_⟩
  cases yields with
  | noted noted heard =>
      exact .inl ⟨noted, fun unheard => (Line.isUnheard_split_iff ascending).mp unheard heard⟩
  | rejected structural heard refusal =>
      rw [List.mem_singleton.mp own] at absorbed
      exact absurd (refusal.symm.trans absorbed) (by decide)
  | redeclared structural heard number =>
      exact .inr ⟨structural, (assigns_attached_iff ascending structural).mpr (by simp [nodes])⟩
  | _ => simp at own

/-- An effective line that comes right after a note has that note. -/
theorem note_eq_of_infix (ascending : Line.Ascending lines) {note line : Line} {text : String}
    (pair : [note, line] <:+: Line.effective lines) (body : note.body = .note text)
    {node : Entry} (member : node ∈ (ofLines lines).nodesAt line) :
    node.note = some text := by
  rcases pair with ⟨before, after, split⟩
  rw [List.append_assoc, List.cons_append, List.singleton_append, List.append_cons] at split
  rw [nodesAt, List.mem_filter, decide_eq_true_eq, ofLines_tree] at member
  have heeds := Reading.run_heeds lines ascending
  rw [heeds.note_eq ascending split.symm member.1 member.2, List.foldl_append]
  simp [Line.noteAfter, body]

/-- A node with a note comes from an effective line right after that note. -/
theorem exists_infix_of_note_eq (ascending : Line.Ascending lines) {node : Entry}
    (member : node ∈ (ofLines lines).tree.entries) {text : String}
    (noted : node.note = some text) :
    ∃ note line, [note, line] <:+: Line.effective lines ∧ note.body = .note text ∧
      line.isStructural = true ∧ line.number = node.lineNumber := by
  rw [ofLines_tree] at member
  rcases (Reading.run_heeds lines ascending).eq_root_or_exists_split member with
    rfl | ⟨first, line, content, after, split, body, number, waiting⟩
  · simp [Entry.root] at noted
  · have counting : ∀ other ∈ first, other.isNote = true ∨ other.isStructural = true := by
      intro other inside
      apply Line.isNote_or_isStructural_of_mem_effective
      rw [split]
      exact List.mem_append_left _ inside
    rw [waiting, Line.foldl_noteAfter_eq_some_iff counting] at noted
    rcases noted with ⟨note, last, noteBody⟩
    rcases List.getLast?_eq_some_iff.mp last with ⟨before, rfl⟩
    refine ⟨note, line, ⟨before, after, ?_⟩, noteBody, Line.isStructural_of_body body, number⟩
    rw [split, List.append_assoc, List.append_assoc]
    rfl

/-- No effective line comes after the last one. -/
theorem number_le_of_getLast? (ascending : Line.Ascending lines) {last line : Line}
    (ends : (Line.effective lines).getLast? = some last) (member : line ∈ Line.effective lines) :
    line.number ≤ last.number := by
  rcases List.getLast?_eq_some_iff.mp ends with ⟨before, split⟩
  have inOrder : Line.Ascending (before ++ [last]) := split ▸ ascending.filter _
  rw [split, List.mem_append, List.mem_singleton] at member
  rcases member with early | rfl
  · exact (inOrder.lt_last early).le
  · exact le_rfl

/-- Where the last effective line is a note, all nodes come from lines before it. -/
theorem lineNumber_lt_of_getLast? (ascending : Line.Ascending lines) {note : Line}
    (ends : (Line.effective lines).getLast? = some note) (noted : note.isNote = true)
    {node : Entry} (member : node ∈ (ofLines lines).tree.entries) :
    node.lineNumber < note.number := by
  have inOrder : Line.Ascending (Line.effective lines) := ascending.filter _
  have noteMember := List.mem_of_getLast? ends
  rw [ofLines_tree] at member
  rcases (Reading.run_heeds lines ascending).eq_root_or_exists_split member with
    rfl | ⟨before, line, text, after, split, body, number, -⟩
  · exact inOrder.pos_of_mem noteMember
  · have lineMember : line ∈ Line.effective lines := by simp [split]
    have other : line.number ≠ note.number := by
      intro same
      have structural := Line.isStructural_of_body body
      rw [inOrder.eq_of_number_eq lineMember noteMember same,
        Line.isStructural_eq_false_of_isNote noted] at structural
      exact absurd structural (by decide)
    rw [← number]
    exact lt_of_le_of_ne (number_le_of_getLast? ascending ends lineMember) other

/--
In every document, notes are neither lost nor doubled nor invented.  Among the
notes that are heard and the lines that are attached, each note goes to the line
right after it.  Lines that are rejected or passed over between them change
nothing.
-/
theorem ofSource_handsOutNotes (source : String) :
    (ofSource source).HandsOutNotes (Line.effective (Line.ofSource source)) := by
  have ascending := Line.ascending_ofSource source
  rw [ofSource]
  generalize Line.ofSource source = lines at ascending
  constructor
  · intro note line text pair body structural
    have member : line ∈ Line.effective lines := pair.subset (by simp)
    rcases nodesAt_of_mem_effective member structural with ⟨node, nodes⟩
    exact ⟨node, nodes, note_eq_of_infix ascending pair body (by simp [nodes])⟩
  · intro node member text noted
    exact exists_infix_of_note_eq ascending member noted
  · intro number
    rw [ofLines_findings, List.mem_reverse, (Reading.run_heeds lines ascending).repeated]
  · intro note last noted
    refine ⟨fun node member => lineNumber_lt_of_getLast? ascending last noted member, ?_⟩
    intro finding member later
    cases refusal : finding.problem.category.isRefusal with
    | true => rfl
    | false =>
        rcases exists_effective_of_mem_findings ascending member refusal with
          ⟨line, inside, number⟩
        have early := number_le_of_getLast? ascending last inside
        exact absurd later (number ▸ early).not_gt

/-- The second note waits past a line that is rejected and a note in the body of that line. -/
example :
    (Line.effective (Line.ofSource "@ first\n@ second\nvar: x\n    @ inner\nclass: A")).map
      Line.number = [1, 2, 5] := by
  decide +kernel

end Outcome

end Outline
