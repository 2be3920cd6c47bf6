import Outline.Proofs.Scoping

/-!
# The listing of a document

The structural lines of a document list the nodes that they give, each with the
note that stands before it.  As long as no line has been rejected, the tree that
is read has this listing, the last note waits if no structural line has come
after it, and no note has been reported if the notes are apart.
-/

namespace Outline

/-! ## Listings and notes -/

/-- The note that waits for a structural line after a line, when one has waited before. -/
def Line.noteAfter (pending : Option String) (line : Line) : Option String :=
  match line.body with
  | .note text => some text
  | .structural _ => none
  | _ => pending

/-- What the structural lines give, each with the note before it; nothing if not recognised. -/
def Entry.ofLines (pending : Option String) : List Line → List (Option Entry)
  | [] => []
  | line :: rest =>
    (match line.body with
      | .structural text => [Entry.ofContent? text line.indent line.number pending]
      | _ => [])
      ++ ofLines (line.noteAfter pending) rest

/-- Between any two notes stands a structural line. -/
def Line.NotesApart (lines : List Line) : Prop :=
  ∀ first ∈ lines, ∀ second ∈ lines, first.isNote = true → second.isNote = true →
    first.number < second.number →
      ∃ between ∈ lines, between.isStructural = true ∧ first.number < between.number ∧
        between.number < second.number

/-! ## Further lines -/

namespace Entry

theorem ofLines_append (pending : Option String) (first second : List Line) :
    ofLines pending (first ++ second) =
      ofLines pending first ++ ofLines (first.foldl Line.noteAfter pending) second := by
  induction first generalizing pending with
  | nil => rfl
  | cons line rest induction => simp [ofLines, induction, List.append_assoc]

theorem ofLines_of_not_structural {line : Line} (other : line.isStructural = false)
    (pending : Option String) (rest : List Line) :
    ofLines pending (line :: rest) = ofLines (line.noteAfter pending) rest := by
  cases body : line.body <;> simp [Line.isStructural, body] at other <;> simp [ofLines, body]

theorem ofLines_of_structural {line : Line} {text : String} (body : line.body = .structural text)
    (pending : Option String) (rest : List Line) :
    ofLines pending (line :: rest) =
      Entry.ofContent? text line.indent line.number pending :: ofLines none rest := by
  simp [ofLines, Line.noteAfter, body]

theorem ofLines_append_other {line : Line} (other : line.isStructural = false)
    (pending : Option String) (lines : List Line) :
    ofLines pending (lines ++ [line]) = ofLines pending lines := by
  rw [ofLines_append, ofLines_of_not_structural other]
  simp [ofLines]

theorem ofLines_append_structural {line : Line} {text : String}
    (body : line.body = .structural text) (pending : Option String) (lines : List Line) :
    ofLines pending (lines ++ [line]) =
      ofLines pending lines
        ++ [ofContent? text line.indent line.number (lines.foldl Line.noteAfter pending)] := by
  rw [ofLines_append, ofLines_of_structural body]
  simp [ofLines]

/-- Every structural line gives something. -/
theorem exists_mem_ofLines {lines : List Line} {line : Line} (member : line ∈ lines)
    {text : String} (body : line.body = .structural text) (pending : Option String) :
    ∃ note, Entry.ofContent? text line.indent line.number note ∈ ofLines pending lines := by
  induction lines generalizing pending with
  | nil => simp at member
  | cons other rest induction =>
      rcases List.mem_cons.mp member with rfl | later
      · exact ⟨pending, by simp [ofLines, body]⟩
      · rcases induction later (other.noteAfter pending) with ⟨note, known⟩
        exact ⟨note, List.mem_append_right _ known⟩

end Entry

namespace Line

theorem noteAfter_of_silent {line : Line} (quiet : line.body.isSilent = true)
    (pending : Option String) :
    line.noteAfter pending = pending := by
  cases body : line.body <;> simp [LineBody.isSilent, body] at quiet <;> simp [noteAfter, body]

/-- No note waits if each one is followed by a structural line. -/
theorem foldl_noteAfter_eq_none_iff {lines : List Line} (ascending : Ascending lines) :
    lines.foldl noteAfter none = none ↔
      ∀ note ∈ lines, note.isNote = true →
        ∃ line ∈ lines, line.isStructural = true ∧ note.number < line.number := by
  induction lines using List.reverseRecOn with
  | nil => simp
  | append_singleton earlier last induction =>
      rw [List.foldl_append, List.foldl_cons, List.foldl_nil]
      have old := induction ascending.init
      cases body : last.body with
      | note text =>
          simp only [noteAfter, body, reduceCtorEq, false_iff]
          intro followed
          rcases followed last (by simp) (isNote_of_body body) with
            ⟨line, member, structural, later⟩
          rcases List.mem_append.mp member with before | same
          · exact absurd later (ascending.lt_last before).not_gt
          · simp [List.mem_singleton.mp same, isStructural, body] at structural
      | structural text =>
          simp only [noteAfter, body, true_iff]
          intro note member noted
          rcases List.mem_append.mp member with before | same
          · exact ⟨last, by simp, isStructural_of_body body, ascending.lt_last before⟩
          · simp [List.mem_singleton.mp same, isNote, body] at noted
      | _ =>
          simp only [noteAfter, body, old, List.mem_append, List.mem_singleton]
          constructor
          · rintro followed note (before | rfl) noted
            · rcases followed note before noted with ⟨line, member, facts⟩
              exact ⟨line, .inl member, facts⟩
            · simp [isNote, body] at noted
          · intro followed note before noted
            rcases followed note (.inl before) noted with ⟨line, member | rfl, structural, later⟩
            · exact ⟨line, member, structural, later⟩
            · simp [isStructural, body] at structural

/-- A note stays apart from the ones before it if none of them waits. -/
theorem notesApart_append_iff {lines : List Line} {line : Line}
    (ascending : Ascending (lines ++ [line])) :
    NotesApart (lines ++ [line]) ↔
      NotesApart lines ∧ (line.isNote = true → lines.foldl noteAfter none = none) := by
  rw [foldl_noteAfter_eq_none_iff ascending.init]
  have last : ∀ other ∈ lines, other.number < line.number := fun other => ascending.lt_last
  simp only [NotesApart, List.mem_append, List.mem_singleton]
  constructor
  · intro apart
    constructor
    · intro first early second late noted follows order
      rcases apart first (.inl early) second (.inl late) noted follows order with
        ⟨between, member | rfl, structural, after, before⟩
      · exact ⟨between, member, structural, after, before⟩
      · exact absurd before (last second late).not_gt
    · intro isNote first early noted
      rcases apart first (.inl early) line (.inr rfl) noted isNote (last first early) with
        ⟨between, member | rfl, structural, after, before⟩
      · exact ⟨between, member, structural, after⟩
      · exact absurd before (lt_irrefl _)
  · rintro ⟨apart, followed⟩ first (early | rfl) second (late | rfl) noted follows order
    · rcases apart first early second late noted follows order with ⟨between, member, facts⟩
      exact ⟨between, .inl member, facts⟩
    · rcases followed follows first early noted with ⟨between, member, structural, after⟩
      exact ⟨between, .inl member, structural, after, last between member⟩
    · exact absurd order (last second late).not_gt
    · exact absurd order (lt_irrefl _)

end Line

namespace Reading

/-! ## Runs in which no line is rejected -/

/-- No line has been rejected. -/
def Unhindered (reading : Reading) : Prop :=
  ∀ finding ∈ reading.findings, finding.problem.category = .semantic

/-- No note is reported as repeated. -/
def NoteFree (findings : List Finding) : Prop :=
  ∀ finding ∈ findings, finding.problem ≠ .repeatedNote

/-- What holds as long as no line has been rejected. -/
structure Listed (lines : List Line) (reading : Reading) : Prop where
  recovery : reading.recovery = none
  pending : reading.pending = lines.foldl Line.noteAfter none
  listing :
    reading.position.toTree.entries.map some = some .root :: Entry.ofLines none lines
  notes : NoteFree reading.findings ↔ Line.NotesApart lines

theorem listed_initial : Reading.initial.Listed [] where
  recovery := rfl
  pending := rfl
  listing := by
    simp [initial, Position.initial_entries, Entry.ofLines]
  notes := by
    simp [initial, NoteFree, Line.NotesApart]

/-- Attaching reports at most a redeclared name, at the line of the node. -/
theorem attach_reports (reading : Reading) (entry : Entry) :
    (reading.attach entry).findings = reading.findings ∨
      ∃ name first, (reading.attach entry).findings =
        ⟨entry.lineNumber, .alreadyDefined name first⟩ :: reading.findings := by
  cases opens : entry.kind.opensScope with
  | true =>
      exact .inl (attach_of_opensScope reading opens).2
  | false =>
      cases declares : entry.declares with
      | false =>
          exact .inl (attach_of_not_declares reading opens declares).2
      | true =>
          cases found : reading.scopes.current.find? entry.name with
          | none =>
              exact .inl (attach_of_free reading opens declares found).2
          | some first =>
              exact .inr ⟨_, _, (attach_of_taken reading opens declares found).2⟩

/-- Attaching reports redeclared names only. -/
theorem attach_findings (reading : Reading) (entry : Entry) :
    ∃ added : List Finding, (reading.attach entry).findings = added ++ reading.findings ∧
      ∀ finding ∈ added, ∃ name first, finding.problem = .alreadyDefined name first := by
  rcases attach_reports reading entry with silent | ⟨name, first, reported⟩
  · exact ⟨[], silent, by simp⟩
  · refine ⟨[_], reported, ?_⟩
    intro finding member
    rw [List.mem_singleton.mp member]
    exact ⟨name, first, rfl⟩

theorem problem_of_mem_repeatedNote {reading : Reading} {line : Line} {finding : Finding}
    (member : finding ∈ reading.repeatedNote line) :
    finding.problem = .repeatedNote := by
  unfold repeatedNote at member
  split at member
  · rw [List.mem_singleton.mp member]
  · simp at member

theorem noteFree_append_iff {first second : List Finding} :
    NoteFree (first ++ second) ↔ NoteFree first ∧ NoteFree second := by
  simp only [NoteFree, List.mem_append, or_imp, forall_and]

theorem noteFree_repeatedNote_iff {reading : Reading} {line : Line} :
    NoteFree (reading.repeatedNote line) ↔ reading.pending = none := by
  cases pending : reading.pending <;> simp [NoteFree, repeatedNote, pending]

theorem noteFree_attach_iff {reading : Reading} {entry : Entry} :
    NoteFree (reading.attach entry).findings ↔ NoteFree reading.findings := by
  rcases attach_findings reading entry with ⟨added, findings, names⟩
  have free : NoteFree added := by
    intro finding member
    rcases names finding member with ⟨name, first, problem⟩
    simp [problem]
  rw [findings, noteFree_append_iff]
  exact and_iff_right free

namespace Unhindered

variable {lines : List Line} {line : Line} {reading next : Reading}

theorem of_append (unhindered : next.Unhindered) {added : List Finding}
    (findings : next.findings = added ++ reading.findings) :
    reading.Unhindered :=
  fun finding member => unhindered finding (findings ▸ List.mem_append_right _ member)

theorem append (unhindered : reading.Unhindered) {added : List Finding}
    (findings : next.findings = added ++ reading.findings)
    (semantic : ∀ finding ∈ added, finding.problem.category = .semantic) :
    next.Unhindered := by
  intro finding member
  rw [findings] at member
  rcases List.mem_append.mp member with new | old
  · exact semantic finding new
  · exact unhindered finding old

theorem note (unhindered : reading.Unhindered) (findings :
    next.findings = reading.repeatedNote line ++ reading.findings) :
    next.Unhindered := by
  apply unhindered.append findings
  intro finding member
  rw [problem_of_mem_repeatedNote member]
  rfl

theorem attach (unhindered : reading.Unhindered) (line : Line) (reached : Position)
    (events : List Event) (entry : Entry) :
    ((reading.arrived line reached events).attach entry).Unhindered := by
  rcases attach_findings (reading.arrived line reached events) entry with ⟨added, findings, names⟩
  apply unhindered.append findings
  intro finding member
  rcases names finding member with ⟨name, first, problem⟩
  rw [problem]
  rfl

end Unhindered

theorem Transition.listed {earlier : List Line} {line : Line} {reading next : Reading}
    (ascending : Line.Ascending (earlier ++ [line]))
    (listed : reading.Unhindered → reading.Listed earlier)
    (transition : Transition reading line next) (unhindered : next.Unhindered) :
    next.Listed (earlier ++ [line]) := by
  have apart := Line.notesApart_append_iff ascending
  cases transition with
  | silent quiet =>
      have before := listed unhindered
      rcases Line.neither_of_silent quiet with ⟨other, noNote⟩
      refine ⟨before.recovery, ?_, ?_, ?_⟩
      · simp [Line.noteAfter_of_silent quiet, before.pending]
      · rw [Entry.ofLines_append_other other]
        exact before.listing
      · simp [apart, noNote, before.notes]
  | skipped loud pausing deeper =>
      simp [(listed unhindered).recovery] at pausing
  | noted events body heard =>
      have before := listed (unhindered.of_append rfl)
      have noted := Line.isNote_of_body body
      have other := Line.isStructural_eq_false_of_isNote noted
      refine ⟨rfl, ?_, ?_, ?_⟩
      · simp [Line.noteAfter, body]
      · rw [Entry.ofLines_append_other other]
        exact before.listing
      · rw [apart, ← before.notes, ← before.pending, noteFree_append_iff,
          noteFree_repeatedNote_iff]
        simp [noted, and_comm]
  | @rejected text reached problem events body heard obstacle =>
      have category := unhindered ⟨line.number, problem⟩ (by simp [reject, report])
      exact absurd category obstacle.category_ne_semantic
  | @attached text reached entry events body heard approached recognised admitted =>
      rcases attach_findings (reading.arrived line reached events) entry with
        ⟨added, findings, names⟩
      have before := listed (unhindered.of_append findings)
      have noNote := Line.isNote_eq_false_of_isStructural (Line.isStructural_of_body body)
      refine ⟨?_, ?_, ?_, ?_⟩
      · rw [attach_recovery]
        rfl
      · rw [attach_pending]
        simp [Line.noteAfter, body]
      · rw [attach_position, Position.entries_place, Entry.ofLines_append_structural body,
          ← before.pending, recognised]
        simp only [arrived, (reaches_of_approach approached).toTree_eq]
        simp [before.listing]
      · rw [apart, ← before.notes, noteFree_attach_iff]
        simp [noNote, arrived]

theorem run_listed (lines : List Line) (ascending : Line.Ascending lines)
    (unhindered : (Reading.initial.run lines).Unhindered) :
    (Reading.initial.run lines).Listed lines := by
  refine run_induction (fun lines reading => reading.Unhindered → reading.Listed lines)
    (fun _ => listed_initial) ?_ lines ascending unhindered
  intro earlier line reading next ascending listed transition
  exact transition.listed ascending listed

end Reading

end Outline
