import Outline.Proofs.Headings

/-!
# Declared names

A class, a function or a variable is declared by a line that has its keyword
before the first colon and its name after it.  The keyword may be surrounded by
blanks, but the name is looked for by an expression that begins with the keyword
itself.

The main statement tells which name a line gives: the word after the first
colon, or no name at all if a blank stands before the keyword.  Spaces and tabs
are taken off with the indentation, so that only other blanks do this.
-/

namespace Outline

open Outline.Text Outline.Text.Expression

/-! ## The form of declarations -/

/-- A keyword of a declaration. -/
def keywordForm : Expression :=
  .either (.literal ['c', 'l', 'a', 's', 's'])
    (.either (.literal ['f', 'u', 'n', 'c']) (.literal ['v', 'a', 'r']))

/-- A word, which is captured. -/
def wordForm : Expression :=
  .capture (.inTurn [.one isWord, .most isWord])

/-- The keyword of a declaration, a colon and a word, with blanks between them. -/
def nameForm : Expression :=
  .inTurn [.front, keywordForm, .most isBlank, .literal [':'], .most isBlank, wordForm]

/-- The word after the first colon and any blanks. -/
def wordAfterColon (content : List Char) : List Char :=
  ((afterColon content).dropWhile isBlank).takeWhile isWord

/-- The kinds of nodes that declare a name. -/
def declaring : List Kind :=
  Kind.announced.filter Kind.mayDeclare

/-! ## Classes of characters -/

/-- A character of a class is one of the characters of its ranges. -/
theorem exists_range_of_covers {ranges : CodePoints} {character : Char}
    (covered : ranges.covers character = true) :
    ∃ range ∈ ranges, range.1 ≤ character.toNat ∧ character.toNat ≤ range.2 := by
  induction ranges with
  | nil => simp [CodePoints.covers] at covered
  | cons range rest induction =>
      rcases range with ⟨low, high⟩
      simp only [CodePoints.covers] at covered
      split at covered
      · cases covered
      · rename_i above
        rcases Bool.or_eq_true_iff.mp covered with within | later
        · exact ⟨(low, high), List.mem_cons_self, Nat.le_of_not_lt above,
            of_decide_eq_true within⟩
        · rcases induction later with ⟨other, member, bounds⟩
          exact ⟨other, List.mem_cons_of_mem _ member, bounds⟩

theorem isWord_of_mem_blankRanges :
    ∀ range ∈ blankRanges, ∀ offset < range.2 + 1 - range.1,
      isWord (Char.ofNat (range.1 + offset)) = false := by
  decide +kernel

/-- No blank is a word character. -/
theorem isWord_eq_false {character : Char} (blank : isBlank character = true) :
    isWord character = false := by
  rcases exists_range_of_covers blank with ⟨range, member, above, below⟩
  have plain := isWord_of_mem_blankRanges range member (character.toNat - range.1) (by omega)
  rwa [Nat.add_sub_cancel' above, Char.ofNat_toNat] at plain

/-! ## What a declaration looks like -/

/-- Where no blank stands in front, a line begins with its keyword, blanks and the colon. -/
theorem Announces.exists_eq_append {content : List Char} {kind : Kind}
    (announces : Announces content kind) (flush : ¬ content.head?.any isBlank = true) :
    ∃ back, content = kind.label.toList ++ (back ++ ':' :: afterColon content) ∧
      ∀ character ∈ back, isBlank character = true := by
  rcases exists_eq_append_trim_append isBlank (lead content) with ⟨front, back, split, blank⟩
  rcases List.forall_mem_append.mp blank with ⟨leading, trailing⟩
  have whole := eq_lead_append announces.1.colon
  rw [split, ← announces.2.2] at whole
  cases front with
  | nil => exact ⟨back, by simpa using whole, trailing⟩
  | cons first more =>
      rw [whole] at flush
      exact absurd (leading first List.mem_cons_self) flush

theorem declaredName_of_front {keyword back rest : List Char}
    (blank : ∀ character ∈ back, isBlank character = true) :
    declaredName keyword (keyword ++ (back ++ ':' :: rest)) =
      (rest.dropWhile isBlank).takeWhile isWord := by
  have colon : isBlank ':' = false := by decide
  simp [declaredName, List.dropWhile_append_of_pos blank, colon]

theorem mem_declaring_iff {kind : Kind} :
    kind ∈ declaring ↔ kind = .classBlock ∨ kind = .function ∨ kind = .field := by
  cases kind <;> decide

/-- No keyword of a declaration begins with a blank. -/
theorem not_label_prefix {kind : Kind} (declares : kind ∈ declaring) {content : List Char}
    (blank : content.head?.any isBlank = true) :
    ¬ kind.label.toList <+: content := by
  rintro ⟨rest, rfl⟩
  rcases mem_declaring_iff.mp declares with rfl | rfl | rfl <;> exact Bool.false_ne_true blank

/-! ## What the form captures -/

/-- Only one keyword can be read at the front of a declaration. -/
theorem ways_keywordForm {kind : Kind} (declares : kind ∈ declaring) (rest : List Char) :
    keywordForm.ways { after := kind.label.toList ++ rest } =
      [⟨kind.label.toList.reverse, rest, none⟩] := by
  rcases mem_declaring_iff.mp declares with rfl | rfl | rfl <;>
    simp [keywordForm, ways_either, ways_literal, Cursor.move, Kind.label]

/-- No colon can be read where a blank comes next. -/
theorem ways_colon_of_blank (parts : List Expression) (middle : Cursor)
    (blank : middle.after.head?.any isBlank = true) :
    (inTurn (literal [':'] :: parts)).ways middle = [] := by
  rcases middle with ⟨before, _ | ⟨first, rest⟩, captured⟩
  · rfl
  · have other : first ≠ ':' := by
      rintro rfl
      exact Bool.false_ne_true blank
    simp [ways_inTurn_cons, ways_literal, other.symm]

/-- No word can be read where a blank comes next. -/
theorem ways_wordForm_of_blank (middle : Cursor) (blank : middle.after.head?.any isBlank = true) :
    (inTurn [wordForm]).ways middle = [] := by
  rcases middle with ⟨before, _ | ⟨first, rest⟩, captured⟩
  · rfl
  · have plain : isWord first = false := isWord_eq_false blank
    simp [ways_inTurn_cons, wordForm, ways_capture, ways_one, plain]

/-- The longest word that comes next is captured. -/
theorem captured_wordForm (before after : List Char) :
    (((inTurn [wordForm]).ways ⟨before, after, none⟩).head?.bind Cursor.captured).getD [] =
      after.takeWhile isWord := by
  rw [ways_inTurn_singleton, wordForm, ways_capture, ways_inTurn_cons]
  cases after with
  | nil => rfl
  | cons first rest =>
      cases word : isWord first with
      | false => simp [ways_one, word]
      | true =>
          have one : (one isWord).ways ⟨before, first :: rest, none⟩ =
              [⟨first :: before, rest, none⟩] := by
            simp [ways_one, word, Cursor.move]
          have split : first :: rest = first :: rest.takeWhile isWord ++ rest.dropWhile isWord := by
            simp
          rw [one, List.flatMap_singleton, ways_inTurn_singleton, ways_most_eq_cons, List.map_cons,
            Cursor.captureTo_eq split]
          simp [word]

/-- Where a keyword stands in front, the form captures the word after the colon. -/
theorem captured?_nameForm_of_front {kind : Kind} (declares : kind ∈ declaring)
    {back rest : List Char} (blank : ∀ character ∈ back, isBlank character = true) :
    (nameForm.captured? (kind.label.toList ++ (back ++ ':' :: rest))).getD [] =
      (rest.dropWhile isBlank).takeWhile isWord := by
  have noColon : isBlank ':' = false := by decide
  have run : (back ++ ':' :: rest).takeWhile isBlank = back := by
    simp [List.takeWhile_append_of_pos blank, noColon]
  have behind : (back ++ ':' :: rest).dropWhile isBlank = ':' :: rest := by
    simp [List.dropWhile_append_of_pos blank, noColon]
  -- Neither the colon nor the word can begin inside a run of blanks, so both runs are whole.
  rw [captured?, match?, nameForm, ways_front_inTurn, ways_inTurn_cons, ways_keywordForm declares,
    List.flatMap_singleton, ways_most_inTurn (ways_colon_of_blank _), run, behind, Cursor.pass,
    ways_literal_inTurn, ways_most_inTurn ways_wordForm_of_blank, Cursor.pass, captured_wordForm]

/-- Behind a blank the form captures nothing. -/
theorem captured?_nameForm_of_blank {content : List Char}
    (blank : content.head?.any isBlank = true) :
    nameForm.captured? content = none := by
  by_contra found
  rcases Option.ne_none_iff_exists'.mp found with ⟨word, found⟩
  rcases exists_mem_ways_of_captured? found with ⟨later, member, -⟩
  rcases mem_ways_inTurn_cons_iff.mp member with ⟨_, begun, member⟩
  rcases mem_ways_front_iff.mp begun with ⟨-, rfl⟩
  rcases mem_ways_inTurn_cons_iff.mp member with ⟨_, keyword, -⟩
  simp only [keywordForm, mem_ways_either_iff, mem_ways_literal_iff] at keyword
  rcases keyword with ⟨rest, front, -⟩ | ⟨rest, front, -⟩ | ⟨rest, front, -⟩
  · exact not_label_prefix (mem_declaring_iff.mpr (.inl rfl)) blank ⟨rest, front.symm⟩
  · exact not_label_prefix (mem_declaring_iff.mpr (.inr (.inl rfl))) blank ⟨rest, front.symm⟩
  · exact not_label_prefix (mem_declaring_iff.mpr (.inr (.inr rfl))) blank ⟨rest, front.symm⟩

/-! ## The names of declarations -/

/-- A kind that declares a name is announced by its keyword. -/
theorem announces_of_mayDeclare {content : List Char} {kind : Kind}
    (recognised : Kind.ofContent? content = some kind) (declaration : kind.mayDeclare = true) :
    Announces content kind := by
  cases Kind.ofContent?_eq_iff.mp recognised with
  | keyword announces => exact announces
  | condition | otherwise | statement => cases declaration

/-- The name of a declaration is the word after the colon unless a blank stands in front. -/
theorem declaredName_eq {content : List Char} {kind : Kind} (announces : Announces content kind)
    (declares : kind ∈ declaring) :
    declaredName kind.label.toList content =
      if content.head?.any isBlank then [] else wordAfterColon content := by
  split_ifs with blank
  · rw [declaredName, if_neg]
    rw [List.isPrefixOf_iff_prefix]
    exact not_label_prefix declares blank
  · rcases announces.exists_eq_append blank with ⟨back, split, trailing⟩
    rw [split, declaredName_of_front trailing, ← split, wordAfterColon]

/-- The form of declarations captures the name that a declaration gives. -/
theorem captured?_nameForm_eq {content : List Char} {kind : Kind}
    (announces : Announces content kind) (declares : kind ∈ declaring) :
    (nameForm.captured? content).getD [] = declaredName kind.label.toList content := by
  rw [declaredName_eq announces declares]
  split_ifs with blank
  · rw [captured?_nameForm_of_blank blank, Option.getD_none]
  · rcases announces.exists_eq_append blank with ⟨back, split, trailing⟩
    rw [split, captured?_nameForm_of_front declares trailing, ← split, wordAfterColon]

/--
The name of a declaration is what the form of declarations captures: the word
after the first colon or, if a blank stands before the keyword, no name.  This
blank is no space and no tab.  The line declares something exactly if there is
such a word and no such blank.
-/
theorem Line.ofRaw_declares {raw text : String} {number : Int} {note : Option String}
    {entry : Entry} (structural : (Line.ofRaw raw number).body = .structural text)
    (recognised : Entry.ofContent? text (Line.ofRaw raw number).indent number note = some entry)
    (declaration : entry.kind.mayDeclare = true) :
    entry.name = String.ofList ((nameForm.captured? text.toList).getD []) ∧
      entry.name = String.ofList
        (if text.toList.head?.any isBlank then [] else wordAfterColon text.toList) ∧
      (∀ character ∈ text.toList.head?, isIndentation character = false) ∧
      (entry.declares = true ↔
        text.toList.head?.any isBlank = false ∧ wordAfterColon text.toList ≠ []) := by
  rcases Option.map_eq_some_iff.mp recognised with ⟨kind, known, rfl⟩
  have announces := announces_of_mayDeclare known declaration
  have declares : kind ∈ declaring := List.mem_filter.mpr ⟨announces.2.1, declaration⟩
  have name := declaredName_eq announces declares
  simp only at declaration
  refine ⟨?_, ?_, ?_, ?_⟩
  · rw [if_pos declaration, captured?_nameForm_eq announces declares]
  · rw [if_pos declaration, name]
  · have flush := (Line.ofRaw_isWritten raw number).flush
    rwa [structural] at flush
  · simp only [Entry.declares, declaration, name, Bool.true_and, bne_iff_ne, if_true]
    cases text.toList.head?.any isBlank <;> simp

/-- A line with a function, and blanks of different kinds. -/
def spacedFunction : Entry where
  kind := .function
  content := "func\u2003:\u00a0g(x)"
  indent := 4
  lineNumber := 1
  name := "g"

/-- Blanks of any kind around the colon do not matter. -/
theorem Line.ofRaw_declares_spaced :
    Entry.ofContent? "func\u2003:\u00a0g(x)" 4 1 none = some spacedFunction ∧
      spacedFunction.name = String.ofList (wordAfterColon "func\u2003:\u00a0g(x)".toList) ∧
      spacedFunction.declares = true := by
  have read : (Line.ofRaw "\tfunc\u2003:\u00a0g(x)\r\n" 1).body =
        .structural "func\u2003:\u00a0g(x)" ∧
      Entry.ofContent? "func\u2003:\u00a0g(x)" 4 1 none = some spacedFunction ∧
      "func\u2003:\u00a0g(x)".toList.head?.any isBlank = false ∧
      wordAfterColon "func\u2003:\u00a0g(x)".toList ≠ [] := by
    decide +kernel
  rcases read with ⟨structural, recognised, flush, named⟩
  have declared := Line.ofRaw_declares structural recognised rfl
  refine ⟨recognised, ?_, declared.2.2.2.mpr ⟨flush, named⟩⟩
  rw [declared.2.1, flush]
  rfl

/-- A line with a class behind a no-break space. -/
def pushedClass : Entry where
  kind := .classBlock
  content := "\u00a0class: A"
  indent := 0
  lineNumber := 1
  name := ""

/-- Behind a no-break space a class is recognised, but its name is missed. -/
theorem Line.not_forall_ofRaw_name :
    ¬ ∀ (raw text : String) (number : Int) (note : Option String) (entry : Entry),
      (Line.ofRaw raw number).body = .structural text →
      Entry.ofContent? text (Line.ofRaw raw number).indent number note = some entry →
      entry.kind.mayDeclare = true →
      entry.name = String.ofList (wordAfterColon text.toList) := by
  intro always
  have read : (Line.ofRaw "\u00a0class: A" 1).body = .structural "\u00a0class: A" ∧
      Entry.ofContent? "\u00a0class: A" 0 1 none = some pushedClass ∧
      pushedClass.name ≠ String.ofList (wordAfterColon "\u00a0class: A".toList) := by
    decide +kernel
  rcases read with ⟨structural, recognised, missed⟩
  exact missed (always _ _ 1 none pushedClass structural recognised rfl)

end Outline
