import Outline.Proofs.Matching
import Outline.Proofs.Rendering
import Outline.Recognition

/-!
# Headings as expressions

What a structural line stands for can be put in two ways.  One is by expressions
that a search matches against the line: one for the heading, and one for a
conditional or an alternative with a condition.  The other one looks at the text
before the first colon.

The main statement is that both come to the same for every text, and that this
is the kind of node the line is read as.  A line that is nothing but the word of
a bare statement needs no rule of its own, since it has no colon.
-/

namespace Outline

open Outline.Text Outline.Text.Expression

/-! ## The forms of headings -/

/-- Words and blanks before a colon; no blank is captured that could be left out in front. -/
def headingForm : Expression :=
  .inTurn [.front, .most isBlank, .capture (.inTurn [.one isHeading, .least isHeading]),
    .most isBlank, .literal [':']]

/-- A line that begins with one of two words and ends in a colon. -/
def conditionForm : Expression :=
  .inTurn [.front, .capture (.either (.literal ['i', 'f']) (.literal ['e', 'l', 's', 'e'])),
    .wordEdge, .most fun character => character ≠ '\n', .literal [':'], .ending]

/-- The lines that are statements by a rule of their own. -/
def bareStatements : List String :=
  ["continue", "break"]

/-- The heading of a line, as the form of headings captures it. -/
def headingOfForm? (content : List Char) : Option (List Char) :=
  (headingForm.captured? content).map (trim isBlank)

/-- The kind of node that a line stands for by the forms, where some lines are statements. -/
def Kind.ofForms? (bare : List String) (content : List Char) : Option Kind :=
  match (headingOfForm? content).bind fun heading => Kind.ofKeyword? (String.ofList heading) with
  | some kind => some kind
  | none =>
    match conditionForm.captured? content with
    | some word => Kind.ofKeyword? (String.ofList word)
    | none =>
      if bare.contains (String.ofList (trim isBlank content)) then
        some .statement
      else if (headingOfForm? content).all isStatementHeading then
        some .statement
      else
        none

/-! ## The first colon -/

/-- The text before the first colon. -/
def lead (content : List Char) : List Char :=
  content.takeWhile (· ≠ ':')

/-- There is a colon, and only words and blanks stand before the first one. -/
structure IsWordy (content : List Char) : Prop where
  colon : ':' ∈ content
  nonempty : lead content ≠ []
  words : ∀ character ∈ lead content, isWord character = true ∨ isBlank character = true

/-- A text begins with a whole word and is one line that ends in a colon; a line feed may follow. -/
def HasCondition (word content : List Char) : Prop :=
  ∃ inner tail, content = word ++ (inner ++ ':' :: tail) ∧
    (inner ++ ':' :: tail).head?.any isWord = false ∧ '\n' ∉ inner ∧ (tail = [] ∨ tail = ['\n'])

/-- The heading of a line is the keyword of a kind. -/
def Announces (content : List Char) (kind : Kind) : Prop :=
  IsWordy content ∧ kind ∈ Kind.announced ∧ kind.label.toList = trim isBlank (lead content)

/-- What a line stands for by its first colon. -/
inductive StandsFor (content : List Char) : Option Kind → Prop where
  | keyword {kind : Kind} (announces : Announces content kind) :
      StandsFor content (some kind)
  | condition (other : ∀ kind, ¬ Announces content kind)
      (conditional : HasCondition ['i', 'f'] content) :
      StandsFor content (some .conditional)
  | otherwise (other : ∀ kind, ¬ Announces content kind)
      (alternative : HasCondition ['e', 'l', 's', 'e'] content) :
      StandsFor content (some .alternative)
  | statement (other : ∀ kind, ¬ Announces content kind)
      (unconditional : ¬ HasCondition ['i', 'f'] content)
      (final : ¬ HasCondition ['e', 'l', 's', 'e'] content)
      (plain : IsWordy content →
        String.ofList (trim isBlank (lead content)) ∈ statementHeadings) :
      StandsFor content (some .statement)
  | unknown (other : ∀ kind, ¬ Announces content kind)
      (unconditional : ¬ HasCondition ['i', 'f'] content)
      (final : ¬ HasCondition ['e', 'l', 's', 'e'] content)
      (wordy : IsWordy content)
      (odd : String.ofList (trim isBlank (lead content)) ∉ statementHeadings) :
      StandsFor content none

/-! ## The heading -/

theorem isHeading_of_isBlank {character : Char} (blank : isBlank character = true) :
    isHeading character = true := by
  simp [isHeading, blank]

theorem ne_colon_of_isHeading {character : Char} (heading : isHeading character = true) :
    character ≠ ':' := by
  rintro rfl
  exact absurd heading (by decide)

theorem lead_append_colon {text : List Char} (rest : List Char) (free : ':' ∉ text) :
    lead (text ++ ':' :: rest) = text := by
  have others : ∀ character ∈ text, decide (character ≠ ':') = true := by
    intro character member
    exact decide_eq_true fun same => free (same ▸ member)
  rw [lead, List.takeWhile_append_of_pos others]
  simp

theorem afterColon_append_colon {text : List Char} (rest : List Char) (free : ':' ∉ text) :
    afterColon (text ++ ':' :: rest) = rest := by
  have others : ∀ character ∈ text, decide (character ≠ ':') = true := by
    intro character member
    exact decide_eq_true fun same => free (same ▸ member)
  rw [afterColon, List.dropWhile_append_of_pos others]
  simp

/-- Where there is a colon, a text is what stands before the first one and what comes after it. -/
theorem eq_lead_append {content : List Char} (colon : ':' ∈ content) :
    content = lead content ++ ':' :: afterColon content := by
  rcases List.eq_append_cons_of_mem colon with ⟨text, rest, rfl, free⟩
  rw [lead_append_colon rest free, afterColon_append_colon rest free]

theorem colon_not_mem_lead (content : List Char) : ':' ∉ lead content := by
  intro member
  simpa using List.mem_takeWhile_imp member

theorem heading?_eq (content : List Char) :
    heading? content =
      if content.contains ':' && !(lead content).isEmpty && (lead content).all isHeading then
        some (trim isBlank (lead content))
      else
        none :=
  rfl

theorem heading?_eq_some_iff {content keyword : List Char} :
    heading? content = some keyword ↔
      IsWordy content ∧ keyword = trim isBlank (lead content) := by
  rw [heading?_eq, Option.ite_none_right_eq_some, Option.some.injEq, @eq_comm _ _ keyword]
  apply and_congr_left'
  simp only [Bool.and_eq_true, Bool.not_eq_true', List.isEmpty_eq_false_iff, List.all_eq_true,
    List.contains_iff_mem, isHeading, Bool.or_eq_true]
  constructor
  · rintro ⟨⟨colon, nonempty⟩, words⟩
    exact ⟨colon, nonempty, words⟩
  · rintro ⟨colon, nonempty, words⟩
    exact ⟨⟨colon, nonempty⟩, words⟩

theorem heading?_eq_none_iff {content : List Char} :
    heading? content = none ↔ ¬ IsWordy content := by
  rw [← not_iff_not, not_not, ← ne_eq, Option.ne_none_iff_exists']
  simp only [heading?_eq_some_iff, exists_and_left, exists_eq, and_true]

/-- Words and blanks before a colon are the heading, but for the blanks around them. -/
theorem heading?_append_colon {text : List Char} (rest : List Char) (nonempty : text ≠ [])
    (headings : ∀ character ∈ text, isHeading character = true) :
    heading? (text ++ ':' :: rest) = some (trim isBlank text) := by
  have before : lead (text ++ ':' :: rest) = text :=
    lead_append_colon rest fun colon => ne_colon_of_isHeading (headings _ colon) rfl
  rw [heading?_eq_some_iff, before]
  refine ⟨⟨by simp, ?_, ?_⟩, rfl⟩
  · rwa [before]
  · rw [before]
    simpa only [isHeading, Bool.or_eq_true] using headings

/-- How the form of headings cuts a text. -/
theorem cut_of_mem_ways_headingForm {content : List Char} {later : Cursor}
    (member : later ∈ headingForm.ways { after := content }) :
    ∃ front word back rest, content = front ++ word ++ back ++ ':' :: rest ∧ word ≠ [] ∧
      (∀ character ∈ front ++ back, isBlank character = true) ∧
      (∀ character ∈ word, isHeading character = true) ∧ later.captured = some word := by
  rcases mem_ways_inTurn_cons_iff.mp member with ⟨_, begun, member⟩
  rcases mem_ways_front_iff.mp begun with ⟨-, rfl⟩
  rcases mem_ways_inTurn_cons_iff.mp member with ⟨_, leading, member⟩
  rcases mem_ways_most_iff.mp leading with ⟨front, _, rfl, blankFront, rfl⟩
  rcases mem_ways_inTurn_cons_iff.mp member with ⟨_, kept, member⟩
  rcases mem_ways_capture_iff.mp kept with ⟨_, inside, word, split, rfl⟩
  rcases mem_ways_inTurn_cons_iff.mp inside with ⟨_, one, inside⟩
  rcases mem_ways_one_iff.mp one with ⟨first, _, rfl, heading, rfl⟩
  rw [ways_inTurn_singleton] at inside
  rcases mem_ways_least_iff.mp inside with ⟨more, _, rfl, headings, rfl⟩
  rcases mem_ways_inTurn_cons_iff.mp member with ⟨_, trailing, member⟩
  rcases mem_ways_most_iff.mp trailing with ⟨back, _, rfl, blankBack, rfl⟩
  rw [ways_inTurn_singleton] at member
  rcases mem_ways_literal_iff.mp member with ⟨rest, rfl, rfl⟩
  have whole : first :: more = word := List.append_cancel_right split
  subst whole
  refine ⟨front, first :: more, back, rest, by simp, List.cons_ne_nil _ _, ?_, ?_, rfl⟩
  · exact List.forall_mem_append.mpr ⟨blankFront, blankBack⟩
  · exact List.forall_mem_cons.mpr ⟨heading, headings⟩

/-- Words and blanks before a colon can be cut by the form of headings. -/
theorem mem_ways_headingForm {word : List Char} (rest : List Char) (nonempty : word ≠ [])
    (headings : ∀ character ∈ word, isHeading character = true) :
    ⟨':' :: word.reverse, rest, some word⟩ ∈
      headingForm.ways { after := word ++ ':' :: rest } := by
  rcases List.exists_cons_of_ne_nil nonempty with ⟨first, more, rfl⟩
  rcases List.forall_mem_cons.mp headings with ⟨heading, further⟩
  have run : ⟨more.reverse ++ [first], ':' :: rest, none⟩ ∈
      (inTurn [one isHeading, least isHeading]).ways ⟨[], first :: more ++ ':' :: rest, none⟩ := by
    apply mem_ways_inTurn_cons (mem_ways_one_iff.mpr ⟨first, _, rfl, heading, rfl⟩)
    rw [ways_inTurn_singleton]
    exact mem_ways_least_iff.mpr ⟨more, _, rfl, further, rfl⟩
  apply mem_ways_inTurn_cons (mem_ways_front_iff.mpr ⟨rfl, rfl⟩)
  apply mem_ways_inTurn_cons (mem_ways_most_iff.mpr ⟨[], _, rfl, by simp, rfl⟩)
  apply mem_ways_inTurn_cons (mem_ways_capture_iff.mpr ⟨_, run, first :: more, rfl, rfl⟩)
  apply mem_ways_inTurn_cons (mem_ways_most_iff.mpr ⟨[], _, rfl, by simp, rfl⟩)
  rw [ways_inTurn_singleton]
  exact mem_ways_literal_iff.mpr ⟨rest, rfl, by simp⟩

/-- A text that the form of headings cuts has what is captured as its heading, but for blanks. -/
theorem heading?_of_mem_ways {content : List Char} {later : Cursor}
    (member : later ∈ headingForm.ways { after := content }) :
    ∃ word, later.captured = some word ∧ heading? content = some (trim isBlank word) := by
  rcases cut_of_mem_ways_headingForm member with
    ⟨front, word, back, rest, rfl, nonempty, blank, headings, captured⟩
  have words : ∀ character ∈ front ++ word ++ back, isHeading character = true := by
    intro character inside
    simp only [List.mem_append] at inside blank
    rcases inside with (leading | middle) | trailing
    · exact isHeading_of_isBlank (blank character (.inl leading))
    · exact headings character middle
    · exact isHeading_of_isBlank (blank character (.inr trailing))
  refine ⟨word, captured, ?_⟩
  rw [heading?_append_colon rest (by simp [nonempty]) words, trim_append_append word blank]

/-- The form of headings captures the text before the first colon, but for blanks around it. -/
theorem headingOfForm?_eq (content : List Char) : headingOfForm? content = heading? content := by
  cases found : headingForm.captured? content with
  | some word =>
      rcases exists_mem_ways_of_captured? found with ⟨later, member, captured⟩
      rcases heading?_of_mem_ways member with ⟨other, same, heading⟩
      rw [captured, Option.some.injEq] at same
      rw [headingOfForm?, found, heading, same, Option.map_some]
  | none =>
      rw [headingOfForm?, found, Option.map_none, eq_comm, heading?_eq_none_iff]
      intro wordy
      have headings : ∀ character ∈ lead content, isHeading character = true := by
        simpa [isHeading] using wordy.words
      have member := mem_ways_headingForm (afterColon content) wordy.nonempty headings
      rw [← eq_lead_append wordy.colon] at member
      have captures : ∀ reached ∈ headingForm.ways { after := content },
          reached.captured.isSome = true := by
        intro reached inside
        rcases heading?_of_mem_ways inside with ⟨word, captured, -⟩
        rw [captured, Option.isSome_some]
      simpa [found] using captured?_isSome member captures

/-! ## Conditions -/

theorem endsInColon_iff {text : List Char} :
    endsInColon text = true ↔
      ∃ inner tail, text = inner ++ ':' :: tail ∧ '\n' ∉ inner ∧ (tail = [] ∨ tail = ['\n']) := by
  simp only [endsInColon, Bool.and_eq_true, decide_eq_true_eq, List.getLast?_eq_some_iff]
  constructor
  · rintro ⟨⟨inner, line⟩, short⟩
    have parts : text = (inner ++ [':']) ++ text.dropWhile (· ≠ '\n') :=
      line ▸ List.takeWhile_append_dropWhile.symm
    refine ⟨inner, text.dropWhile (· ≠ '\n'), by simpa using parts, ?_, ?_⟩
    · intro feed
      have member : '\n' ∈ text.takeWhile (· ≠ '\n') := line ▸ List.mem_append_left _ feed
      simpa using List.mem_takeWhile_imp member
    · cases rest : text.dropWhile (· ≠ '\n') with
      | nil => exact .inl rfl
      | cons next further =>
          have feed := List.head?_dropWhile_not (fun character => decide (character ≠ '\n')) text
          rw [rest] at short feed
          simp at short feed
          rw [short, feed]
          exact .inr rfl
  · rintro ⟨inner, tail, rfl, free, final⟩
    have others : ∀ character ∈ inner ++ [':'], decide (character ≠ '\n') = true := by
      intro character member
      rcases List.mem_append.mp member with inside | last
      · exact decide_eq_true fun same => free (same ▸ inside)
      · rw [List.mem_singleton.mp last]
        decide
    rw [List.append_cons, List.takeWhile_append_of_pos others, List.dropWhile_append_of_pos others]
    rcases final with rfl | rfl
    · exact ⟨⟨inner, by simp⟩, by simp⟩
    · exact ⟨⟨inner, by simp⟩, by simp⟩

theorem opensWith_iff {word content : List Char} :
    opensWith word content = true ↔ HasCondition word content := by
  simp only [opensWith, Bool.and_eq_true, Bool.not_eq_true', List.isPrefixOf_iff_prefix,
    endsInColon_iff]
  constructor
  · rintro ⟨⟨⟨rest, rfl⟩, edge⟩, inner, tail, split, free, final⟩
    rw [List.drop_left] at edge split
    exact ⟨inner, tail, by rw [split], split ▸ edge, free, final⟩
  · rintro ⟨inner, tail, rfl, edge, free, final⟩
    rw [List.drop_left]
    exact ⟨⟨List.prefix_append _ _, edge⟩, inner, tail, rfl, free, final⟩

/-- The words that may have a condition. -/
def conditionWords : List (List Char) :=
  [['i', 'f'], ['e', 'l', 's', 'e']]

theorem isWord_of_conditionWords :
    ∀ word ∈ conditionWords, word.getLast?.any isWord = true := by
  decide

/-- No text begins with both words. -/
theorem eq_of_conditionWords {word other rest further : List Char} (known : word ∈ conditionWords)
    (alsoKnown : other ∈ conditionWords) (same : word ++ rest = other ++ further) :
    word = other := by
  simp only [conditionWords, List.mem_cons, List.not_mem_nil, or_false] at known alsoKnown
  rcases known with rfl | rfl <;> rcases alsoKnown with rfl | rfl <;> simp at same ⊢

/-- The form of conditions captures the word that has the condition. -/
theorem cut_of_mem_ways_conditionForm {content : List Char} {later : Cursor}
    (member : later ∈ conditionForm.ways { after := content }) :
    ∃ word ∈ conditionWords, HasCondition word content ∧ later.captured = some word := by
  rcases mem_ways_inTurn_cons_iff.mp member with ⟨_, begun, member⟩
  rcases mem_ways_front_iff.mp begun with ⟨-, rfl⟩
  rcases mem_ways_inTurn_cons_iff.mp member with ⟨_, kept, member⟩
  rcases mem_ways_capture_iff.mp kept with ⟨reached, either, word, split, rfl⟩
  have known : ∃ rest, word ∈ conditionWords ∧ reached = ⟨word.reverse ++ [], rest, none⟩ := by
    rcases mem_ways_either_iff.mp either with conditional | alternative
    · rcases mem_ways_literal_iff.mp conditional with ⟨rest, rfl, rfl⟩
      rw [← List.append_cancel_right split]
      exact ⟨rest, by decide, rfl⟩
    · rcases mem_ways_literal_iff.mp alternative with ⟨rest, rfl, rfl⟩
      rw [← List.append_cancel_right split]
      exact ⟨rest, by decide, rfl⟩
  rcases known with ⟨rest, known, rfl⟩
  rcases mem_ways_inTurn_cons_iff.mp member with ⟨_, ended, member⟩
  rcases mem_ways_wordEdge_iff.mp ended with ⟨differs, rfl⟩
  have edge : rest.head?.any isWord = false := by
    simpa [isWord_of_conditionWords word known] using differs
  rcases mem_ways_inTurn_cons_iff.mp member with ⟨_, run, member⟩
  rcases mem_ways_most_iff.mp run with ⟨inner, _, rfl, free, rfl⟩
  rcases mem_ways_inTurn_cons_iff.mp member with ⟨_, colon, member⟩
  rcases mem_ways_literal_iff.mp colon with ⟨tail, rfl, rfl⟩
  rw [ways_inTurn_singleton] at member
  rcases mem_ways_ending_iff.mp member with ⟨final, rfl⟩
  refine ⟨word, known, ⟨inner, tail, split, edge, ?_, final⟩, rfl⟩
  intro feed
  simpa using free '\n' feed

/-- A word with a condition can be cut by the form of conditions. -/
theorem exists_mem_ways_conditionForm {word content : List Char} (known : word ∈ conditionWords)
    (condition : HasCondition word content) :
    ∃ later, later ∈ conditionForm.ways { after := content } := by
  rcases condition with ⟨inner, tail, rfl, edge, free, final⟩
  have opened : ⟨word.reverse ++ [], inner ++ ':' :: tail, none⟩ ∈
      (either (literal ['i', 'f']) (literal ['e', 'l', 's', 'e'])).ways
        ⟨[], word ++ (inner ++ ':' :: tail), none⟩ := by
    rw [mem_ways_either_iff, mem_ways_literal_iff, mem_ways_literal_iff]
    simp only [conditionWords, List.mem_cons, List.not_mem_nil, or_false] at known
    rcases known with rfl | rfl
    · exact .inl ⟨_, rfl, rfl⟩
    · exact .inr ⟨_, rfl, rfl⟩
  have ended : (word.reverse ++ []).head?.any isWord ≠ (inner ++ ':' :: tail).head?.any isWord := by
    rw [List.append_nil, List.head?_reverse, isWord_of_conditionWords word known, edge]
    decide
  have line : ∀ character ∈ inner, decide (character ≠ '\n') = true := by
    intro character member
    exact decide_eq_true fun same => free (same ▸ member)
  refine ⟨⟨':' :: (inner.reverse ++ (word.reverse ++ [])), tail, some word⟩, ?_⟩
  apply mem_ways_inTurn_cons (mem_ways_front_iff.mpr ⟨rfl, rfl⟩)
  apply mem_ways_inTurn_cons (mem_ways_capture_iff.mpr ⟨_, opened, word, rfl, rfl⟩)
  apply mem_ways_inTurn_cons (mem_ways_wordEdge_iff.mpr ⟨ended, rfl⟩)
  apply mem_ways_inTurn_cons (mem_ways_most_iff.mpr ⟨inner, _, rfl, line, rfl⟩)
  apply mem_ways_inTurn_cons (mem_ways_literal_iff.mpr ⟨tail, rfl, rfl⟩)
  rw [ways_inTurn_singleton]
  exact mem_ways_ending_iff.mpr ⟨final, rfl⟩

/-- The form of conditions captures a word exactly if the word has a condition. -/
theorem captured?_conditionForm_eq_some_iff {word content : List Char} :
    conditionForm.captured? content = some word ↔
      word ∈ conditionWords ∧ HasCondition word content := by
  constructor
  · intro found
    rcases exists_mem_ways_of_captured? found with ⟨later, member, captured⟩
    rcases cut_of_mem_ways_conditionForm member with ⟨other, known, condition, same⟩
    rw [captured, Option.some.injEq] at same
    exact same ▸ ⟨known, condition⟩
  · rintro ⟨known, condition⟩
    rcases exists_mem_ways_conditionForm known condition with ⟨later, member⟩
    have captures : ∀ reached ∈ conditionForm.ways { after := content },
        reached.captured.isSome = true := by
      intro reached inside
      rcases cut_of_mem_ways_conditionForm inside with ⟨other, -, -, captured⟩
      rw [captured, Option.isSome_some]
    rcases Option.isSome_iff_exists.mp (captured?_isSome member captures) with ⟨other, found⟩
    rcases exists_mem_ways_of_captured? found with ⟨reached, inside, captured⟩
    rcases cut_of_mem_ways_conditionForm inside with ⟨third, alsoKnown, ⟨_, _, split, -⟩, same⟩
    rw [captured, Option.some.injEq] at same
    rcases condition with ⟨_, _, whole, -⟩
    rw [found, same, eq_of_conditionWords alsoKnown known (split.symm.trans whole)]

/-! ## Kinds -/

theorem Kind.ofKeyword?_eq_some_iff {keyword : String} {kind : Kind} :
    ofKeyword? keyword = some kind ↔ kind ∈ announced ∧ kind.label = keyword := by
  constructor
  · intro found
    exact ⟨List.mem_of_find?_eq_some found, by simpa using List.find?_some found⟩
  · rintro ⟨member, rfl⟩
    revert kind
    decide

theorem announces_iff {content : List Char} {kind : Kind} :
    ((heading? content).bind fun heading => Kind.ofKeyword? (String.ofList heading)) = some kind ↔
      Announces content kind := by
  simp only [Option.bind_eq_some_iff, heading?_eq_some_iff, Kind.ofKeyword?_eq_some_iff]
  constructor
  · rintro ⟨heading, ⟨wordy, rfl⟩, member, label⟩
    exact ⟨wordy, member, by rw [label, String.toList_ofList]⟩
  · rintro ⟨wordy, member, label⟩
    exact ⟨_, ⟨wordy, rfl⟩, member, by rw [← label, String.ofList_toList]⟩

theorem announces_none_iff {content : List Char} :
    ((heading? content).bind fun heading => Kind.ofKeyword? (String.ofList heading)) = none ↔
      ∀ kind, ¬ Announces content kind := by
  rw [Option.eq_none_iff_forall_ne_some]
  exact forall_congr' fun kind => not_congr announces_iff

/-- A line without a keyword is decided by its condition and then by its heading. -/
theorem Kind.ofContent?_of_other {content : List Char}
    (other : ∀ kind, ¬ Announces content kind) :
    Kind.ofContent? content =
      if opensWith ['i', 'f'] content then some .conditional
      else if opensWith ['e', 'l', 's', 'e'] content then some .alternative
      else if (heading? content).all isStatementHeading then some .statement
      else none := by
  rw [ofContent?, announces_none_iff.mpr other]

theorem isStatementHeading_iff {content : List Char} :
    (heading? content).all isStatementHeading = true ↔
      (IsWordy content → String.ofList (trim isBlank (lead content)) ∈ statementHeadings) := by
  by_cases wordy : IsWordy content
  · rw [heading?_eq_some_iff.mpr ⟨wordy, rfl⟩]
    simp [isStatementHeading, wordy]
  · rw [heading?_eq_none_iff.mpr wordy]
    simp [wordy]

theorem not_both_conditions {content : List Char}
    (alternative : HasCondition ['e', 'l', 's', 'e'] content) :
    ¬ HasCondition ['i', 'f'] content := by
  rintro ⟨_, _, whole, -⟩
  rcases alternative with ⟨_, _, split, -⟩
  have same := eq_of_conditionWords (by decide) (by decide) (whole.symm.trans split)
  exact absurd same (by decide)

theorem standsFor_ofContent? (content : List Char) :
    StandsFor content (Kind.ofContent? content) := by
  by_cases announced : ∃ kind, Announces content kind
  · rcases announced with ⟨kind, announces⟩
    rw [Kind.ofContent?, announces_iff.mpr announces]
    exact .keyword announces
  have other := not_exists.mp announced
  rw [Kind.ofContent?_of_other other]
  by_cases conditional : HasCondition ['i', 'f'] content
  · rw [if_pos (opensWith_iff.mpr conditional)]
    exact .condition other conditional
  by_cases alternative : HasCondition ['e', 'l', 's', 'e'] content
  · rw [if_neg (opensWith_iff.not.mpr conditional), if_pos (opensWith_iff.mpr alternative)]
    exact .otherwise other alternative
  rw [if_neg (opensWith_iff.not.mpr conditional), if_neg (opensWith_iff.not.mpr alternative)]
  split_ifs with plain
  · exact .statement other conditional alternative (isStatementHeading_iff.mp plain)
  · rw [isStatementHeading_iff, Classical.not_imp] at plain
    exact .unknown other conditional alternative plain.1 plain.2

/-- What a line stands for by its first colon is unique. -/
theorem StandsFor.eq_ofContent? {content : List Char} {kind : Option Kind}
    (stands : StandsFor content kind) :
    Kind.ofContent? content = kind := by
  cases stands with
  | keyword announces =>
      rw [Kind.ofContent?, announces_iff.mpr announces]
  | condition other conditional =>
      rw [Kind.ofContent?_of_other other, if_pos (opensWith_iff.mpr conditional)]
  | otherwise other alternative =>
      rw [Kind.ofContent?_of_other other,
        if_neg (opensWith_iff.not.mpr (not_both_conditions alternative)),
        if_pos (opensWith_iff.mpr alternative)]
  | statement other unconditional final plain =>
      rw [Kind.ofContent?_of_other other, if_neg (opensWith_iff.not.mpr unconditional),
        if_neg (opensWith_iff.not.mpr final), if_pos (isStatementHeading_iff.mpr plain)]
  | unknown other unconditional final wordy odd =>
      rw [Kind.ofContent?_of_other other, if_neg (opensWith_iff.not.mpr unconditional),
        if_neg (opensWith_iff.not.mpr final),
        if_neg (isStatementHeading_iff.not.mpr fun plain => odd (plain wordy))]

theorem Kind.ofContent?_eq_iff {content : List Char} {kind : Option Kind} :
    Kind.ofContent? content = kind ↔ StandsFor content kind := by
  constructor
  · rintro rfl
    exact standsFor_ofContent? content
  · exact StandsFor.eq_ofContent?

/-- A text that is the word of a bare statement, but for blanks, has no heading. -/
theorem heading?_of_bare {bare : List String} (free : ∀ word ∈ bare, ':' ∉ word.toList)
    {content : List Char} (known : bare.contains (String.ofList (trim isBlank content)) = true) :
    heading? content = none := by
  rw [heading?_eq_none_iff]
  intro wordy
  have colon := @mem_trim_of_mem isBlank _ _ wordy.colon (by decide)
  rw [List.contains_iff_mem] at known
  exact free _ known (by rwa [String.toList_ofList])

/-- The forms decide as the first colon does, whatever lines without a colon are set apart. -/
theorem Kind.ofForms?_eq {bare : List String} (free : ∀ word ∈ bare, ':' ∉ word.toList)
    (content : List Char) :
    Kind.ofForms? bare content = Kind.ofContent? content := by
  rw [ofForms?, headingOfForm?_eq, ofContent?]
  cases (heading? content).bind fun heading => Kind.ofKeyword? (String.ofList heading) with
  | some kind => rfl
  | none =>
      cases captured : conditionForm.captured? content with
      | some word =>
          rcases captured?_conditionForm_eq_some_iff.mp captured with ⟨known, condition⟩
          simp only [conditionWords, List.mem_cons, List.not_mem_nil, or_false] at known
          rcases known with rfl | rfl
          · rw [if_pos (opensWith_iff.mpr condition)]
            rfl
          · rw [if_neg (opensWith_iff.not.mpr (not_both_conditions condition)),
              if_pos (opensWith_iff.mpr condition)]
            rfl
      | none =>
          have plain : ∀ word ∈ conditionWords, ¬ opensWith word content = true := by
            intro word known
            rw [opensWith_iff]
            intro condition
            simp [captured?_conditionForm_eq_some_iff.mpr ⟨known, condition⟩] at captured
          rw [if_neg (plain ['i', 'f'] (by decide)),
            if_neg (plain ['e', 'l', 's', 'e'] (by decide))]
          -- a line that is set apart has no heading, so that it is a statement anyway
          split_ifs with apart final final
          · rfl
          · simp [heading?_of_bare free apart] at final
          · rfl
          · rfl

/-! ## Lines -/

/-- The text of a description is what comes after the first colon, and there is one. -/
theorem exists_colon_of_description {content : List Char}
    (described : Kind.ofContent? content = some .description) :
    ∃ before after, content = before ++ ':' :: after ∧ ':' ∉ before ∧
      afterColon content = after := by
  cases Kind.ofContent?_eq_iff.mp described with
  | keyword announces =>
      exact ⟨lead content, afterColon content, eq_lead_append announces.1.colon,
        colon_not_mem_lead content, rfl⟩

/--
The forms and the first colon agree on every text: on its heading, which is the
text before the first colon without the blanks around it, and on what the line
stands for, with or without a rule for bare statements.  A description always
has a colon, and its text is what comes after it.
-/
theorem Entry.ofContent?_standsFor (content : String) (indent lineNumber : Int)
    (note : Option String) :
    headingOfForm? content.toList = heading? content.toList ∧
    (∀ keyword, heading? content.toList = some keyword ↔
      IsWordy content.toList ∧ keyword = trim isBlank (lead content.toList)) ∧
    Kind.ofForms? bareStatements content.toList = Kind.ofContent? content.toList ∧
    Kind.ofForms? [] content.toList = Kind.ofContent? content.toList ∧
    (∀ kind, (Entry.ofContent? content indent lineNumber note).map Entry.kind = kind ↔
      StandsFor content.toList kind) ∧
    ∀ entry, Entry.ofContent? content indent lineNumber note = some entry →
      entry.kind = .description →
      ∃ before after, content.toList = before ++ ':' :: after ∧ ':' ∉ before ∧
        entry.description = some (String.ofList (trim isBlank after)) := by
  have kind : (Entry.ofContent? content indent lineNumber note).map Entry.kind =
      Kind.ofContent? content.toList := by
    simp [Entry.ofContent?, Function.comp_def]
  refine ⟨headingOfForm?_eq _, fun _ => heading?_eq_some_iff, Kind.ofForms?_eq (by decide) _,
    Kind.ofForms?_eq (by simp) _, fun _ => kind ▸ Kind.ofContent?_eq_iff, ?_⟩
  intro entry recognised described
  rw [recognised, Option.map_some, described, eq_comm] at kind
  rcases exists_colon_of_description kind with ⟨before, after, split, free, rest⟩
  refine ⟨before, after, split, free, ?_⟩
  rw [← rest]
  simp only [Entry.ofContent?, Option.map_eq_some_iff] at recognised
  rcases recognised with ⟨_, -, rfl⟩
  exact if_pos described

/--
A condition may hold a colon, so that its line has a heading that is not known;
a heading may be nothing but blanks; the text of a description may have more
colons.
-/
theorem Entry.ofContent?_standsFor_described :
    ((Entry.ofContent? "if a: b:" 0 1 none).map Entry.kind = some .conditional ∧
      heading? "if a: b:".toList = some "if a".toList ∧
      StandsFor "if a: b:".toList (some .conditional)) ∧
    ((Entry.ofContent? "\u00a0: a" 0 2 none).map Entry.kind = none ∧
      (IsWordy "\u00a0: a".toList ∧ [] = trim isBlank (lead "\u00a0: a".toList)) ∧
      StandsFor "\u00a0: a".toList none) ∧
    ∃ entry, Entry.ofContent? "description\u00a0: a: b" 4 2 none = some entry ∧
      entry.kind = .description ∧
      ∃ before after, "description\u00a0: a: b".toList = before ++ ':' :: after ∧ ':' ∉ before ∧
        entry.description = some (String.ofList (trim isBlank after)) := by
  refine ⟨?conditional, ?blank, ?described⟩
  case conditional =>
    have stands := (Entry.ofContent?_standsFor "if a: b:" 0 1 none).2.2.2.2.1
    exact ⟨rfl, by decide, (stands _).mp rfl⟩
  case blank =>
    have ⟨_, heading, _, _, stands, _⟩ := Entry.ofContent?_standsFor "\u00a0: a" 0 2 none
    exact ⟨rfl, (heading []).mp (by decide), (stands _).mp rfl⟩
  case described =>
    exact ⟨_, rfl, rfl, (Entry.ofContent?_standsFor _ 4 2 none).2.2.2.2.2 _ rfl rfl⟩

end Outline
