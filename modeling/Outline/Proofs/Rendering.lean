import Mathlib.Data.List.DropRight
import Outline.Proofs.Renumbering

/-!
# The written form of lines

A line that is written and read again is the same line but for its number.  What
reading takes off a line does not come back: the indentation is written in
spaces, nothing blank stands at the end, and the text of a note has no blanks
around it.

The main statements are that all that is read is written in a form which is read
as the same, and that a document which is written line by line has these lines.
-/

namespace Outline

namespace Text

variable {drop ends : Char → Bool}

/-! ## Trimmed texts -/

theorem trimEnd_eq_rdropWhile (text : List Char) : trimEnd drop text = text.rdropWhile drop :=
  rfl

theorem trimEnd_cons (character : Char) (rest : List Char) :
    trimEnd drop (character :: rest) =
      if trimEnd drop rest = [] ∧ drop character = true then [] else
        character :: trimEnd drop rest := by
  simp only [trimEnd, List.reverse_cons, List.dropWhile_append, List.reverse_eq_nil_iff,
    List.isEmpty_iff]
  by_cases empty : rest.reverse.dropWhile drop = [] <;>
    by_cases dropped : drop character = true <;> simp [empty, dropped]

theorem trimEnd_cons_of_not (character : Char) (rest : List Char)
    (kept : drop character = false) :
    trimEnd drop (character :: rest) = character :: trimEnd drop rest := by
  simp [trimEnd_cons, kept]

theorem trimEnd_subset (text : List Char) : trimEnd drop text ⊆ text :=
  (List.rdropWhile_prefix drop text).subset

theorem trim_subset (text : List Char) : trim drop text ⊆ text :=
  fun _ member => (List.dropWhile_sublist drop).subset (trimEnd_subset _ member)

@[simp]
theorem trimEnd_trimEnd (text : List Char) :
    trimEnd drop (trimEnd drop text) = trimEnd drop text :=
  List.rdropWhile_idempotent drop text

theorem trimEnd_eq_self {text : List Char}
    (kept : ∀ character ∈ text.getLast?, drop character = false) :
    trimEnd drop text = text := by
  rw [trimEnd_eq_rdropWhile, List.rdropWhile_eq_self_iff]
  intro nonempty dropped
  simp [kept _ (List.getLast?_eq_getLast_of_ne_nil nonempty)] at dropped

/-- It does not matter at which end a text is trimmed first. -/
theorem dropWhile_trimEnd (text : List Char) :
    (trimEnd drop text).dropWhile drop = trimEnd drop (text.dropWhile drop) := by
  induction text with
  | nil => rfl
  | cons character rest induction =>
      cases dropped : drop character with
      | false =>
          rw [trimEnd_cons_of_not _ _ dropped, List.dropWhile_cons_of_neg (by simp [dropped]),
            List.dropWhile_cons_of_neg (by simp [dropped]), trimEnd_cons_of_not _ _ dropped]
      | true =>
          rw [List.dropWhile_cons_of_pos dropped, ← induction, trimEnd_cons]
          by_cases empty : trimEnd drop rest = [] <;> simp [empty, dropped]

theorem trim_trimEnd (text : List Char) : trim drop (trimEnd drop text) = trim drop text := by
  rw [trim, trimStart, dropWhile_trimEnd, trimEnd_trimEnd, trim]

@[simp]
theorem trim_trim (text : List Char) : trim drop (trim drop text) = trim drop text := by
  show trim drop (trimEnd drop (trimStart drop text)) = _
  rw [trim_trimEnd, trim, trim, trimStart, List.dropWhile_idempotent]

theorem trimEnd_append (first second : List Char) :
    trimEnd drop (first ++ second) =
      if trimEnd drop second = [] then trimEnd drop first else first ++ trimEnd drop second := by
  simp only [trimEnd, List.reverse_append, List.dropWhile_append, List.isEmpty_iff,
    List.reverse_eq_nil_iff]
  split
  · rfl
  · rw [List.reverse_append, List.reverse_reverse]

theorem trimEnd_append_dropped (text : List Char) {tail : List Char}
    (dropped : ∀ character ∈ tail, drop character = true) :
    trimEnd drop (text ++ tail) = trimEnd drop text := by
  rw [trimEnd_append, if_pos]
  rw [trimEnd_eq_rdropWhile, List.rdropWhile_eq_nil_iff]
  exact dropped

/-- What is trimmed off does not matter at either end. -/
theorem trim_append_append (word : List Char) {front back : List Char}
    (dropped : ∀ character ∈ front ++ back, drop character = true) :
    trim drop (front ++ word ++ back) = trim drop word := by
  rcases List.forall_mem_append.mp dropped with ⟨leading, trailing⟩
  rw [← trim_trimEnd, trimEnd_append_dropped _ trailing, trim_trimEnd, trim, trimStart,
    List.dropWhile_append_of_pos leading, trim]

/-- A text is what is left after trimming, with characters of the class around it. -/
theorem exists_eq_append_trim_append (drop : Char → Bool) (text : List Char) :
    ∃ front back, text = front ++ trim drop text ++ back ∧
      ∀ character ∈ front ++ back, drop character = true := by
  refine ⟨text.takeWhile drop, (trimStart drop text).rtakeWhile drop, ?_, ?_⟩
  · rw [List.append_assoc, trim, trimEnd_eq_rdropWhile, List.rdropWhile_append_rtakeWhile,
      List.takeWhile_append_dropWhile]
  · rw [List.forall_mem_append]
    exact ⟨fun _ => List.mem_takeWhile_imp, fun _ => List.mem_rtakeWhile_imp⟩

theorem mem_trim_of_mem {text : List Char} {character : Char} (member : character ∈ text)
    (kept : drop character = false) :
    character ∈ trim drop text := by
  rcases exists_eq_append_trim_append drop text with ⟨front, back, split, dropped⟩
  rw [split] at member
  simp only [List.mem_append] at member dropped
  rcases member with (leading | inside) | trailing
  · simp [dropped character (.inl leading)] at kept
  · exact inside
  · simp [dropped character (.inr trailing)] at kept

/-- Nothing that is trimmed off stands at the end. -/
theorem drop_eq_false_of_getLast? {text : List Char} {character : Char}
    (last : character ∈ (trimEnd drop text).getLast?) :
    drop character = false := by
  rw [trimEnd, List.getLast?_reverse] at last
  have first := List.head?_dropWhile_not drop text.reverse
  rw [Option.mem_def.mp last] at first
  exact first

/-- Trimming at the end does not change how a text begins. -/
theorem head?_of_head?_trimEnd {text : List Char} {character : Char}
    (first : character ∈ (trimEnd drop text).head?) :
    character ∈ text.head? := by
  cases text with
  | nil => exact first
  | cons other rest =>
      rw [trimEnd_cons] at first
      by_cases blank : trimEnd drop rest = [] ∧ drop other = true <;> simp [blank] at first
      exact congrArg some first

/-! ## Texts that are written line by line -/

/-- No line holds a character that ends lines. -/
theorem ends_eq_false_of_mem_linesOf {text line : List Char} (member : line ∈ linesOf ends text)
    {character : Char} (inside : character ∈ line) :
    ends character = false := by
  induction text generalizing line with
  | nil => simp [linesOf] at member
  | cons first rest induction =>
      rw [show linesOf ends (first :: rest) = consLines ends first (linesOf ends rest) from rfl]
        at member
      unfold consLines at member
      cases ended : ends first with
      | true =>
          rw [if_pos ended, List.mem_cons] at member
          rcases member with rfl | later
          · simp at inside
          · exact induction later inside
      | false =>
          rw [if_neg (by simp [ended])] at member
          cases cut : linesOf ends rest with
          | nil =>
              simp only [cut, List.mem_singleton] at member
              subst line
              rw [List.mem_singleton.mp inside]
              exact ended
          | cons next others =>
              simp only [cut, List.mem_cons] at member induction
              rcases member with rfl | later
              · rcases List.mem_cons.mp inside with rfl | further
                · exact ended
                · exact induction (.inl rfl) further
              · exact induction (.inr later) inside

theorem linesOf_append_end {line rest : List Char} {last : Char}
    (free : ∀ character ∈ line, ends character = false) (ended : ends last = true) :
    linesOf ends (line ++ last :: rest) = line :: linesOf ends rest := by
  induction line with
  | nil => simp [linesOf, consLines, ended]
  | cons first further induction =>
      have later := induction fun character member => free character (List.mem_cons_of_mem _ member)
      rw [linesOf] at later
      simp [linesOf, later, consLines, free first List.mem_cons_self]

/-- Lines that are all ended are the lines of the whole text. -/
theorem linesOf_flatMap {lines : List (List Char)} {last : Char}
    (free : ∀ line ∈ lines, ∀ character ∈ line, ends character = false)
    (ended : ends last = true) :
    linesOf ends (lines.flatMap fun line => line ++ [last]) = lines := by
  induction lines with
  | nil => rfl
  | cons line rest induction =>
      rw [List.flatMap_cons, List.append_assoc, List.singleton_append,
        linesOf_append_end (free line List.mem_cons_self) ended,
        induction fun other member => free other (List.mem_cons_of_mem _ member)]

end Text

open Outline.Text

theorem isBlank_of_isLineEnd {character : Char} (ends : isLineEnd character = true) :
    isBlank character = true := by
  simp only [isLineEnd, Bool.or_eq_true, decide_eq_true_eq] at ends
  rcases ends with rfl | rfl <;> decide

/-! ## Bodies -/

namespace LineBody

theorem ofText_of_blank {text : List Char} (blank : trimEnd isBlank text = []) :
    ofText text = .blank := by
  rw [trimEnd_eq_rdropWhile, List.rdropWhile_eq_nil_iff] at blank
  unfold ofText
  rw [if_pos (List.all_eq_true.mpr blank)]

/-- A text with neither slashes nor an at sign before it is that of a node. -/
theorem ofText_of_other {text : List Char} (lively : trimEnd isBlank text ≠ [])
    (noRemark : ∀ rest, text ≠ '/' :: '/' :: rest) (noNote : ∀ rest, text ≠ '@' :: rest) :
    ofText text = .structural (String.ofList (trimEnd isBlank text)) := by
  rw [trimEnd_eq_rdropWhile, Ne, List.rdropWhile_eq_nil_iff, ← List.all_eq_true] at lively
  unfold ofText
  rw [if_neg lively]
  split
  · exact absurd rfl (noRemark _)
  · exact absurd rfl (noNote _)
  · rfl

theorem ofText_remark (rest : List Char) :
    ofText ('/' :: '/' :: rest) =
      .comment (String.ofList (trimEnd isBlank ('/' :: '/' :: rest))) := by
  have lively : isBlank '/' = false := by decide
  simp [ofText, lively]

theorem ofText_note (rest : List Char) :
    ofText ('@' :: rest) = .note (String.ofList (trim isBlank rest)) := by
  have lively : isBlank '@' = false := by decide
  simp [ofText, lively]

/-- The shapes of a text, in the order in which reading tells them apart. -/
inductive Shape : List Char → Prop
  | blank {text : List Char} (nothing : trimEnd isBlank text = []) : Shape text
  | remark (rest : List Char) : Shape ('/' :: '/' :: rest)
  | note (rest : List Char) : Shape ('@' :: rest)
  | other {text : List Char} (lively : trimEnd isBlank text ≠ [])
      (noRemark : ∀ rest, text ≠ '/' :: '/' :: rest) (noNote : ∀ rest, text ≠ '@' :: rest) :
      Shape text

theorem shape (text : List Char) : Shape text := by
  by_cases blank : trimEnd isBlank text = []
  · exact .blank blank
  by_cases remark : ∃ rest, text = '/' :: '/' :: rest
  · rcases remark with ⟨rest, rfl⟩
    exact .remark rest
  by_cases noted : ∃ rest, text = '@' :: rest
  · rcases noted with ⟨rest, rfl⟩
    exact .note rest
  · exact .other blank (not_exists.mp remark) (not_exists.mp noted)

/-- Blanks at the end of a line do not matter. -/
theorem ofText_trimEnd (text : List Char) : ofText (trimEnd isBlank text) = ofText text := by
  cases shape text with
  | blank nothing =>
      rw [ofText_of_blank nothing, ofText_of_blank (by rw [trimEnd_trimEnd, nothing])]
  | remark rest =>
      have slash : isBlank '/' = false := by decide
      rw [trimEnd_cons_of_not _ _ slash, trimEnd_cons_of_not _ _ slash, ofText_remark,
        ofText_remark]
      simp only [trimEnd_cons_of_not _ _ slash, trimEnd_trimEnd]
  | note rest =>
      have sign : isBlank '@' = false := by decide
      rw [trimEnd_cons_of_not _ _ sign, ofText_note, ofText_note, trim_trimEnd]
  | other lively noRemark noNote =>
      -- There is no mark in front, and trimming at the end makes none.
      rcases List.rdropWhile_prefix isBlank text with ⟨tail, whole⟩
      rw [← trimEnd_eq_rdropWhile] at whole
      rw [ofText_of_other lively noRemark noNote, ofText_of_other, trimEnd_trimEnd]
      · rwa [trimEnd_trimEnd]
      · intro rest same
        exact noRemark (rest ++ tail) (by rw [← whole, same]; rfl)
      · intro rest same
        exact noNote (rest ++ tail) (by rw [← whole, same]; rfl)

/-- A body is written as its text, trimmed; what follows an at sign is trimmed at both ends. -/
theorem render_ofText (text : List Char) :
    (ofText text).render.toList = trimEnd isBlank text ∨
      ∃ rest, text = '@' :: rest ∧ (ofText text).render.toList = '@' :: trim isBlank rest := by
  cases shape text with
  | blank nothing =>
      left
      rw [ofText_of_blank nothing, nothing]
      rfl
  | remark rest =>
      left
      rw [ofText_remark, render, String.toList_ofList]
  | note rest =>
      right
      refine ⟨rest, rfl, ?_⟩
      rw [ofText_note]
      simp [render]
  | other lively noRemark noNote =>
      left
      rw [ofText_of_other lively noRemark noNote, render, String.toList_ofList]

/-- Nothing is written but what has been read. -/
theorem render_ofText_subset (text : List Char) : (ofText text).render.toList ⊆ text := by
  rcases render_ofText text with same | ⟨rest, rfl, same⟩
  · exact same ▸ trimEnd_subset text
  · exact same ▸ List.cons_subset_cons _ (trim_subset rest)

/-- The written form of a body is neither indented nor ended, and it is read as the body. -/
structure IsWritten (body : LineBody) : Prop where
  flush : ∀ character ∈ body.render.toList.head?, isIndentation character = false
  unended : ∀ character ∈ body.render.toList.getLast?, isLineEnd character = false
  read : ofText body.render.toList = body

theorem isLineEnd_eq_false {character : Char} (lively : isBlank character = false) :
    isLineEnd character = false := by
  cases ends : isLineEnd character with
  | false => rfl
  | true => simp [isBlank_of_isLineEnd ends] at lively

/-- Whatever is read from a text that is not indented is in written form. -/
theorem ofText_isWritten {text : List Char}
    (flush : ∀ character ∈ text.head?, isIndentation character = false) :
    (ofText text).IsWritten := by
  rcases render_ofText text with same | ⟨rest, rfl, same⟩
  · constructor <;> rw [same]
    · exact fun character first => flush character (head?_of_head?_trimEnd first)
    · exact fun character last => isLineEnd_eq_false (drop_eq_false_of_getLast? last)
    · exact ofText_trimEnd text
  · constructor <;> rw [same]
    · exact flush
    · intro character last
      rw [List.getLast?_cons, Option.mem_some_iff] at last
      cases ended : (trim isBlank rest).getLast? with
      | none =>
          simp only [ended, Option.getD_none] at last
          subst character
          decide
      | some final =>
          simp only [ended, Option.getD_some] at last
          subst character
          exact isLineEnd_eq_false (drop_eq_false_of_getLast? ended)
    · rw [ofText_note, ofText_note, trim_trim]

end LineBody

/-! ## Lines and documents -/

namespace Line

theorem foldl_nextColumn_spaces (count start : Nat) :
    (List.replicate count ' ').foldl nextColumn start = start + count := by
  induction count generalizing start with
  | zero => rfl
  | succ count induction =>
      rw [List.replicate_succ, List.foldl_cons, induction, nextColumn, if_neg (by decide)]
      omega

theorem toList_render (line : Line) :
    line.render.toList = List.replicate line.indent ' ' ++ line.body.render.toList := by
  simp [render]

/-- A line in written form is read as it has been written, with any number. -/
theorem ofRaw_render {line : Line} (written : line.body.IsWritten) (number : Int) :
    ofRaw line.render number = { line with number } := by
  have whole : trimEnd isLineEnd line.render.toList = line.render.toList := by
    apply trimEnd_eq_self
    intro character last
    rw [toList_render, List.getLast?_append] at last
    cases ended : line.body.render.toList.getLast? with
    | none =>
        rw [ended, Option.none_or, List.getLast?_replicate] at last
        split at last
        · simp at last
        · rw [← Option.some.inj last]
          rfl
    | some final =>
        rw [ended, Option.some_or, Option.mem_some_iff] at last
        exact last ▸ written.unended final ended
  have spaces : ∀ character ∈ List.replicate line.indent ' ', isIndentation character = true := by
    intro character member
    rw [List.eq_of_mem_replicate member]
    rfl
  have text : line.body.render.toList.dropWhile isIndentation = line.body.render.toList := by
    cases content : line.body.render.toList with
    | nil => rfl
    | cons first rest =>
        have flush := written.flush first (by rw [content]; rfl)
        exact List.dropWhile_cons_of_neg (by simp [flush])
  have indent : line.body.render.toList.takeWhile isIndentation = [] := by
    have parts := List.takeWhile_append_dropWhile (p := isIndentation)
      (l := line.body.render.toList)
    rwa [text, List.append_left_eq_self] at parts
  simp only [ofRaw, whole]
  rw [toList_render, List.takeWhile_append_of_pos spaces, List.dropWhile_append_of_pos spaces,
    indent, text, List.append_nil, foldl_nextColumn_spaces, Nat.zero_add, written.read]

theorem ofRaw_isWritten (raw : String) (number : Int) : (ofRaw raw number).body.IsWritten := by
  apply LineBody.ofText_isWritten
  intro character first
  have flush := List.head?_dropWhile_not isIndentation (trimEnd isLineEnd raw.toList)
  rw [Option.mem_def.mp first] at flush
  exact flush

/-- No line feed is written that has not been read. -/
theorem feed_not_mem_render {raw : String} (free : '\n' ∉ raw.toList) (number : Int) :
    '\n' ∉ (ofRaw raw number).body.render.toList := by
  intro feed
  have inside := (List.dropWhile_sublist _).subset (LineBody.render_ofText_subset _ feed)
  exact free (trimEnd_subset _ inside)

theorem exists_ofRaw_of_mem_ofRaws {raws : List String} {line : Line}
    (member : line ∈ ofRaws raws) :
    ∃ raw ∈ raws, line = ofRaw raw line.number := by
  rcases List.mem_map.mp member with ⟨⟨raw, index⟩, known, rfl⟩
  exact ⟨raw, List.fst_mem_of_mem_zipIdx known, rfl⟩

/-- The lines of a document are in written form, and no line feed is left in them. -/
theorem isWritten_of_mem_ofSource {source : String} {line : Line}
    (member : line ∈ ofSource source) :
    line.body.IsWritten ∧ '\n' ∉ line.body.render.toList := by
  rcases exists_ofRaw_of_mem_ofRaws member with ⟨raw, known, same⟩
  rcases List.mem_map.mp known with ⟨text, part, rfl⟩
  rw [same]
  refine ⟨ofRaw_isWritten _ _, feed_not_mem_render ?_ _⟩
  rw [String.toList_ofList]
  intro feed
  exact absurd (ends_eq_false_of_mem_linesOf part feed) (by decide)

/-- The document that is written line by line, each line ended by a line feed. -/
def renderAll (lines : List Line) : String :=
  String.ofList (lines.flatMap fun line => line.render.toList ++ ['\n'])

/-- A document that is written line by line has these lines. -/
theorem ofSource_renderAll {lines : List Line}
    (written : ∀ line ∈ lines, line.body.IsWritten ∧ '\n' ∉ line.body.render.toList) :
    (ofSource (renderAll lines)).map unnumbered = lines.map unnumbered := by
  have free : ∀ text ∈ lines.map fun line => line.render.toList,
      ∀ character ∈ text, isLineFeed character = false := by
    intro text member character inside
    rcases List.mem_map.mp member with ⟨line, known, rfl⟩
    rw [toList_render, List.mem_append] at inside
    rcases inside with indentation | body
    · rw [List.eq_of_mem_replicate indentation]
      rfl
    · apply decide_eq_false
      rintro rfl
      exact (written line known).2 body
  have cut := linesOf_flatMap free (show isLineFeed '\n' = true from rfl)
  rw [List.flatMap_map] at cut
  rw [ofSource, renderAll, String.toList_ofList, cut, List.map_map, map_unnumbered_ofRaws,
    List.map_map]
  apply List.map_congr_left
  intro line member
  simp only [Function.comp_def, String.ofList_toList]
  rw [ofRaw_render (written line member).1]
  rfl

end Line

end Outline
