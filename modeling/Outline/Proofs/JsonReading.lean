import Outline.Proofs.JsonReader

/-!
# Reading what has been written in JSON

Every value is read back from its written form.  This is proved for all writers
that differ only in how they spell texts, since a terminal may show the texts of
a value in another spelling.
-/

namespace Outline.Report.JsonValue

/-! ## Other spellings of the texts of a value -/

/-- The beginning of a line at a level, in characters. -/
def gap (level : Nat) : List Char :=
  '\n' :: List.replicate (2 * level) ' '

mutual

/-- Writes a value with its texts in some spelling. -/
def writeAs (spell : String → List Char) (level : Nat) : JsonValue → List Char
  | null => ['n', 'u', 'l', 'l']
  | bool true => ['t', 'r', 'u', 'e']
  | bool false => ['f', 'a', 'l', 's', 'e']
  | number value => (toString value).toList
  | text value => '"' :: (spell value ++ ['"'])
  | array [] => ['[', ']']
  | array (item :: rest) =>
    '[' :: (gap (level + 1) ++ (writeAs spell (level + 1) item
      ++ (writeItemsAs spell (level + 1) rest ++ (gap level ++ [']']))))
  | object [] => ['\x7b', '\x7d']
  | object (field :: rest) =>
    '\x7b' :: (gap (level + 1) ++ (writeFieldAs spell (level + 1) field
      ++ (writeFieldsAs spell (level + 1) rest ++ (gap level ++ ['\x7d']))))

/-- Writes the values after the first one of an array. -/
def writeItemsAs (spell : String → List Char) (level : Nat) : List JsonValue → List Char
  | [] => []
  | item :: rest =>
    ',' :: (gap level ++ (writeAs spell level item ++ writeItemsAs spell level rest))

/-- Writes a value with its name, which is spelled as always. -/
def writeFieldAs (spell : String → List Char) (level : Nat) : String × JsonValue → List Char
  | (name, value) =>
    '"' :: (name.toList.flatMap escape ++ '"' :: ':' :: ' ' :: writeAs spell level value)

/-- Writes the values after the first one of an object. -/
def writeFieldsAs (spell : String → List Char) (level : Nat) :
    List (String × JsonValue) → List Char
  | [] => []
  | field :: rest =>
    ',' :: (gap level ++ (writeFieldAs spell level field ++ writeFieldsAs spell level rest))

end

/-- The texts in some spelling are read as what they are meant to be. -/
def Spells (spell : String → List Char) (meaning : String → String) : Prop :=
  ∀ text, TextReader.Reads (spell text) (meaning text).toList

/-- The spelling of texts in the written form. -/
def escaped (text : String) : List Char :=
  text.toList.flatMap escape

theorem toList_newLine (level : Nat) : (newLine level).toList = gap level := by
  simp [newLine, gap]

mutual

theorem toList_write (level : Nat) (value : JsonValue) :
    (write level value).toList = writeAs escaped level value := by
  match value with
  | null => simp [write, writeAs]
  | bool true => simp [write, writeAs]
  | bool false => simp [write, writeAs]
  | number value => rw [write, writeAs]
  | text value => simp [write, writeAs, writeText, escaped]
  | array [] => simp [write, writeAs]
  | array (item :: rest) =>
      simp [write, writeAs, toList_newLine, toList_write (level + 1) item,
        toList_writeItems (level + 1) rest]
  | object [] => simp [write, writeAs]
  | object (field :: rest) =>
      simp [write, writeAs, toList_newLine, toList_writeField (level + 1) field,
        toList_writeFields (level + 1) rest]

theorem toList_writeItems (level : Nat) (items : List JsonValue) :
    (writeItems level items).toList = writeItemsAs escaped level items := by
  match items with
  | [] => rfl
  | item :: rest =>
      simp [writeItems, writeItemsAs, toList_newLine, toList_write level item,
        toList_writeItems level rest]

theorem toList_writeField (level : Nat) (field : String × JsonValue) :
    (writeField level field).toList = writeFieldAs escaped level field := by
  match field with
  | (name, value) => simp [writeField, writeFieldAs, writeText, toList_write level value]

theorem toList_writeFields (level : Nat) (fields : List (String × JsonValue)) :
    (writeFields level fields).toList = writeFieldsAs escaped level fields := by
  match fields with
  | [] => rfl
  | field :: rest =>
      simp [writeFields, writeFieldsAs, toList_newLine, toList_writeField level field,
        toList_writeFields level rest]

end

mutual

/-- A value with its texts changed; the names of objects are kept. -/
def mapTexts (change : String → String) : JsonValue → JsonValue
  | null => null
  | bool value => bool value
  | number value => number value
  | text value => text (change value)
  | array items => array (mapTextsOfItems change items)
  | object fields => object (mapTextsOfFields change fields)

/-- Values with their texts changed. -/
def mapTextsOfItems (change : String → String) : List JsonValue → List JsonValue
  | [] => []
  | item :: rest => mapTexts change item :: mapTextsOfItems change rest

/-- Values by name, with their texts changed. -/
def mapTextsOfFields (change : String → String) :
    List (String × JsonValue) → List (String × JsonValue)
  | [] => []
  | (name, value) :: rest => (name, mapTexts change value) :: mapTextsOfFields change rest

end

mutual

/-- The texts of a value, without the names of objects. -/
def texts : JsonValue → List String
  | null => []
  | bool _ => []
  | number _ => []
  | text value => [value]
  | array items => textsOfItems items
  | object fields => textsOfFields fields

/-- The texts of some values. -/
def textsOfItems : List JsonValue → List String
  | [] => []
  | item :: rest => item.texts ++ textsOfItems rest

/-- The texts of some values by name. -/
def textsOfFields : List (String × JsonValue) → List String
  | [] => []
  | (_, value) :: rest => value.texts ++ textsOfFields rest

end

mutual

/-- A change of texts that keeps a value keeps every text of the value. -/
theorem mapTexts_eq_self_iff {change : String → String} (value : JsonValue) :
    value.mapTexts change = value ↔ ∀ text ∈ value.texts, change text = text := by
  match value with
  | null | bool _ | number _ => simp [mapTexts, texts]
  | text value => simp [mapTexts, texts]
  | array items => simp [mapTexts, texts, mapTextsOfItems_eq_self_iff items]
  | object fields => simp [mapTexts, texts, mapTextsOfFields_eq_self_iff fields]

theorem mapTextsOfItems_eq_self_iff {change : String → String} (items : List JsonValue) :
    mapTextsOfItems change items = items ↔ ∀ text ∈ textsOfItems items, change text = text := by
  match items with
  | [] => simp [mapTextsOfItems, textsOfItems]
  | item :: rest =>
      simp [mapTextsOfItems, textsOfItems, or_imp, forall_and, mapTexts_eq_self_iff item,
        mapTextsOfItems_eq_self_iff rest]

theorem mapTextsOfFields_eq_self_iff {change : String → String}
    (fields : List (String × JsonValue)) :
    mapTextsOfFields change fields = fields ↔
      ∀ text ∈ textsOfFields fields, change text = text := by
  match fields with
  | [] => simp [mapTextsOfFields, textsOfFields]
  | (name, value) :: rest =>
      simp [mapTextsOfFields, textsOfFields, or_imp, forall_and, mapTexts_eq_self_iff value,
        mapTextsOfFields_eq_self_iff rest]

end

/-! ## Numbers -/

/-- Only zero is written with a zero in front. -/
theorem eq_zero_of_head?_toDigits {value : Nat} (zero : (Nat.toDigits 10 value).head? = some '0') :
    value = 0 := by
  induction value using Nat.strongRecOn with
  | ind value induction =>
      by_cases small : value < 10
      · have single : ∀ digit < 10, Nat.digitChar digit = '0' → digit = 0 := by
          decide
        rw [Nat.toDigits_of_lt_base small, List.head?_cons] at zero
        exact single value small (Option.some.inj zero)
      · have front : (Nat.toDigits 10 value).head? = (Nat.toDigits 10 (value / 10)).head? := by
          rw [Nat.toDigits_of_base_le (by decide) (by omega), List.head?_append,
            List.head?_eq_some_head Nat.toDigits_ne_nil, Option.some_or]
        have smaller := induction (value / 10) (by omega) (front ▸ zero)
        omega

theorem naturalOf?_toDigits (value : Nat) : naturalOf? (Nat.toDigits 10 value) = some value := by
  have plain : ¬ ((Nat.toDigits 10 value).isEmpty ||
      ((Nat.toDigits 10 value).head? = some '0' &&
        (Nat.toDigits 10 value).length ≠ 1)) = true := by
    simp only [Bool.or_eq_true, List.isEmpty_iff, Nat.toDigits_ne_nil, false_or,
      Bool.and_eq_true, decide_eq_true_eq, not_and, not_not]
    intro zero
    rw [eq_zero_of_head?_toDigits zero]
    rfl
  rw [naturalOf?, if_neg plain, Nat.ofDigitChars_toDigits (by decide) (by decide)]

theorem isDigit_of_mem_toDigits {value : Nat} {digit : Char}
    (member : digit ∈ Nat.toDigits 10 value) :
    digit.isDigit = true :=
  Nat.isDigit_of_mem_toDigits (by decide) (by decide) member

theorem numberOf?_toString (value : Int) : numberOf? (toString value).toList = some value := by
  rw [Int.toString_eq_repr, Int.repr_eq_if]
  split_ifs with positive
  · have other (digits : List Char) : Nat.toDigits 10 value.toNat ≠ '-' :: digits := by
      intro written
      have minus : '-' ∈ Nat.toDigits 10 value.toNat := written ▸ List.mem_cons_self
      exact absurd (isDigit_of_mem_toDigits minus) (by decide)
    rw [Nat.toList_repr, numberOf?.eq_2 _ other, naturalOf?_toDigits, Option.map_some]
    exact congrArg some (Int.toNat_of_nonneg positive)
  · have written : ("-" ++ (-value).toNat.repr).toList =
        '-' :: Nat.toDigits 10 (-value).toNat := by
      simp
    have back : -((-value).toNat : Int) = value := by
      omega
    rw [written, numberOf?, naturalOf?_toDigits, Option.map_some, Int.negOfNat_eq]
    exact congrArg some back

/-- A whole number is written in digits, perhaps after a minus. -/
theorem exists_toList_toString (value : Int) :
    ∃ first digits, (toString value).toList = first :: digits ∧
      (first = '-' || first.isDigit) = true ∧ ∀ digit ∈ digits, digit.isDigit = true := by
  rw [Int.toString_eq_repr, Int.repr_eq_if]
  split_ifs with positive
  · rw [Nat.toList_repr]
    rcases List.exists_cons_of_ne_nil (Nat.toDigits_ne_nil (b := 10)) with
      ⟨first, digits, written⟩
    rw [written]
    exact ⟨first, digits, rfl,
      by rw [isDigit_of_mem_toDigits (written ▸ List.mem_cons_self), Bool.or_true],
      fun digit member => isDigit_of_mem_toDigits (written ▸ List.mem_cons_of_mem _ member)⟩
  · exact ⟨'-', Nat.toDigits 10 (-value).toNat, by simp, rfl,
      fun digit member => isDigit_of_mem_toDigits member⟩

theorem of_mem_toString {value : Int} {character : Char}
    (member : character ∈ (toString value).toList) :
    (character = '-' || character.isDigit) = true := by
  rcases exists_toList_toString value with ⟨first, digits, written, opens, all⟩
  rw [written] at member
  rcases List.mem_cons.mp member with rfl | digit
  · exact opens
  · rw [all character digit, Bool.or_true]

/-! ## Reading what has been written -/

/-- What comes next begins with a character that cannot go on a number. -/
def EndsNumber (rest : List Char) : Prop :=
  ∃ character further, rest = character :: further ∧ character.isDigit = false

theorem endsNumber_cons {character : Char} (other : character.isDigit = false)
    (further : List Char) :
    EndsNumber (character :: further) :=
  ⟨character, further, rfl, other⟩

namespace Reader

variable {frames outer : List Frame} {mode : Mode}

theorem step_text (isName : Bool) (inner : TextReader) (character : Char) :
    (⟨frames, .text isName inner⟩ : Reader).step character =
      stepText frames isName inner character :=
  rfl

theorem step_number (read : List Char) (character : Char) :
    (⟨frames, .number read⟩ : Reader).step character = stepNumber frames read character :=
  rfl

@[simp]
theorem run_nil (reader : Reader) : reader.run [] = some reader :=
  rfl

theorem run_cons (reader : Reader) (character : Char) (rest : List Char) :
    reader.run (character :: rest) = (reader.step character).bind fun next => next.run rest :=
  rfl

theorem run_cons_of_step {reader next : Reader} {character : Char}
    (stepped : reader.step character = some next) (rest : List Char) :
    reader.run (character :: rest) = next.run rest := by
  rw [run_cons, stepped, Option.bind_some]

/-- Blanks are passed over, unless they are part of something. -/
theorem run_blanks (reader : Reader)
    (between : ∀ character, reader.step character = reader.stepBetween character)
    {blanks : List Char} (passed : ∀ blank ∈ blanks, isGap blank = true) (rest : List Char) :
    reader.run (blanks ++ rest) = reader.run rest := by
  induction blanks with
  | nil => rfl
  | cons blank blanks induction =>
      have stepped : reader.step blank = some reader := by
        rw [between, stepBetween, if_pos (passed blank List.mem_cons_self)]
      rw [List.cons_append, run_cons_of_step stepped,
        induction fun other member => passed other (List.mem_cons_of_mem _ member)]

theorem run_gap {reader : Reader}
    (between : ∀ character, reader.step character = reader.stepBetween character) (level : Nat)
    (rest : List Char) :
    reader.run (gap level ++ rest) = reader.run rest := by
  refine run_blanks reader between (fun blank member => ?_) rest
  rw [gap, List.mem_cons, List.mem_replicate] at member
  rcases member with rfl | ⟨-, rfl⟩ <;> rfl

/-! ### Texts -/

/-- The characters of a text are read inside the quotes. -/
theorem run_text {isName : Bool} {inner next : TextReader} {written : List Char}
    (taken : written.foldlM TextReader.step inner = some next) (rest : List Char) :
    (⟨frames, .text isName inner⟩ : Reader).run (written ++ rest) =
      (⟨frames, .text isName next⟩ : Reader).run rest := by
  induction written generalizing inner with
  | nil =>
      cases taken
      rfl
  | cons character written induction =>
      rw [List.foldlM_cons, Option.bind_eq_bind, Option.bind_eq_some_iff] at taken
      rcases taken with ⟨middle, first, others⟩
      have inside : ¬ (character = '"' && inner.mode = .plain) = true := by
        rintro closing
        simp only [Bool.and_eq_true, decide_eq_true_eq] at closing
        simp [TextReader.step, closing.1, closing.2] at first
      have stepped : (⟨frames, .text isName inner⟩ : Reader).step character =
          some ⟨frames, .text isName middle⟩ := by
        rw [step_text, stepText, if_neg inside, first, Option.map_some]
      rw [List.cons_append, run_cons_of_step stepped, induction others]

theorem finish?_read (text : String) :
    TextReader.finish? { read := text.toList.reverse } = some text := by
  simp [TextReader.finish?]

theorem run_text_value {written : List Char} {text : String}
    (reads : TextReader.Reads written text.toList) (rest : List Char) :
    (⟨frames, .text false {}⟩ : Reader).run (written ++ '"' :: rest) =
      (deliver (.text text) frames).bind fun next => next.run rest := by
  rw [run_text (reads []), List.append_nil, run_cons, step_text, stepText]
  simp [finish?_read]

theorem run_text_name {written : List Char} {text : String}
    (reads : TextReader.Reads written text.toList) (rest : List Char) :
    (⟨frames, .text true {}⟩ : Reader).run (written ++ '"' :: rest) =
      (⟨frames, .colon text⟩ : Reader).run rest := by
  rw [run_text (reads []), List.append_nil, run_cons, step_text, stepText]
  simp [finish?_read]

/-! ### Numbers -/

theorem run_digits {digits : List Char} (all : ∀ digit ∈ digits, digit.isDigit = true)
    (read rest : List Char) :
    (⟨frames, .number read⟩ : Reader).run (digits ++ rest) =
      (⟨frames, .number (digits.reverse ++ read)⟩ : Reader).run rest := by
  induction digits generalizing read with
  | nil => rfl
  | cons digit digits induction =>
      have stepped : (⟨frames, .number read⟩ : Reader).step digit =
          some ⟨frames, .number (digit :: read)⟩ := by
        rw [step_number, stepNumber, if_pos (all digit List.mem_cons_self)]
      rw [List.cons_append, run_cons_of_step stepped,
        induction fun other member => all other (List.mem_cons_of_mem _ member)]
      simp

/-- After a value has been put in its place nothing is left to be finished. -/
theorem step_of_deliver {value : JsonValue} {next : Reader}
    (delivered : deliver value frames = some next) (character : Char) :
    next.step character = next.stepBetween character := by
  match frames with
  | [] | .items _ :: _ | .field _ _ :: _ =>
      cases delivered
      rfl
  | .fields _ :: _ => cases delivered

/-- The first character of a value is read alike wherever one may begin. -/
theorem step_of_awaits (awaits : mode = .value ∨ mode = .firstItem) {character : Char}
    (firm : isGap character = false) (other : character ≠ ']') :
    (⟨frames, mode⟩ : Reader).step character = start frames character := by
  rcases awaits with rfl | rfl <;> simp [step, stepBetween, firm, other]

theorem run_number (awaits : mode = .value ∨ mode = .firstItem) (value : Int) {rest : List Char}
    (ends : EndsNumber rest) :
    (⟨frames, mode⟩ : Reader).run ((toString value).toList ++ rest) =
      (deliver (number value) frames).bind fun next => next.run rest := by
  have back := numberOf?_toString value
  rcases exists_toList_toString value with ⟨first, digits, written, opens, all⟩
  rcases ends with ⟨character, further, rfl, other⟩
  have apart (other : Char) (closed : (other = '-' || other.isDigit) = false) : first ≠ other := by
    rintro rfl
    exact absurd (opens.symm.trans closed) (by decide)
  have firm : isGap first = false := by
    simp [isGap, apart ' ' rfl, apart '\n' rfl, apart '\r' rfl, apart '\t' rfl]
  have started : (⟨frames, mode⟩ : Reader).step first = some ⟨frames, .number [first]⟩ := by
    rw [step_of_awaits awaits firm (apart _ rfl), start, if_neg (apart _ rfl),
      if_neg (apart _ rfl), if_neg (apart _ rfl), if_pos opens]
  have finished : (digits.reverse ++ [first]).reverse = first :: digits := by
    simp
  rw [written] at back ⊢
  rw [List.cons_append, run_cons_of_step started, run_digits all, run_cons, step_number, stepNumber,
    other, if_neg Bool.false_ne_true, finished, back, Option.bind_some, Option.bind_assoc]
  refine Option.bind_congr fun next delivered => ?_
  rw [run_cons, step_of_deliver delivered]

theorem run_word {missing : List Char} (nonempty : missing ≠ []) (value : JsonValue)
    (rest : List Char) :
    (⟨frames, .word missing value⟩ : Reader).run (missing ++ rest) =
      (deliver value frames).bind fun next => next.run rest := by
  induction missing with
  | nil => exact absurd rfl nonempty
  | cons character missing induction =>
      cases missing with
      | nil => simp [run_cons, step, stepWord]
      | cons second missing =>
          have stepped : (⟨frames, .word (character :: second :: missing) value⟩ : Reader).step
              character = some ⟨frames, .word (second :: missing) value⟩ := by
            simp [step, stepWord]
          rw [List.cons_append, run_cons_of_step stepped, induction (by simp)]

section Writing

variable {spell : String → List Char} {meaning : String → String}

theorem endsNumber_gap (level : Nat) (rest : List Char) : EndsNumber (gap level ++ rest) :=
  endsNumber_cons rfl _

theorem endsNumber_writeItemsAs (level : Nat) (items : List JsonValue) {rest : List Char}
    (ends : EndsNumber rest) :
    EndsNumber (writeItemsAs spell level items ++ rest) := by
  cases items with
  | nil => exact ends
  | cons item items => exact endsNumber_cons rfl _

theorem endsNumber_writeFieldsAs (level : Nat) (fields : List (String × JsonValue))
    {rest : List Char} (ends : EndsNumber rest) :
    EndsNumber (writeFieldsAs spell level fields ++ rest) := by
  cases fields with
  | nil => exact ends
  | cons field fields => exact endsNumber_cons rfl _

mutual

/-- A value is read where one is awaited, with the texts that its spellings stand for. -/
theorem run_writeAs (spelled : Spells spell meaning) (value : JsonValue) {mode : Mode}
    (awaits : mode = .value ∨ mode = .firstItem) (frames : List Frame) (level : Nat)
    {rest : List Char} (ends : EndsNumber rest) :
    (⟨frames, mode⟩ : Reader).run (writeAs spell level value ++ rest) =
      (deliver (value.mapTexts meaning) frames).bind fun next => next.run rest := by
  match value with
  | null =>
      rw [writeAs, mapTexts, List.cons_append, run_cons, step_of_awaits awaits rfl (by decide)]
      exact run_word (by simp) null rest
  | bool true =>
      rw [writeAs, mapTexts, List.cons_append, run_cons, step_of_awaits awaits rfl (by decide)]
      exact run_word (by simp) (bool true) rest
  | bool false =>
      rw [writeAs, mapTexts, List.cons_append, run_cons, step_of_awaits awaits rfl (by decide)]
      exact run_word (by simp) (bool false) rest
  | number value =>
      rw [writeAs, mapTexts]
      exact run_number awaits value ends
  | text value =>
      rw [writeAs, mapTexts, List.cons_append, List.append_assoc, run_cons,
        step_of_awaits awaits rfl (by decide)]
      exact run_text_value (spelled value) rest
  | array [] =>
      rw [writeAs, mapTexts, mapTextsOfItems, List.cons_append, run_cons,
        step_of_awaits awaits rfl (by decide)]
      rfl
  | array (item :: items) =>
      have opened : (⟨frames, mode⟩ : Reader).step '[' =
          some ⟨.items [] :: frames, .firstItem⟩ :=
        step_of_awaits awaits rfl (by decide)
      simp only [writeAs, mapTexts, mapTextsOfItems, List.append_assoc, List.cons_append,
        List.nil_append]
      rw [run_cons_of_step opened, run_gap fun _ => rfl,
        run_writeAs spelled item (.inr rfl) _ (level + 1)
          (endsNumber_writeItemsAs _ items (endsNumber_gap level _)),
        deliver, Option.bind_some, run_writeItemsAs spelled items _ _ _ (endsNumber_gap level _),
        run_gap fun _ => rfl, run_cons]
      simp [step, stepBetween, isGap]
  | object [] =>
      rw [writeAs, mapTexts, mapTextsOfFields, List.cons_append, run_cons,
        step_of_awaits awaits rfl (by decide)]
      rfl
  | object ((name, value) :: fields) =>
      have opened : (⟨frames, mode⟩ : Reader).step '\x7b' =
          some ⟨.fields [] :: frames, .firstName⟩ :=
        step_of_awaits awaits rfl (by decide)
      simp only [writeAs, mapTexts, mapTextsOfFields, List.append_assoc, List.cons_append,
        List.nil_append]
      rw [run_cons_of_step opened, run_gap fun _ => rfl,
        run_writeFieldAs spelled name value (.inr rfl) [] _ (level + 1)
          (endsNumber_writeFieldsAs _ fields (endsNumber_gap level _)),
        run_writeFieldsAs spelled fields _ _ _ (endsNumber_gap level _),
        run_gap fun _ => rfl, run_cons]
      simp [step, stepBetween, isGap]

/-- The items after the first one are read after it. -/
theorem run_writeItemsAs (spelled : Spells spell meaning) (items read : List JsonValue)
    (outer : List Frame) (level : Nat) {rest : List Char} (ends : EndsNumber rest) :
    (⟨.items read :: outer, .mark⟩ : Reader).run (writeItemsAs spell level items ++ rest) =
      (⟨.items ((mapTextsOfItems meaning items).reverse ++ read) :: outer, .mark⟩ : Reader).run
        rest := by
  match items with
  | [] => rfl
  | item :: items =>
      have comma : (⟨.items read :: outer, .mark⟩ : Reader).step ',' =
          some ⟨.items read :: outer, .value⟩ :=
        rfl
      simp only [writeItemsAs, mapTextsOfItems, List.append_assoc, List.cons_append,
        List.reverse_cons, List.nil_append]
      rw [run_cons_of_step comma, run_gap fun _ => rfl,
        run_writeAs spelled item (.inl rfl) _ level (endsNumber_writeItemsAs level items ends),
        deliver, Option.bind_some, run_writeItemsAs spelled items _ _ level ends]

/-- A value with its name is read where a name is awaited. -/
theorem run_writeFieldAs (spelled : Spells spell meaning) (name : String) (value : JsonValue)
    {mode : Mode} (awaits : mode = .name ∨ mode = .firstName)
    (read : List (String × JsonValue)) (outer : List Frame) (level : Nat) {rest : List Char}
    (ends : EndsNumber rest) :
    (⟨.fields read :: outer, mode⟩ : Reader).run
        (writeFieldAs spell level (name, value) ++ rest) =
      (⟨.fields ((name, value.mapTexts meaning) :: read) :: outer, .mark⟩ : Reader).run rest := by
  have opened : (⟨.fields read :: outer, mode⟩ : Reader).step '"' =
      some ⟨.fields read :: outer, .text true {}⟩ := by
    rcases awaits with rfl | rfl <;> rfl
  have colon : (⟨.fields read :: outer, .colon name⟩ : Reader).step ':' =
      some ⟨.field read name :: outer, .value⟩ :=
    rfl
  have blank : (⟨.field read name :: outer, .value⟩ : Reader).step ' ' =
      some ⟨.field read name :: outer, .value⟩ :=
    rfl
  simp only [writeFieldAs, List.append_assoc, List.cons_append]
  rw [run_cons_of_step opened, run_text_name (TextReader.reads_flatMap_escape name.toList),
    run_cons_of_step colon, run_cons_of_step blank,
    run_writeAs spelled value (.inl rfl) _ level ends, deliver, Option.bind_some]

/-- The values after the first one are read after it. -/
theorem run_writeFieldsAs (spelled : Spells spell meaning)
    (fields read : List (String × JsonValue)) (outer : List Frame) (level : Nat)
    {rest : List Char} (ends : EndsNumber rest) :
    (⟨.fields read :: outer, .mark⟩ : Reader).run (writeFieldsAs spell level fields ++ rest) =
      (⟨.fields ((mapTextsOfFields meaning fields).reverse ++ read) :: outer, .mark⟩ : Reader).run
        rest := by
  match fields with
  | [] => rfl
  | (name, value) :: fields =>
      have comma : (⟨.fields read :: outer, .mark⟩ : Reader).step ',' =
          some ⟨.fields read :: outer, .name⟩ :=
        rfl
      simp only [writeFieldsAs, mapTextsOfFields, List.append_assoc, List.cons_append,
        List.reverse_cons, List.nil_append]
      rw [run_cons_of_step comma, run_gap fun _ => rfl,
        run_writeFieldAs spelled name value (.inl rfl) read _ level
          (endsNumber_writeFieldsAs level fields ends),
        run_writeFieldsAs spelled fields _ _ level ends]

end

end Writing

end Reader

theorem isDigit_of_isGap {character : Char} (passed : isGap character = true) :
    character.isDigit = false := by
  simp only [isGap, List.contains_iff_mem, List.mem_cons, List.not_mem_nil, or_false] at passed
  rcases passed with rfl | rfl | rfl | rfl <;> rfl

/-- A value is read with the texts that its spellings stand for, and with blanks behind it. -/
theorem read?_writeAs {spell : String → List Char} {meaning : String → String}
    (spelled : Spells spell meaning) (value : JsonValue) (blanks : List Char)
    (passed : ∀ blank ∈ blanks, isGap blank = true) :
    read? (String.ofList (writeAs spell 0 value ++ blanks)) = some (value.mapTexts meaning) := by
  have behind : ∀ blank ∈ blanks ++ ['\n'], isGap blank = true := by
    simpa [or_imp, forall_and] using ⟨passed, rfl⟩
  have ends : EndsNumber (blanks ++ ['\n']) := by
    cases blanks with
    | nil => exact endsNumber_cons rfl []
    | cons blank blanks =>
        exact endsNumber_cons (isDigit_of_isGap (passed blank List.mem_cons_self)) _
  have finished := Reader.run_blanks ⟨[], .done (value.mapTexts meaning)⟩ (fun _ => rfl) behind []
  rw [List.append_nil, Reader.run_nil] at finished
  rw [read?, String.toList_ofList, List.append_assoc,
    Reader.run_writeAs spelled value (.inl rfl) [] 0 ends, Reader.deliver, Option.bind_some,
    finished]

/-- Every value is read back from its written form. -/
theorem read?_render (value : JsonValue) : read? value.render = some value := by
  have spelled : Spells escaped id := fun text => TextReader.reads_flatMap_escape text.toList
  have back := read?_writeAs spelled value [] (by simp)
  have same : value.mapTexts id = value := (mapTexts_eq_self_iff value).mpr fun _ _ => rfl
  rwa [List.append_nil, ← toList_write, String.ofList_toList, same] at back

end Outline.Report.JsonValue
