import Outline.Proofs.Encoding
import Outline.Proofs.Rendering
import Outline.Session

/-!
# The line ends of files and of texts

A text is cut into lines at its line feeds, and a carriage return before a line
feed is no part of the line.  A file is read as a text whose line ends have been
unified before, and there a carriage return ends a line also on its own.  So a
file and a text with the same characters have the same lines if and only if no
carriage return stands alone inside the text.
-/

namespace Outline

namespace Text

/-! ## Unified line ends -/

/-- What becomes of a character, which depends on the character before it. -/
def unifiedAfter (before : Option Char) (character : Char) : Option Char :=
  if character = '\r' then
    some '\n'
  else if character = '\n' && before = some '\r' then
    none
  else
    some character

/-- The unified form of what follows a character. -/
def unifyAfter (before : Option Char) (text : List Char) : List Char :=
  (List.zip (before :: text.map some) text).filterMap fun pair => unifiedAfter pair.1 pair.2

theorem unifyAfter_cons (before : Option Char) (character : Char) (rest : List Char) :
    unifyAfter before (character :: rest) =
      (unifiedAfter before character).toList ++ unifyAfter (some character) rest := by
  rw [unifyAfter, List.map_cons, List.zip_cons_cons, List.filterMap_cons]
  cases unifiedAfter (before, character).1 (before, character).2 <;> rfl

/--
The unified form by recursion.  A carriage return and the line feed after it are
one line end; other line ends consist of one character.
-/
def unifyPairs : List Char → List Char
  | [] => []
  | '\r' :: '\n' :: rest => '\n' :: unifyPairs rest
  | '\r' :: rest => '\n' :: unifyPairs rest
  | character :: rest => character :: unifyPairs rest

theorem unifyAfter_eq_unifyPairs (before : Option Char) (text : List Char)
    (apart : before = some '\r' → text.head? ≠ some '\n') :
    unifyAfter before text = unifyPairs text := by
  fun_induction unifyPairs text generalizing before with
  | case1 => rfl
  | case2 rest induction =>
      rw [unifyAfter_cons, unifyAfter_cons, induction (some '\n') (by simp)]
      rfl
  | case3 rest alone induction =>
      have other : rest.head? ≠ some '\n' := by
        intro feed
        rcases List.head?_eq_some_iff.mp feed with ⟨further, rfl⟩
        exact alone further rfl
      rw [unifyAfter_cons, induction (some '\r') (fun _ => other)]
      rfl
  | case4 character rest noPair noReturn induction =>
      have other : character ≠ '\r' := fun same => noReturn same
      have kept : unifiedAfter before character = some character := by
        rw [unifiedAfter, if_neg other, if_neg]
        simp only [Bool.and_eq_true, decide_eq_true_eq]
        rintro ⟨rfl, back⟩
        exact apart back rfl
      rw [unifyAfter_cons, induction (some character) (by simp [other]), kept]
      rfl

theorem unifyLineEnds_eq_unifyPairs (text : List Char) : unifyLineEnds text = unifyPairs text :=
  unifyAfter_eq_unifyPairs none text (by simp)

theorem unifyPairs_of_return_not_mem {text : List Char} (free : '\r' ∉ text) :
    unifyPairs text = text := by
  fun_induction unifyPairs text with
  | case1 => rfl
  | case2 => simp at free
  | case3 => simp at free
  | case4 character rest _ _ induction =>
      rw [induction fun member => free (List.mem_cons_of_mem _ member)]

/-- Every carriage return has a line feed after it or stands at the end. -/
def ReturnsPaired (text : List Char) : Prop :=
  text.IsChain fun first second => first = '\r' → second = '\n'

instance (text : List Char) : Decidable (ReturnsPaired text) :=
  inferInstanceAs (Decidable (List.IsChain _ _))

theorem returnsPaired_cons_iff {character : Char} (other : character ≠ '\r') {rest : List Char} :
    ReturnsPaired (character :: rest) ↔ ReturnsPaired rest := by
  cases rest <;> simp [ReturnsPaired, other]

theorem returnsPaired_pair_iff {rest : List Char} :
    ReturnsPaired ('\r' :: '\n' :: rest) ↔ ReturnsPaired rest := by
  have feed : ReturnsPaired ('\n' :: rest) ↔ ReturnsPaired rest :=
    returnsPaired_cons_iff (by decide)
  rw [← feed]
  simp only [ReturnsPaired, List.isChain_cons_cons, implies_true, true_and]

/-- A carriage return without a line feed after it has nothing after it. -/
theorem returnsPaired_return_iff {rest : List Char} (alone : ∀ further, rest ≠ '\n' :: further) :
    ReturnsPaired ('\r' :: rest) ↔ rest = [] := by
  cases rest with
  | nil => simp [ReturnsPaired]
  | cons next further =>
      have other : next ≠ '\n' := fun same => alone further (by rw [same])
      simp [ReturnsPaired, other]

/-! ## Lines without their ends -/

/-- The lines of a text without the characters that end them. -/
def bareLines (text : List Char) : List (List Char) :=
  (linesOf isLineFeed text).map (trimEnd isLineEnd)

theorem linesOf_feed (rest : List Char) :
    linesOf isLineFeed ('\n' :: rest) = [] :: linesOf isLineFeed rest := by
  simp [linesOf, consLines, isLineFeed]

/-- Any other character is put before the first line. -/
theorem linesOf_other {character : Char} (other : character ≠ '\n') (rest : List Char) :
    linesOf isLineFeed (character :: rest) =
      (character :: (linesOf isLineFeed rest).headD []) :: (linesOf isLineFeed rest).tail := by
  have inside : isLineFeed character = false := decide_eq_false other
  show consLines isLineFeed character (linesOf isLineFeed rest) = _
  cases linesOf isLineFeed rest <;> simp [consLines, inside]

theorem length_linesOf_other {character : Char} (other : character ≠ '\n') (rest : List Char) :
    (linesOf isLineFeed (character :: rest)).length =
      max 1 (linesOf isLineFeed rest).length := by
  rw [linesOf_other other]
  cases linesOf isLineFeed rest <;> simp

theorem bareLines_feed (rest : List Char) : bareLines ('\n' :: rest) = [] :: bareLines rest := by
  rw [bareLines, linesOf_feed]
  rfl

theorem bareLines_pair (rest : List Char) :
    bareLines ('\r' :: '\n' :: rest) = [] :: bareLines rest := by
  rw [bareLines, linesOf_other (by decide), linesOf_feed]
  rfl

theorem bareLines_inside {character : Char} (inside : isLineEnd character = false)
    (rest : List Char) :
    bareLines (character :: rest) =
      (character :: (bareLines rest).headD []) :: (bareLines rest).tail := by
  have other : character ≠ '\n' := by
    rintro rfl
    simp [isLineEnd] at inside
  rw [bareLines, bareLines, linesOf_other other]
  cases linesOf isLineFeed rest with
  | nil => simp [trimEnd, inside]
  | cons line further => simp [trimEnd_cons_of_not _ _ inside]

theorem length_linesOf_pos {text : List Char} (nonempty : text ≠ []) :
    0 < (linesOf isLineFeed text).length := by
  cases text with
  | nil => exact absurd rfl nonempty
  | cons character rest =>
      by_cases feed : character = '\n'
      · rw [feed, linesOf_feed, List.length_cons]
        omega
      · rw [length_linesOf_other feed]
        omega

/-- Unifying line ends changes no line where carriage returns are paired. -/
theorem bareLines_unifyPairs {text : List Char} (paired : ReturnsPaired text) :
    bareLines (unifyPairs text) = bareLines text := by
  fun_induction unifyPairs text with
  | case1 => rfl
  | case2 rest induction =>
      rw [bareLines_feed, bareLines_pair, induction (returnsPaired_pair_iff.mp paired)]
  | case3 rest alone induction =>
      rw [(returnsPaired_return_iff fun further same => alone further same).mp paired]
      rfl
  | case4 character rest noPair noReturn induction =>
      have other : character ≠ '\r' := fun same => noReturn same
      have same := induction ((returnsPaired_cons_iff other).mp paired)
      by_cases feed : character = '\n'
      · rw [feed, bareLines_feed, bareLines_feed, same]
      · have inside : isLineEnd character = false := by
          simp [isLineEnd, feed, other]
        rw [bareLines_inside inside, bareLines_inside inside, same]

/-- A carriage return that stands alone makes one line more. -/
theorem length_linesOf_lt {text : List Char} (unpaired : ¬ ReturnsPaired text) :
    0 < (linesOf isLineFeed text).length ∧
      (linesOf isLineFeed text).length < (linesOf isLineFeed (unifyPairs text)).length := by
  fun_induction unifyPairs text with
  | case1 => exact absurd List.IsChain.nil unpaired
  | case2 rest induction =>
      rw [returnsPaired_pair_iff] at unpaired
      rw [length_linesOf_other (by decide), linesOf_feed, linesOf_feed]
      simp only [List.length_cons]
      have more := induction unpaired
      omega
  | case3 rest alone induction =>
      rw [returnsPaired_return_iff fun further same => alone further same] at unpaired
      rw [length_linesOf_other (by decide), linesOf_feed, List.length_cons]
      have some := length_linesOf_pos unpaired
      by_cases paired : ReturnsPaired rest
      · have same := congrArg List.length (bareLines_unifyPairs paired)
        simp only [bareLines, List.length_map] at same
        omega
      · have more := induction paired
        omega
  | case4 character rest noPair noReturn induction =>
      have other : character ≠ '\r' := fun same => noReturn same
      rw [returnsPaired_cons_iff other] at unpaired
      have more := induction unpaired
      by_cases feed : character = '\n'
      · rw [feed, linesOf_feed, linesOf_feed]
        simp only [List.length_cons]
        omega
      · rw [length_linesOf_other feed, length_linesOf_other feed]
        omega

/-- A text with its line ends unified. -/
def unified (text : String) : String :=
  String.ofList (unifyLineEnds text.toList)

end Text

open Outline.Text

namespace Line

theorem ofRaws_map {change : String → String}
    (same : ∀ raw number, ofRaw (change raw) number = ofRaw raw number) (raws : List String) :
    ofRaws (raws.map change) = ofRaws raws := by
  rw [ofRaws, ofRaws, List.zipIdx_map, List.map_map]
  exact List.map_congr_left fun raw _ => same raw.1 raw.2

/-- How the lines of a document end does not matter. -/
theorem ofSource_eq_ofRaws_bareLines (source : String) :
    ofSource source = ofRaws ((bareLines source.toList).map String.ofList) := by
  have bare : ((linesOf isLineFeed source.toList).map String.ofList).map (fun raw =>
      String.ofList (trimEnd isLineEnd raw.toList)) =
        (bareLines source.toList).map String.ofList := by
    simp [bareLines, Function.comp_def]
  rw [ofSource, ← bare, ofRaws_map]
  intro raw number
  simp [ofRaw]

theorem length_ofSource (source : String) :
    (ofSource source).length = (linesOf isLineFeed source.toList).length := by
  simp [ofSource, ofRaws]

/-- Unifying line ends keeps the lines of a text if and only if carriage returns are paired. -/
theorem ofSource_unified_iff (text : String) :
    ofSource (unified text) = ofSource text ↔ ReturnsPaired text.toList := by
  constructor
  · intro same
    by_contra unpaired
    have more := (length_linesOf_lt unpaired).2
    have lengths := congrArg List.length same
    rw [length_ofSource, length_ofSource, unified, String.toList_ofList,
      unifyLineEnds_eq_unifyPairs] at lengths
    omega
  · intro paired
    rw [ofSource_eq_ofRaws_bareLines, ofSource_eq_ofRaws_bareLines, unified, String.toList_ofList,
      unifyLineEnds_eq_unifyPairs, bareLines_unifyPairs paired]

end Line

/-! ## One reader for all requests -/

theorem Reading.clear_eq_initial (reading : Reading) : reading.clear = .initial :=
  rfl

namespace Outcome

/-- The outcome of a request alone. -/
def ofRequest (files : FileSystem) : Request → Outcome
  | .source text => ofSource text
  | .file path => ofFile files path

/-- What has been read before a file changes nothing. -/
theorem ofReading_readFile (reading : Reading) (files : FileSystem) (path : Path) :
    ofReading (reading.readFile files path) = ofFile files path := by
  simp only [Reading.readFile, Reading.readSource, Reading.clear_eq_initial]
  rw [ofFile]
  cases files.readText path <;> rfl

theorem ofReading_answer (reading : Reading) (files : FileSystem) (request : Request) :
    ofReading (reading.answer files request) = ofRequest files request := by
  cases request with
  | source text => rfl
  | file path => exact ofReading_readFile reading files path

/-- Every request is answered as it is answered alone. -/
theorem answers_eq_map (files : FileSystem) (reading : Reading) (requests : List Request) :
    answers files reading requests = requests.map (ofRequest files) := by
  induction requests generalizing reading with
  | nil => rfl
  | cons request rest induction =>
      rw [answers, List.map_cons, induction, ofReading_answer]

/-! ## Files and texts -/

/--
Whether a file with a text in it is read as the text itself, wherever the file
is and whatever has been read before.
-/
def ReadsAsText (text : String) : Prop :=
  ∀ (files : FileSystem) path earlier, files.at? path = .ok (.file text.toUTF8.toList) →
    (session files (earlier ++ [.file path])).getLast? = some (ofSource text)

/-- A file is read as its text with unified line ends. -/
theorem session_file {files : FileSystem} {path : Path} {text : String}
    (encoded : files.at? path = .ok (.file text.toUTF8.toList)) (earlier : List Request) :
    (session files (earlier ++ [.file path])).getLast? = some (ofSource (unified text)) := by
  have read : ofFile files path = ofSource (unified text) := by
    rw [ofFile, FileSystem.readText_of_encoded encoded]
    rfl
  rw [session, answers_eq_map, List.map_append, ← List.cons_append, List.map_singleton,
    List.getLast?_concat, ofRequest, read]

/--
A file is read as its text with unified line ends.  So it is read as the text
itself if every carriage return has a line feed after it or stands at the end;
and in all other texts the two have different lines.
-/
theorem file_readsAsText (text : String) :
    (∀ (files : FileSystem) path earlier, files.at? path = .ok (.file text.toUTF8.toList) →
      (session files (earlier ++ [.file path])).getLast? = some (ofSource (unified text))) ∧
      (ReturnsPaired text.toList → ReadsAsText text) ∧
      (Line.ofSource (unified text) = Line.ofSource text ↔ ReturnsPaired text.toList) := by
  refine ⟨fun files path earlier encoded => session_file encoded earlier, ?_,
    Line.ofSource_unified_iff text⟩
  intro paired files path earlier encoded
  rw [session_file encoded earlier, ofSource, (Line.ofSource_unified_iff text).mpr paired, ofSource]

/-- A text with a carriage return before a line feed and another one at the end. -/
def returned : String :=
  "class: A\r\n    var: x\r"

/-- A file with a text in it, at the root of a file system. -/
def alone (text : String) : FileSystem where
  root := .directory [("a.mcbc", .file text.toUTF8.toList)]

theorem at?_alone (text : String) :
    (alone text).at? { parts := ["a.mcbc"] } = .ok (.file text.toUTF8.toList) :=
  rfl

theorem file_readsAsText_returned :
    ReturnsPaired returned.toList ∧
      (session (alone returned) [.source "bogus: x", .file { parts := ["a.mcbc"] }]).getLast? =
        some (ofSource returned) := by
  have paired : ReturnsPaired returned.toList := by
    decide +kernel
  exact ⟨paired, (file_readsAsText returned).2.1 paired _ _ [.source "bogus: x"]
    (at?_alone returned)⟩

/-- A text with a carriage return inside a line. -/
def folded : String :=
  "class: A\r    bogus: x"

/-- The text has one line, which is a class; the file has a second line, which is rejected. -/
theorem not_readsAsText_folded : ¬ ReadsAsText folded := by
  intro reads
  have same := reads _ _ [] (at?_alone folded)
  rw [session_file (at?_alone folded), Option.some.injEq] at same
  have clean : (ofSource folded).isClean = true := by
    decide +kernel
  have faulty : (ofSource (unified folded)).isClean = false := by
    decide +kernel
  rw [same, clean] at faulty
  exact absurd faulty (by decide)

end Outcome

end Outline
