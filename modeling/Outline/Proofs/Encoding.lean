import Mathlib.Data.List.Forall2
import Outline.FileSystem

/-!
# Decoding what has been encoded

Strict decoding reads the UTF-8 encoding of a text back, whatever the text is:
the shortest form of every character is accepted, and no byte of it is taken for
something else.  A mark at the beginning is a character like all others.
-/

namespace Outline.Text.Utf8

/-- The decoder after the first byte of a character that takes several. -/
def Decoder.begin (decoder : Decoder) (lead : UInt8) (value : Nat) (next : Nat × Nat)
    (awaited : List (Nat × Nat)) : Decoder :=
  { decoder with
    position := decoder.position + 1
    unfinished := some { start := decoder.position, lead, value, next, awaited } }

/--
The range of the second byte of a character: after the least first byte it begins
later, after the greatest one, or the one before the surrogates, it ends earlier.
-/
def secondRange (least low greatest high lead : Nat) : Nat × Nat :=
  if lead = least then (low, 0xBF) else if lead = greatest then (0x80, high) else continuation

/-- Whether a byte lies in a range. -/
def Fits (range : Nat × Nat) (byte : UInt8) : Prop :=
  range.1 ≤ byte.toNat ∧ byte.toNat ≤ range.2

/-- The bits of a character after one more byte, which adds six. -/
def addBits (value : Nat) (byte : UInt8) : Nat :=
  value * 64 + (byte.toNat - 0x80)

theorem addBits_eq (value : Nat) (byte : UInt8) :
    addBits value byte = value * 64 + (byte.toNat - 0x80) :=
  rfl

theorem fits_continuation {byte : UInt8} (inside : 0x80 ≤ byte.toNat ∧ byte.toNat ≤ 0xBF) :
    Fits continuation byte :=
  inside

theorem fits_secondRange {least low greatest high lead : Nat} {byte : UInt8}
    (inside : 0x80 ≤ byte.toNat ∧ byte.toNat ≤ 0xBF) (shortest : lead = least → low ≤ byte.toNat)
    (limited : lead = greatest → byte.toNat ≤ high) :
    Fits (secondRange least low greatest high lead) byte := by
  unfold secondRange continuation
  split_ifs with first last
  · exact ⟨shortest first, inside.2⟩
  · exact ⟨inside.1, limited last⟩
  · exact inside

namespace Decoder

variable (decoder : Decoder) {byte : UInt8}

theorem start_of_one (small : byte.toNat < 0x80) :
    decoder.start byte =
      .ok { decoder with
        position := decoder.position + 1
        decoded := Char.ofNat byte.toNat :: decoder.decoded } := by
  rw [start, if_pos small]

theorem start_of_two (low : 0xC2 ≤ byte.toNat) (high : byte.toNat < 0xE0) :
    decoder.start byte = .ok (decoder.begin byte (byte.toNat - 0xC0) continuation []) := by
  rw [start, if_neg (by omega), if_neg (by omega), if_pos high]
  rfl

theorem start_of_three (low : 0xE0 ≤ byte.toNat) (high : byte.toNat < 0xF0) :
    decoder.start byte =
      .ok (decoder.begin byte (byte.toNat - 0xE0) (secondRange 0xE0 0xA0 0xED 0x9F byte.toNat)
        [continuation]) := by
  rw [start, if_neg (by omega), if_neg (by omega), if_neg (by omega), if_pos high]
  rfl

theorem start_of_four (low : 0xF0 ≤ byte.toNat) (high : byte.toNat < 0xF5) :
    decoder.start byte =
      .ok (decoder.begin byte (byte.toNat - 0xF0) (secondRange 0xF0 0x90 0xF4 0x8F byte.toNat)
        [continuation, continuation]) := by
  rw [start, if_neg (by omega), if_neg (by omega), if_neg (by omega), if_neg (by omega),
    if_pos high]
  rfl

variable {decoder}

theorem foldlM_read_cons {after : Decoder} (taken : decoder.read byte = .ok after)
    (rest : List UInt8) : (byte :: rest).foldlM read decoder = rest.foldlM read after := by
  rw [List.foldlM_cons, taken]
  rfl

/-- A character that has begun is finished by bytes that are in their ranges. -/
theorem foldlM_read_unfinished {unfinished : Unfinished}
    (begun : decoder.unfinished = some unfinished) {bytes : List UInt8}
    (fit : List.Forall₂ Fits (unfinished.next :: unfinished.awaited) bytes) :
    ∃ position, bytes.foldlM read decoder =
      .ok { position
            decoded := Char.ofNat (bytes.foldl addBits unfinished.value) :: decoder.decoded } := by
  induction bytes generalizing decoder unfinished with
  | nil => cases fit
  | cons byte rest induction =>
      rcases List.forall₂_cons.mp fit with ⟨⟨low, high⟩, further⟩
      have taken : decoder.read byte = decoder.continue unfinished byte := by
        rw [read, begun]
      rw [Decoder.continue, if_pos (by simp [low, high])] at taken
      cases awaited : unfinished.awaited with
      | nil =>
          rw [awaited] at further taken
          cases further
          exact ⟨decoder.position + 1, foldlM_read_cons taken []⟩
      | cons next more =>
          simp only [awaited] at further taken
          rw [foldlM_read_cons taken, List.foldl_cons]
          exact @induction _
            { unfinished with
              further := unfinished.further + 1
              value := addBits unfinished.value byte
              next
              awaited := more } rfl further

/-- A character is read when its first byte begins it and the other bytes finish it. -/
theorem foldlM_read_begin (idle : decoder.unfinished = none) {lead : UInt8} {value : Nat}
    {next : Nat × Nat} {awaited : List (Nat × Nat)} {rest : List UInt8} {character : Char}
    (started : decoder.start lead = .ok (decoder.begin lead value next awaited))
    (fit : List.Forall₂ Fits (next :: awaited) rest)
    (bits : rest.foldl addBits value = character.toNat) :
    ∃ position, (lead :: rest).foldlM read decoder =
      .ok { position, decoded := character :: decoder.decoded } := by
  have taken : decoder.read lead = .ok (decoder.begin lead value next awaited) := by
    rw [read, idle, started]
  have begun : (decoder.begin lead value next awaited).unfinished =
      some { start := decoder.position, lead, value, next, awaited } := rfl
  rcases foldlM_read_unfinished begun fit with ⟨position, finished⟩
  rw [bits, Char.ofNat_toNat] at finished
  exact ⟨position, (foldlM_read_cons taken rest).trans finished⟩

end Decoder

/-- Reading the bytes of a character adds the character. -/
theorem foldlM_read_utf8EncodeChar {decoder : Decoder} (idle : decoder.unfinished = none)
    (character : Char) :
    ∃ position, (String.utf8EncodeChar character).foldlM Decoder.read decoder =
      .ok { position, decoded := character :: decoder.decoded } := by
  have byte {value : Nat} (small : value < 256) : (UInt8.ofNat value).toNat = value :=
    UInt8.toNat_ofNat_of_lt small
  have valid : character.toNat < 0xD800 ∨ 0xDFFF < character.toNat ∧ character.toNat < 0x110000 :=
    character.valid
  have same : character.val.toNat = character.toNat := rfl
  have last := byte (show character.toNat % 64 + 128 < 256 by omega)
  have third := byte (show character.toNat / 64 % 64 + 128 < 256 by omega)
  simp only [String.utf8EncodeChar, same]
  -- The bounds of each length are what makes its second byte fit.
  split
  · rename_i small
    have lead := byte (show character.toNat < 256 by omega)
    have taken := decoder.start_of_one (show (UInt8.ofNat character.toNat).toNat < 0x80 by omega)
    rw [lead, Char.ofNat_toNat, idle] at taken
    refine ⟨decoder.position + 1, Decoder.foldlM_read_cons ?_ []⟩
    rw [Decoder.read, idle, taken]
  split
  · have lead := byte (show character.toNat / 64 % 32 + 192 < 256 by omega)
    refine Decoder.foldlM_read_begin idle (decoder.start_of_two ?_ ?_)
      (.cons (fits_continuation ⟨?_, ?_⟩) .nil) ?_
    all_goals simp only [lead, last, addBits_eq, List.foldl_cons, List.foldl_nil]; omega
  split
  · have lead := byte (show character.toNat / 4096 % 16 + 224 < 256 by omega)
    refine Decoder.foldlM_read_begin idle (decoder.start_of_three ?_ ?_)
      (.cons (fits_secondRange ⟨?_, ?_⟩ ?_ ?_) (.cons (fits_continuation ⟨?_, ?_⟩) .nil)) ?_
    all_goals simp only [lead, third, last, addBits_eq, List.foldl_cons, List.foldl_nil]; omega
  · have lead := byte (show character.toNat / 262144 % 8 + 240 < 256 by omega)
    have second := byte (show character.toNat / 4096 % 64 + 128 < 256 by omega)
    refine Decoder.foldlM_read_begin idle (decoder.start_of_four ?_ ?_)
      (.cons (fits_secondRange ⟨?_, ?_⟩ ?_ ?_)
        (.cons (fits_continuation ⟨?_, ?_⟩) (.cons (fits_continuation ⟨?_, ?_⟩) .nil))) ?_
    all_goals
      simp only [lead, second, third, last, addBits_eq, List.foldl_cons, List.foldl_nil]
      omega

/-- Reading the encoding of a text adds its characters. -/
theorem foldlM_read_encoding {decoder : Decoder} (idle : decoder.unfinished = none)
    (text : List Char) :
    ∃ position, (text.flatMap String.utf8EncodeChar).foldlM Decoder.read decoder =
      .ok { position, decoded := text.reverse ++ decoder.decoded } := by
  induction text generalizing decoder with
  | nil =>
      refine ⟨decoder.position, ?_⟩
      rcases decoder with ⟨position, decoded, unfinished⟩
      subst idle
      rfl
  | cons first rest induction =>
      rcases foldlM_read_utf8EncodeChar idle first with ⟨middle, one⟩
      rcases @induction ⟨middle, first :: decoder.decoded, none⟩ rfl with ⟨position, others⟩
      refine ⟨position, ?_⟩
      rw [List.flatMap_cons, List.foldlM_append, one, List.reverse_cons, List.append_assoc]
      exact others

/-- What has been encoded is decoded as it was. -/
theorem decode_encoding (text : List Char) :
    decode (text.flatMap String.utf8EncodeChar) = .ok text := by
  have idle : ({} : Decoder).unfinished = none := rfl
  rcases foldlM_read_encoding idle text with ⟨position, whole⟩
  rw [decode, whole]
  simp

/-! ## Strings and files -/

theorem toList_loop (bytes : ByteArray) (position : Nat) (read : List UInt8) :
    ByteArray.toList.loop bytes position read =
      read.reverse ++ bytes.data.toList.drop position := by
  fun_induction ByteArray.toList.loop bytes position read with
  | case1 position read more induction =>
      have inside : position < bytes.data.toList.length := more
      have next : bytes.get! position = bytes.data.toList[position] := by
        rcases bytes with ⟨data⟩
        exact getElem!_pos data position more
      rw [induction, next, List.drop_eq_getElem_cons inside, List.reverse_cons, List.append_assoc]
      rfl
  | case2 position read done =>
      rw [List.drop_eq_nil_of_le (Nat.le_of_not_lt done), List.append_nil]

theorem toList_toUTF8 (text : String) :
    text.toUTF8.toList = text.toList.flatMap String.utf8EncodeChar := by
  rw [String.toUTF8_eq_toByteArray, ByteArray.toList, toList_loop, ← String.utf8Encode_toList,
    List.utf8Encode]
  simp

end Outline.Text.Utf8

namespace Outline.FileSystem

open Outline.Text

/-- A file is read as the text that it encodes, with its line ends unified. -/
theorem readText_of_encoded {files : FileSystem} {path : Path} {text : String}
    (encoded : files.at? path = .ok (.file text.toUTF8.toList)) :
    files.readText path = .ok (String.ofList (unifyLineEnds text.toList)) := by
  rw [readText, encoded]
  simp only [FileTree.text, Utf8.toList_toUTF8, Utf8.decode_encoding]
  rfl

end Outline.FileSystem
