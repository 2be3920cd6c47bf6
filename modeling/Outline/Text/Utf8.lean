/-!
# Reading UTF-8

A sequence of bytes is decoded strictly: overlong forms, surrogates and numbers
above the last code point are refused.  A refusal tells which bytes cannot be
decoded and why.
-/

namespace Outline.Text.Utf8

/-- Why bytes are no UTF-8. -/
inductive Fault where
  /-- No character begins with this byte. -/
  | invalidStart
  /-- The character that began is not continued. -/
  | invalidContinuation
  /-- The bytes end inside a character. -/
  | unexpectedEnd
  deriving DecidableEq

/-- The wording of a fault. -/
def Fault.message : Fault → String
  | invalidStart => "invalid start byte"
  | invalidContinuation => "invalid continuation byte"
  | unexpectedEnd => "unexpected end of data"

/-- The bytes that cannot be decoded. -/
structure DecodeError where
  /-- What is wrong with them. -/
  fault : Fault
  /-- The position of the first of them. -/
  start : Nat
  /-- The first of them. -/
  lead : UInt8
  /-- The number of bytes after the first one. -/
  further : Nat
  deriving DecidableEq

/-- A byte in hexadecimal digits. -/
def hexByte (byte : UInt8) : String :=
  String.ofList [Nat.digitChar (byte.toNat / 16), Nat.digitChar (byte.toNat % 16)]

/-- The wording of a decoding error. -/
def DecodeError.message (error : DecodeError) : String :=
  let place :=
    if error.further = 0 then
      "byte 0x" ++ hexByte error.lead ++ " in position " ++ toString error.start
    else
      "bytes in position " ++ toString error.start ++ "-" ++ toString (error.start + error.further)
  "'utf-8' codec can't decode " ++ place ++ ": " ++ error.fault.message

/--
The bytes that may continue a character, unless its first byte limits the second
one.
-/
def continuation : Nat × Nat :=
  (0x80, 0xBF)

/-- A character of which some bytes are still awaited. -/
structure Unfinished where
  /-- The position of its first byte. -/
  start : Nat
  /-- Its first byte. -/
  lead : UInt8
  /-- The number of bytes read after the first one. -/
  further : Nat := 0
  /-- The bits read so far. -/
  value : Nat
  /-- The range of the next byte. -/
  next : Nat × Nat
  /-- The ranges of the bytes after the next one. -/
  awaited : List (Nat × Nat)

/-- What is known after some bytes. -/
structure Decoder where
  /-- The number of bytes read. -/
  position : Nat := 0
  /-- The characters read, the last one first. -/
  decoded : List Char := []
  /-- The character that has begun. -/
  unfinished : Option Unfinished := none

/-- Begins a character. -/
def Decoder.start (decoder : Decoder) (byte : UInt8) : Except DecodeError Decoder :=
  let lead := byte.toNat
  let awaiting (base : Nat) (next : Nat × Nat) (awaited : List (Nat × Nat)) :=
    .ok { decoder with
      position := decoder.position + 1
      unfinished := some
        { start := decoder.position, lead := byte, value := lead - base, next, awaited } }
  if lead < 0x80 then
    .ok { decoder with
      position := decoder.position + 1
      decoded := Char.ofNat lead :: decoder.decoded }
  else if lead < 0xC2 then
    .error ⟨.invalidStart, decoder.position, byte, 0⟩
  else if lead < 0xE0 then
    awaiting 0xC0 continuation []
  else if lead < 0xF0 then
    let second :=
      if lead = 0xE0 then (0xA0, 0xBF) else if lead = 0xED then (0x80, 0x9F) else continuation
    awaiting 0xE0 second [continuation]
  else if lead < 0xF5 then
    let second :=
      if lead = 0xF0 then (0x90, 0xBF) else if lead = 0xF4 then (0x80, 0x8F) else continuation
    awaiting 0xF0 second [continuation, continuation]
  else
    .error ⟨.invalidStart, decoder.position, byte, 0⟩

/-- Continues a character. -/
def Decoder.continue (decoder : Decoder) (unfinished : Unfinished) (byte : UInt8) :
    Except DecodeError Decoder :=
  if unfinished.next.1 ≤ byte.toNat && byte.toNat ≤ unfinished.next.2 then
    let value := unfinished.value * 64 + (byte.toNat - 0x80)
    match unfinished.awaited with
    | [] =>
      .ok { position := decoder.position + 1, decoded := Char.ofNat value :: decoder.decoded }
    | next :: awaited =>
      .ok { decoder with
        position := decoder.position + 1
        unfinished := some
          { unfinished with further := unfinished.further + 1, value, next, awaited } }
  else
    .error ⟨.invalidContinuation, unfinished.start, unfinished.lead, unfinished.further⟩

/-- Reads one byte. -/
def Decoder.read (decoder : Decoder) (byte : UInt8) : Except DecodeError Decoder :=
  match decoder.unfinished with
  | none => decoder.start byte
  | some unfinished => decoder.continue unfinished byte

/-- The characters that a sequence of bytes encodes. -/
def decode (bytes : List UInt8) : Except DecodeError (List Char) :=
  match bytes.foldlM Decoder.read {} with
  | .error error => .error error
  | .ok decoder =>
    match decoder.unfinished with
    | none => .ok decoder.decoded.reverse
    | some unfinished =>
      .error ⟨.unexpectedEnd, unfinished.start, unfinished.lead, unfinished.further⟩

end Outline.Text.Utf8
