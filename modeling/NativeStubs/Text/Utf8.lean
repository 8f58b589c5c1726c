/-! # Bytes and texts

Bytes that are well-formed UTF-8 stand for a text. `decodeLossy` reads any bytes: where they are
not well formed it takes the longest beginning of a character, or else one byte, for a
replacement character.
-/

namespace NativeStubs

namespace Text

/-- The number of bytes after the first byte of a character, the bits of the first byte, and the
range of the second byte. -/
def leadByte? (b : Nat) : Option (Nat × Nat × Nat × Nat) :=
  if b < 0x80 then some (0, b, 0, 0)
  else if 0xC2 ≤ b ∧ b < 0xE0 then some (1, b - 0xC0, 0x80, 0xBF)
  else if b = 0xE0 then some (2, 0, 0xA0, 0xBF)
  else if b = 0xED then some (2, 0xD, 0x80, 0x9F)
  else if 0xE1 ≤ b ∧ b < 0xF0 then some (2, b - 0xE0, 0x80, 0xBF)
  else if b = 0xF0 then some (3, 0, 0x90, 0xBF)
  else if b = 0xF4 then some (3, 4, 0x80, 0x8F)
  else if 0xF1 ≤ b ∧ b < 0xF4 then some (3, b - 0xF0, 0x80, 0xBF)
  else none

/-- What stands for bytes that are not well formed. -/
def replacement : Char := '\ufffd'

/-- Reads on inside a character: `left` more bytes, the next one in a range, after the bits read
so far. -/
def decodeTail : (left low high value : Nat) → List Nat → List Char
  | 0, _, _, value, bytes =>
    Char.ofNat value :: decodeBytes bytes
  | _ + 1, _, _, _, [] => [replacement]
  | left + 1, low, high, value, b :: bytes =>
    if low ≤ b ∧ b ≤ high then decodeTail left 0x80 0xBF (value * 64 + b % 64) bytes
    else replacement :: decodeBytes (b :: bytes)
where
  /-- Reads on between characters. -/
  decodeBytes : List Nat → List Char
    | [] => []
    | b :: bytes =>
      match leadByte? b with
      | none => replacement :: decodeBytes bytes
      | some (left, value, low, high) => decodeTail left low high value bytes

/-- The text that any bytes stand for. -/
def decodeLossy (bytes : ByteArray) : String :=
  String.ofList (decodeTail.decodeBytes (bytes.data.toList.map UInt8.toNat))

end Text

end NativeStubs
