import NativeStubs.Text.Hex

/-! # JSON strings

`encode` writes the characters of a string between its quotes and `decode?` reads them back, up
to the closing quote. A quote, a backslash and the control characters below U+0020 are escaped;
reading also accepts an escaped slash and any character by its number, in two halves for a
character past U+FFFF.
-/

namespace NativeStubs

namespace Json

/-- One character of a string. -/
def encodeChar (c : Char) : List Char :=
  if c = '"' then ['\\', '"']
  else if c = '\\' then ['\\', '\\']
  else if c = '\x08' then ['\\', 'b']
  else if c = '\t' then ['\\', 't']
  else if c = '\n' then ['\\', 'n']
  else if c = '\x0c' then ['\\', 'f']
  else if c = '\r' then ['\\', 'r']
  else if c.toNat < 0x20 then
    ['\\', 'u', '0', '0', Nat.digitChar (c.toNat / 16), Nat.digitChar (c.toNat % 16)]
  else [c]

/-- The characters of a string as they stand between the quotes. -/
def encode (s : List Char) : List Char := s.flatMap encodeChar

/-- The character of a two-character escape. -/
def shortEscape? : Char → Option Char
  | '"' => some '"'
  | '\\' => some '\\'
  | '/' => some '/'
  | 'b' => some '\x08'
  | 'f' => some '\x0c'
  | 'n' => some '\n'
  | 'r' => some '\r'
  | 't' => some '\t'
  | _ => none

/-- The character of an escape by number, after its `u`, and the number of characters read. A
number in the upper surrogate range needs a second escape in the lower one. -/
def numberEscape? (s : List Char) : Option (Char × Nat) :=
  match Text.hexNumber? 4 s with
  | none => none
  | some high =>
    if 0xD800 ≤ high ∧ high < 0xDC00 then
      match s.drop 4 with
      | '\\' :: 'u' :: rest =>
        match Text.hexNumber? 4 rest with
        | none => none
        | some low =>
          if 0xDC00 ≤ low ∧ low < 0xE000 then
            (Text.charOfNat? (0x10000 + (high - 0xD800) * 0x400 + (low - 0xDC00))).map (·, 10)
          else none
      | _ => none
    else (Text.charOfNat? high).map (·, 4)

/-- The character of an escape, after its backslash, and the number of characters read. -/
def escape? : List Char → Option (Char × Nat)
  | [] => none
  | 'u' :: rest => (numberEscape? rest).map fun (c, n) => (c, n + 1)
  | c :: _ => (shortEscape? c).map (·, 1)

/-- Reads the characters of a string after its opening quote: the string and what follows its
closing quote. -/
def decode? (s : List Char) : Option (List Char × List Char) :=
  match s with
  | [] => none
  | c :: rest =>
    if c = '"' then some ([], rest)
    else if c = '\\' then
      match escape? rest with
      | none => none
      | some (e, n) => (decode? (rest.drop n)).map fun (text, after) => (e :: text, after)
    else if c.toNat < 0x20 then none
    else (decode? rest).map fun (text, after) => (c :: text, after)
termination_by s.length
decreasing_by all_goals simp; try omega

end Json

end NativeStubs
