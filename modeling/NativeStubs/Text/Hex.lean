/-! # Hexadecimal digits -/

namespace NativeStubs

namespace Text

def hexDigit? (c : Char) : Option Nat :=
  if '0' ≤ c ∧ c ≤ '9' then some (c.toNat - '0'.toNat)
  else if 'a' ≤ c ∧ c ≤ 'f' then some (c.toNat - 'a'.toNat + 10)
  else if 'A' ≤ c ∧ c ≤ 'F' then some (c.toNat - 'A'.toNat + 10)
  else none

/-- The number written by the first `n` characters, all of them hexadecimal digits. -/
def hexNumber? (n : Nat) (s : List Char) : Option Nat :=
  if s.length < n then none
  else (s.take n).foldlM (fun value c => (hexDigit? c).map (16 * value + ·)) 0

/-- The character with a given number, if there is one: surrogates and numbers past U+10FFFF
belong to no character. -/
def charOfNat? (n : Nat) : Option Char :=
  if h : n.isValidChar then some (Char.ofNatAux n h) else none

def hex4 (digit : Nat → Char) (n : Nat) : List Char :=
  [digit (n / 4096 % 16), digit (n / 256 % 16), digit (n / 16 % 16), digit (n % 16)]

def upperDigit (n : Nat) : Char := (Nat.digitChar n).toUpper

@[simp] theorem charOfNat?_toNat (c : Char) : charOfNat? c.toNat = some c :=
  (dif_pos c.valid).trans (congrArg some (Char.ext rfl))

theorem hexDigit?_digitChar {n : Nat} (h : n < 16) : hexDigit? (Nat.digitChar n) = some n := by
  decide +revert

theorem hexDigit?_upperDigit {n : Nat} (h : n < 16) : hexDigit? (upperDigit n) = some n := by
  decide +revert

theorem hexNumber?_hex4 {digit : Nat → Char} (hd : ∀ n < 16, hexDigit? (digit n) = some n) {n : Nat}
    (hn : n < 0x10000) (rest : List Char) : hexNumber? 4 (hex4 digit n ++ rest) = some n := by
  have h (k : Nat) : hexDigit? (digit (k % 16)) = some (k % 16) := hd _ (Nat.mod_lt _ (by decide))
  have hsum : 16 * (16 * (16 * (n / 4096 % 16) + n / 256 % 16) + n / 16 % 16) + n % 16 = n := by
    omega
  simp [hexNumber?, hex4, h, hsum]

end Text

end NativeStubs
