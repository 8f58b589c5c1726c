/-! # Blank text

A character is blank when it has the property `White_Space`: the ASCII blanks, the two Latin-1
ones (U+0085, U+00A0) and the wide and general-punctuation spaces. Zero-width characters such as
U+200B and U+FEFF are not blank.
-/

namespace NativeStubs

namespace Text

/-- The property `White_Space`. -/
def isBlank (c : Char) : Bool :=
  let n := c.toNat
  (9 ≤ n && n ≤ 13) || n == 0x20 || n == 0x85 || n == 0xA0 || n == 0x1680 ||
    (0x2000 ≤ n && n ≤ 0x200A) || n == 0x2028 || n == 0x2029 || n == 0x202F || n == 0x205F ||
    n == 0x3000

def trimStart (s : List Char) : List Char := s.dropWhile isBlank

def trimEnd (s : List Char) : List Char := (s.reverse.dropWhile isBlank).reverse

/-- Nothing but blanks, or nothing at all. -/
def allBlank (s : String) : Bool := s.toList.all isBlank

@[simp] theorem trimStart_cons_of_not_blank {c : Char} {s : List Char} (h : isBlank c = false) :
    trimStart (c :: s) = c :: s := by
  simp [trimStart, h]

@[simp] theorem trimStart_cons_of_blank {c : Char} {s : List Char} (h : isBlank c = true) :
    trimStart (c :: s) = trimStart s := by
  simp [trimStart, h]

@[simp] theorem trimEnd_append_of_not_blank {c : Char} {s : List Char} (h : isBlank c = false) :
    trimEnd (s ++ [c]) = s ++ [c] := by
  simp [trimEnd, h]

@[simp] theorem trimEnd_append_of_blank {c : Char} {s : List Char} (h : isBlank c = true) :
    trimEnd (s ++ [c]) = trimEnd s := by
  simp [trimEnd, h]

end Text

end NativeStubs
