/-! # Replacing a pattern in a text

`replaceFirst` replaces the leftmost occurrence of a pattern and `replaceAll` every occurrence,
read from the left so that no two of them overlap.
-/

namespace NativeStubs

namespace Text

variable (pattern replacement : List Char)

/-- The text with its leftmost occurrence of `pattern` replaced. -/
def replaceFirst : List Char → List Char
  | [] => []
  | c :: s =>
    if pattern.isPrefixOf (c :: s) then replacement ++ (c :: s).drop pattern.length
    else c :: replaceFirst s

/-- `replaceAll` inside an occurrence: the next `skip` characters belong to it. -/
def replaceFrom : Nat → List Char → List Char
  | _, [] => []
  | 0, c :: s =>
    if pattern.isPrefixOf (c :: s) then replacement ++ replaceFrom (pattern.length - 1) s
    else c :: replaceFrom 0 s
  | skip + 1, _ :: s => replaceFrom skip s

/-- The text with every occurrence of `pattern` replaced, leftmost ones first. -/
def replaceAll (s : List Char) : List Char := replaceFrom pattern replacement 0 s

@[simp] theorem replaceFirst_nil : replaceFirst pattern replacement [] = [] := rfl

@[simp] theorem replaceAll_nil : replaceAll pattern replacement [] = [] := rfl

theorem replaceFirst_cons_of_not_prefix {c : Char} {s : List Char}
    (h : pattern.isPrefixOf (c :: s) = false) :
    replaceFirst pattern replacement (c :: s) = c :: replaceFirst pattern replacement s := by
  simp [replaceFirst, h]

theorem replaceAll_cons_of_not_prefix {c : Char} {s : List Char}
    (h : pattern.isPrefixOf (c :: s) = false) :
    replaceAll pattern replacement (c :: s) = c :: replaceAll pattern replacement s := by
  simp [replaceAll, replaceFrom, h]

end Text

end NativeStubs
