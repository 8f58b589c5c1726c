import NativeStubs.Text.CaseTable

/-! # Lower case

`toLower` writes a text in lower case, letter by letter, with the two exceptions of the general
rule: `İ` becomes two characters, and `Σ` becomes `ς` where it ends a word and `σ` elsewhere. A
`Σ` ends a word when the nearest character before it that is not case-ignorable is cased and the
nearest such character after it is not.
-/

namespace NativeStubs

namespace Text

def isCased (c : Char) : Bool := casedTable.has c.toNat

def isCaseIgnorable (c : Char) : Bool := caseIgnorableTable.has c.toNat

/-- The lower-case form of one character, `İ` and the end of a word apart. -/
def lowerChar (c : Char) : Char :=
  if c.toNat < 0x80 then c.toLower
  else match caseRanges.findSome? (·.lower? c.toNat) with
    | some n => Char.ofNat n
    | none => c

/-- The first character that is not case-ignorable is cased. -/
def startsCased (s : List Char) : Bool :=
  match s.dropWhile isCaseIgnorable with
  | [] => false
  | c :: _ => isCased c

/-- Whether the text read so far ends cased, once `c` has been read too. -/
def endsCased (before : Bool) (c : Char) : Bool :=
  if isCaseIgnorable c then before else isCased c

/-- Lower case of a text that follows text ending cased or not. -/
def toLowerAfter : Bool → List Char → List Char
  | _, [] => []
  | before, c :: s =>
    let lower :=
      if c = 'Σ' then [if before && !startsCased s then 'ς' else 'σ']
      else if c = 'İ' then ['i', '\u0307']
      else [lowerChar c]
    lower ++ toLowerAfter (endsCased before c) s

def toLower (s : List Char) : List Char := toLowerAfter false s

theorem lowerChar_of_ascii {c : Char} (h : c.toNat < 0x80) : lowerChar c = c.toLower := by
  simp [lowerChar, h]

@[simp] theorem toLower_nil : toLower [] = [] := rfl

end Text

end NativeStubs
