import NativeStubs.Text.LetterCase
import NativeStubs.Text.Replace

/-! # Identifiers

A native is declared under its name in camel case: the name is lowered, the first `0x` in it is
marked with `n_`, every underscore before a lower-case ASCII letter is dropped and the letter
raised, and the first character is raised too. A native without a name takes its catalog key.
-/

namespace NativeStubs

namespace Identifier

/-- Drops each underscore before a lower-case ASCII letter and raises the letter. -/
def joinWords : List Char → List Char
  | '_' :: c :: s => if c.isLower then c.toUpper :: joinWords s else '_' :: joinWords (c :: s)
  | c :: s => c :: joinWords s
  | [] => []

def raiseFirst : List Char → List Char
  | [] => []
  | c :: s => c.toUpper :: s

/-- Marks a hexadecimal number, so that it can begin an identifier. -/
def markHex (s : List Char) : List Char :=
  Text.replaceFirst ['0', 'x'] ['n', '_', '0', 'x'] s

def ofLower (s : List Char) : List Char := raiseFirst (joinWords (markHex s))

def ofName (name : String) : String := String.ofList (ofLower (Text.toLower name.toList))

/-- The identifier of a native: of its name, or of its key when it has no name. -/
def ofNames? (name key : Option String) : Option String := (name.or key).map ofName

@[simp] theorem ofNames?_some (name : String) (key : Option String) :
    ofNames? (some name) key = some (ofName name) := rfl

@[simp] theorem ofNames?_none (key : Option String) : ofNames? none key = key.map ofName := by
  simp [ofNames?]

end Identifier

end NativeStubs
