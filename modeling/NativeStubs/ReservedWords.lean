/-! # Reserved words

A parameter may not be called like a keyword of the language that reads the declarations. A
reserved name is written with an underscore before it.
-/

namespace NativeStubs

/-- The names that parameters may not have. -/
structure ReservedWords where
  words : List String
  deriving DecidableEq, Repr

namespace ReservedWords

def keywords : List String :=
  ["and", "break", "do", "else", "elseif", "end", "false", "for", "function", "goto", "if", "in",
   "local", "nil", "not", "or", "repeat", "return", "then", "true", "until", "while"]

def contains (reserved : ReservedWords) (name : String) : Bool := name ∈ reserved.words

def escape (reserved : ReservedWords) (name : String) : String :=
  if reserved.contains name then "_" ++ name else name

theorem escape_of_contains {reserved : ReservedWords} {name : String}
    (h : reserved.contains name = true) : reserved.escape name = "_" ++ name := by
  simp [escape, h]

theorem escape_of_not_contains {reserved : ReservedWords} {name : String}
    (h : reserved.contains name = false) : reserved.escape name = name := by
  simp [escape, h]

end ReservedWords

end NativeStubs
