import NativeStubs.Text.Blank
import NativeStubs.Text.Replace

/-! # Pointer types

A pointer type is a type with a star after it, blanks allowed between the two and `const` with a
blank allowed before it. Its pointee is the bare type. The entity handle `Object` is spelled
`object_1` everywhere inside a type, because a bare `object` is a table.
-/

namespace NativeStubs

namespace Pointer

/-- A type with `object_1` for every `Object`. -/
def disambiguate (type : String) : String :=
  String.ofList (Text.replaceAll "Object".toList "object_1".toList type.toList)

/-- A type without the `const` before it. -/
def unqualify (type : List Char) : List Char :=
  match "const".toList.isPrefixOf? type with
  | some (c :: rest) => if Text.isBlank c then Text.trimStart (c :: rest) else type
  | _ => type

def pointeeChars? (type : List Char) : Option (List Char) :=
  if type.getLast? = some '*' then some (unqualify (Text.trimEnd type.dropLast)) else none

/-- The pointee of a pointer type; `none` for other types. -/
def pointee? (type : String) : Option String :=
  (pointeeChars? type.toList).map String.ofList

def strip (type : String) : String := (pointee? type).getD type

end Pointer

end NativeStubs
