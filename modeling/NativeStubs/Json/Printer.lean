import NativeStubs.Decimal.Layout
import NativeStubs.Json.Text
import NativeStubs.Json.Value

/-! # Writing JSON documents

The compact form of a value has no blanks between its parts.
-/

namespace NativeStubs

namespace Json

/-- Doubles have a point between `1e-5` and `1e+15`, and an exponent outside. -/
def numberLayout : Decimal.Layout := ⟨-5, 15⟩

def Number.text : Number → String
  | .integer n => toString n
  | .double x => numberLayout.text x

/-- A string with its quotes. -/
def stringChars (s : String) : List Char := '"' :: (encode s.toList ++ ['"'])

namespace Value

mutual
def chars : Value → List Char
  | null => "null".toList
  | bool b => if b then "true".toList else "false".toList
  | number n => n.text.toList
  | string s => stringChars s
  | array items => '[' :: (itemChars items ++ [']'])
  | object fields => '\x7b' :: (fieldChars fields ++ ['\x7d'])

def itemChars : List Value → List Char
  | [] => []
  | [item] => item.chars
  | item :: rest => item.chars ++ ',' :: itemChars rest

def fieldChars : List (String × Value) → List Char
  | [] => []
  | [(key, value)] => stringChars key ++ ':' :: value.chars
  | (key, value) :: rest => stringChars key ++ ':' :: (value.chars ++ ',' :: fieldChars rest)
end

def text (v : Value) : String := String.ofList v.chars

end Value

end Json

end NativeStubs
