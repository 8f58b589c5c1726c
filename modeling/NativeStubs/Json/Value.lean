import NativeStubs.Json.Fields

/-! # JSON values

Numbers without fraction and exponent that fit 64 bits are integers, all others doubles. The
fields of an object are in document order.
-/

namespace NativeStubs

namespace Json

/-- A number: an integer between `-2 ^ 63` and `2 ^ 64 - 1`, or a finite double. -/
inductive Number
  | integer (n : Int)
  | double (x : Float)
  deriving DecidableEq

/-- A JSON document. -/
inductive Value
  | null
  | bool (b : Bool)
  | number (n : Number)
  | string (s : String)
  | array (items : List Value)
  | object (fields : List (String × Value))
  deriving Inhabited

/-- The kinds of values. -/
inductive Kind
  | null
  | boolean
  | number
  | string
  | array
  | object
  deriving DecidableEq, Repr

/-- What a message calls a value of the kind. -/
def Kind.phrase : Kind → String
  | null => "null"
  | boolean => "a boolean"
  | number => "a number"
  | string => "a string"
  | array => "an array"
  | object => "an object"

namespace Value

/-- The kind of a value. -/
def kind : Value → Kind
  | null => .null
  | bool _ => .boolean
  | number _ => .number
  | string _ => .string
  | array _ => .array
  | object _ => .object

/-- The fields of an object. -/
def fields? : Value → Option (Fields Value)
  | object fields => some fields
  | _ => none

mutual
/-- Every object in the value has distinct keys, as every value read from a document has. -/
def WellFormed : Value → Prop
  | array items => WellFormedItems items
  | object fields => (Fields.keys fields).Nodup ∧ WellFormedFields fields
  | _ => True

/-- `WellFormed` for each item. -/
def WellFormedItems : List Value → Prop
  | [] => True
  | item :: rest => item.WellFormed ∧ WellFormedItems rest

/-- `WellFormed` for the value of each field. -/
def WellFormedFields : List (String × Value) → Prop
  | [] => True
  | (_, value) :: rest => value.WellFormed ∧ WellFormedFields rest
end

end Value

end Json

end NativeStubs
