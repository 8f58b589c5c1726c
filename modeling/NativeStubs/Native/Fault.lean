import NativeStubs.Json.Printer
import NativeStubs.Text.Quoted

/-! # Faults of a record

A record that does not describe a native has a fault: the first one met in the order of its
fields, or a field that is missing in the end.
-/

namespace NativeStubs

inductive Found
  | bool (b : Bool)
  | integer (n : Int)
  | double (x : Float)
  | string (s : String)
  | null
  | sequence
  | map
  deriving DecidableEq

namespace Found

def ofValue : Json.Value → Found
  | .null => null
  | .bool b => bool b
  | .number (.integer n) => integer n
  | .number (.double x) => double x
  | .string s => string s
  | .array _ => sequence
  | .object _ => map

def phrase : Found → String
  | bool b => "boolean `" ++ (if b then "true" else "false") ++ "`"
  | integer n => "integer `" ++ toString n ++ "`"
  | double x => "floating point `" ++ Json.numberLayout.text x ++ "`"
  | string s => "string " ++ Text.quoted s
  | null => "null"
  | sequence => "sequence"
  | map => "map"

end Found

inductive Wanted
  | string
  | sequence
  | param
  deriving DecidableEq, Repr

def Wanted.phrase : Wanted → String
  | string => "a string"
  | sequence => "a sequence"
  | param => "struct NativeParam"

/-- Why a record does not describe a native. -/
inductive RecordFault
  | notObject (kind : Json.Kind)
  | wrongType (found : Found) (wanted : Wanted)
  | duplicateField (name : String)
  | missingField (name : String)
  | shortParam (length : Nat)
  | longParam (length : Nat)
  | other (reason : String)
  deriving DecidableEq

def RecordFault.message : RecordFault → String
  | notObject kind => "expected an object, found " ++ kind.phrase
  | wrongType found wanted => "invalid type: " ++ found.phrase ++ ", expected " ++ wanted.phrase
  | duplicateField name => "duplicate field `" ++ name ++ "`"
  | missingField name => "missing field `" ++ name ++ "`"
  | shortParam length =>
    "invalid length " ++ toString length ++ ", expected struct NativeParam with 2 elements"
  | longParam length =>
    "invalid length " ++ toString length ++ ", expected fewer elements in array"
  | other reason => reason

end NativeStubs
