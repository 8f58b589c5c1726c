import NativeStubs.Json.Printer
import NativeStubs.Native.Basic

/-! # Writing natives

The record of a native has every field under the name of today, in a fixed order.
-/

namespace NativeStubs

open Json

def optionalValue : Option String → Value
  | none => .null
  | some s => .string s

def Param.toValue (p : Param) : Value :=
  .object [("name", .string p.name), ("type", .string p.type)]

def Native.toValue (n : Native) : Value :=
  .object [
    ("name", optionalValue n.name),
    ("params", .array (n.params.map Param.toValue)),
    ("results", optionalValue n.results),
    ("description", optionalValue n.description),
    ("hash", .string n.hash),
    ("namespace", optionalValue n.namespaceName),
    ("apiset", optionalValue n.apiset),
    ("aliases", .array (n.aliases.map .string)),
    ("old_names", .array (n.oldNames.map .string))]

end NativeStubs
