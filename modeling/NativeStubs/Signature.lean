import NativeStubs.Native.Basic
import NativeStubs.ReservedWords
import NativeStubs.TypeName

/-! # Signatures

A signature has the types of a declaration. It is written as one line for each parameter and a
function line, in which reserved parameter names are escaped.
-/

namespace NativeStubs

structure Signature where
  identifier : String
  returns : List TypeName
  params : List (String × TypeName)
  deriving DecidableEq, Repr

namespace Signature

/-- The signature for types given as tokens. -/
def ofTokens (identifier : String) (returns : List String) (params : List Param) : Signature :=
  ⟨identifier, returns.map .ofToken, params.map fun p => (p.name, .ofToken p.type)⟩

def paramLines (reserved : ReservedWords) (s : Signature) : String :=
  String.join (s.params.map fun (name, type) =>
    "---@param " ++ reserved.escape name ++ " " ++ type.text ++ "\n")

def functionLine (reserved : ReservedWords) (s : Signature) : String :=
  "function " ++ s.identifier ++ "(" ++
    String.intercalate ", " (s.params.map fun (name, _) => reserved.escape name) ++ ") end"

end Signature

end NativeStubs
