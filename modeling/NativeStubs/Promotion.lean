import NativeStubs.Native.Basic
import NativeStubs.Pointer

/-! # Promotion of out-parameters

A native writes results through its pointer parameters. A declaration returns them instead: a
pointer parameter is promoted to a further return type, unless it points to characters, which are
input, or the native is one that takes a handle by pointer only to release it. Promoted results
take the place of a `void` result.
-/

namespace NativeStubs

/-- The natives that release or change a handle through its pointer. -/
def releasingNatives : List String :=
  ["DeleteEntity", "DeleteObject", "DeletePed", "DeleteVehicle", "DeleteMissionTrain",
   "DeleteRope", "DeleteCheckpoint", "SetEntityAsNoLongerNeeded", "SetPedAsNoLongerNeeded",
   "SetVehicleAsNoLongerNeeded", "SetObjectAsNoLongerNeeded", "RemoveBlip", "ClearSequenceTask"]

structure Promotion where
  returns : List String
  params : List Param
  deriving DecidableEq, Repr

namespace Promotion

/-- The token of characters, in any case of its letters. -/
def isChar (token : String) : Bool := token.toList.map Char.toLower == "char".toList

/-- Where a parameter goes: it is kept, without its star, or promoted to a return type. -/
def place (excluded : Bool) (p : Param) : Param ⊕ String :=
  let type := Pointer.disambiguate p.type
  match Pointer.pointee? type with
  | none => .inl ⟨p.name, type⟩
  | some pointee =>
    if excluded || isChar pointee then .inl ⟨p.name, pointee⟩ else .inr pointee

/-- The parameters that are kept, in call order. -/
def kept (excluded : Bool) (params : List Param) : List Param :=
  params.filterMap fun p => (place excluded p).getLeft?

/-- The return types of the promoted parameters, in call order. -/
def promoted (excluded : Bool) (params : List Param) : List String :=
  params.filterMap fun p => (place excluded p).getRight?

def declared (n : Native) : String := Pointer.strip (Pointer.disambiguate n.declaredResult)

def ofNative (exclusions : List String) (n : Native) (identifier : String) : Promotion :=
  let excluded := decide (identifier ∈ exclusions)
  let result := declared n
  let kept := kept excluded n.params
  let promoted := promoted excluded n.params
  if result = voidToken ∧ promoted ≠ [] then ⟨promoted, kept⟩ else ⟨result :: promoted, kept⟩

end Promotion

end NativeStubs
