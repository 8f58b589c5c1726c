import NativeStubs.Native.Basic
import NativeStubs.Native.Fault
import NativeStubs.Native.Revision

/-! # Reading natives

A record is read field by field in document order into a draft, and the first field that is
repeated or has the wrong type is its fault. Fields with other names are skipped. Only `params`
must be there; a field that may be left out may be `null` too if it holds a single text, the hash
apart.
-/

namespace NativeStubs

open Json

def Wanted.fault (wanted : Wanted) (v : Value) : RecordFault :=
  .wrongType (Found.ofValue v) wanted

def readString : Value → Except RecordFault String
  | .string s => .ok s
  | v => .error (Wanted.string.fault v)

def readOptional : Value → Except RecordFault (Option String)
  | .null => .ok none
  | v => (readString v).map some

def readItems {α : Type} (item : Value → Except RecordFault α) :
    Value → Except RecordFault (List α)
  | .array items => items.mapM item
  | v => .error (Wanted.sequence.fault v)

/-- Sets a field of a draft that must not be set yet. -/
def setOnce {α : Type} (name : String) (slot : Option α) (read : Except RecordFault α) :
    Except RecordFault (Option α) :=
  if slot.isSome then .error (.duplicateField name) else read.map some

/-- Takes up a field for a slot, if it has the name of the slot or a synonym of it. -/
def fill {α : Type} (name : String) (synonyms : List String) (read : Value → Except RecordFault α)
    (key : String) (v : Value) (slot : Option α) : Except RecordFault (Option α) :=
  if key = name ∨ key ∈ synonyms then setOnce name slot (read v) else .ok slot

def required {α : Type} (name : String) : Option α → Except RecordFault α
  | some x => .ok x
  | none => .error (.missingField name)

namespace Param

/-- The fields of a parameter met so far. -/
structure Draft where
  name : Option String := none
  type : Option String := none

/-- Takes up one field. -/
def Draft.field (draft : Draft) (key : String) (v : Value) : Except RecordFault Draft := do
  let name ← fill "name" [] readString key v draft.name
  let type ← fill "type" [] readString key v draft.type
  return { name, type }

/-- A parameter from its two fields. -/
def ofFields (fields : Fields Value) : Except RecordFault Param := do
  let draft ← fields.foldlM (fun draft (key, v) => draft.field key v) ({} : Draft)
  let name ← required "name" draft.name
  let type ← required "type" draft.type
  return ⟨name, type⟩

/-- A parameter from its name and its type in a row. -/
def ofItems (items : List Value) : Except RecordFault Param :=
  match items with
  | [] => .error (.shortParam 0)
  | name :: rest => do
    let name ← readString name
    match rest with
    | [] => .error (.shortParam 1)
    | type :: more =>
      let type ← readString type
      if more.isEmpty then return ⟨name, type⟩ else .error (.longParam items.length)

/-- A parameter in either form. -/
def ofValue : Value → Except RecordFault Param
  | .object fields => ofFields fields
  | .array items => ofItems items
  | v => .error (Wanted.param.fault v)

end Param

namespace Native

/-- The fields of a native met so far. -/
structure Draft where
  name : Option (Option String) := none
  params : Option (List Param) := none
  results : Option (Option String) := none
  description : Option (Option String) := none
  hash : Option String := none
  namespaceName : Option (Option String) := none
  apiset : Option (Option String) := none
  aliases : Option (List String) := none
  oldNames : Option (List String) := none

/-- Takes up one field. `ns` and `namespace` are one field. -/
def Draft.field (draft : Draft) (key : String) (v : Value) : Except RecordFault Draft := do
  let name ← fill "name" [] readOptional key v draft.name
  let params ← fill "params" [] (readItems Param.ofValue) key v draft.params
  let results ← fill "results" [] readOptional key v draft.results
  let description ← fill "description" [] readOptional key v draft.description
  let hash ← fill "hash" [] readString key v draft.hash
  let namespaceName ← fill "namespace" ["ns"] readOptional key v draft.namespaceName
  let apiset ← fill "apiset" [] readOptional key v draft.apiset
  let aliases ← fill "aliases" [] (readItems readString) key v draft.aliases
  let oldNames ← fill "old_names" [] (readItems readString) key v draft.oldNames
  return { name, params, results, description, hash, namespaceName, apiset, aliases, oldNames }

/-- The native that a complete draft describes. -/
def Draft.native (draft : Draft) : Except RecordFault Native := do
  let params ← required "params" draft.params
  return {
    name := draft.name.join
    params
    results := draft.results.join
    description := draft.description.join
    hash := draft.hash.getD ""
    namespaceName := draft.namespaceName.join
    apiset := draft.apiset.join
    aliases := draft.aliases.getD []
    oldNames := draft.oldNames.getD [] }

/-- A native from fields with the names of today. -/
def ofFields (fields : Fields Value) : Except RecordFault Native := do
  let draft ← fields.foldlM (fun draft (key, v) => draft.field key v) ({} : Draft)
  draft.native

/-- A native from the record of a catalog of any age. -/
def ofRecord (record : Value) : Except RecordFault Native :=
  match record with
  | .object fields => ofFields (Fields.modernize fields)
  | v => .error (.notObject v.kind)

end Native

end NativeStubs
