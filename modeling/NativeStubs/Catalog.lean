import NativeStubs.Error
import NativeStubs.Json.Reader

/-! # Catalogs

A catalog gives the records of each namespace under their keys. Namespaces and records keep the
order of the document.
-/

namespace NativeStubs

open Json

/-- The namespaces of a document with their values, in document order. -/
structure Catalog where
  namespaces : Fields Value

namespace Catalog

def empty : Catalog := ⟨[]⟩

def ofValue : Value → Except Error Catalog
  | .object fields => .ok ⟨fields⟩
  | v => .error (.malformedCatalog (.notObject v.kind))

def parse (text : String) : Except Error Catalog :=
  match Json.parse? text with
  | some document => ofValue document
  | none => .error .json

/-- A namespace with another catalog's value for it: new records are added to old ones, and a
value that is not an object replaces what was there or is replaced. -/
def mergeValue : Value → Value → Value
  | .object fields, .object additions => .object (Fields.extend fields additions)
  | _, incoming => incoming

def mergeNamespace (namespaces : Fields Value) (name : String) (incoming : Value) :
    Fields Value :=
  match namespaces.get? name with
  | some existing => namespaces.insert name (mergeValue existing incoming)
  | none => namespaces.insert name incoming

def merge (c other : Catalog) : Catalog :=
  ⟨other.namespaces.foldl (fun acc (name, incoming) => mergeNamespace acc name incoming)
    c.namespaces⟩

def names (c : Catalog) : List String := c.namespaces.keys

def size (c : Catalog) : Nat := c.namespaces.length

def recordCount (v : Value) : Nat := (v.fields?.getD []).length

/-- The number of records in all namespaces that are objects. -/
def nativeCount (c : Catalog) : Nat := c.namespaces.foldr (fun (_, v) n => recordCount v + n) 0

/-- Every object in the catalog has distinct keys, as in every catalog read from a document. -/
def WellFormed (c : Catalog) : Prop := (Value.object c.namespaces).WellFormed

end Catalog

end NativeStubs
