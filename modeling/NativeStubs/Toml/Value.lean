import NativeStubs.Json.Fields

/-! # TOML values and tables

Keys reach a table along a path. Where a path meets a key for the first time it makes a table, and
how a table came about decides how it may grow: a table under its own header is complete with the
section below it, a table of a dotted key grows by dotted keys of the same section and by headers
below it, an inline table does not grow at all.
-/

namespace NativeStubs

namespace Toml

/-- How a table came about. -/
inductive Origin
  | implied
  | dotted
  | header
  | inline
  deriving DecidableEq, Repr

/-- A value. Numbers other than integers and dates and times are read, but what they stand for is
not kept. An array grows if its elements are tables under headers. -/
inductive Value
  | string (s : String)
  | integer (n : Int)
  | float
  | boolean (b : Bool)
  | moment
  | array (growing : Bool) (items : List Value)
  | table (origin : Origin) (entries : List (String × Value))
  deriving Inhabited

abbrev Entries := Fields Value

/-- The path to a key: the tables it goes through and the key itself. -/
structure KeyPath where
  tables : List String
  key : String
  deriving DecidableEq, Repr

namespace Entries

/-- Changes the entries of the table that a path leads to from a table of some origin. -/
def update (dotted : Bool) (change : Origin → Entries → Option Entries) :
    List String → Origin → Entries → Option Entries
  | [], origin, entries => change origin entries
  | key :: path, _, entries =>
    match entries.get? key with
    | none =>
      let origin := if dotted then .dotted else .implied
      (update dotted change path origin []).map fun inner =>
        entries.insert key (.table origin inner)
    | some (.table origin inner) =>
      if origin = .inline ∨ (dotted ∧ origin = .header) then none
      else (update dotted change path origin inner).map fun inner =>
        entries.insert key (.table origin inner)
    | some (.array true items) =>
      match items.getLast? with
      | some (.table origin inner) =>
        (update dotted change path origin inner).map fun inner =>
          entries.insert key (.array true (items.dropLast ++ [.table origin inner]))
      | _ => none
    | some _ => none

/-- Adds a new key. Dotted keys and plain keys do not mix in one table. -/
def addKey (dotted : Bool) (key : String) (v : Value) (origin : Origin) (entries : Entries) :
    Option Entries :=
  if (origin = .dotted) ≠ dotted ∨ (entries.get? key).isSome then none
  else some (entries.insert key v)

def add (entries : Entries) (path : KeyPath) (v : Value) : Option Entries :=
  let dotted := !path.tables.isEmpty
  update dotted (addKey dotted path.key v) path.tables .header entries

def addAll (entries : Entries) (pairs : List (KeyPath × Value)) : Option Entries :=
  pairs.foldlM (fun acc (path, v) => acc.add path v) entries

def addTable (entries : Entries) (path : KeyPath) (pairs : List (KeyPath × Value)) :
    Option Entries :=
  update false (fun _ parent =>
    match parent.get? path.key with
    | none => (addAll [] pairs).map fun es => parent.insert path.key (.table .header es)
    | some (.table .implied es) =>
      (addAll es pairs).map fun es => parent.insert path.key (.table .header es)
    | some _ => none) path.tables .header entries

def addElement (entries : Entries) (path : KeyPath) (pairs : List (KeyPath × Value)) :
    Option Entries :=
  update false (fun _ parent =>
    (addAll [] pairs).bind fun es =>
      match parent.get? path.key with
      | none => some (parent.insert path.key (.array true [.table .header es]))
      | some (.array true items) =>
        some (parent.insert path.key (.array true (items ++ [.table .header es])))
      | some _ => none) path.tables .header entries

end Entries

end Toml

end NativeStubs
