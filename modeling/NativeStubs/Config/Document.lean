import NativeStubs.Config
import NativeStubs.Toml.Reader

/-! # Configuration documents

A configuration is a TOML document with one line or list for each value. A key that is left out
has its default, and a key that means nothing is ignored.
-/

namespace NativeStubs

namespace Config

open Toml

def textOr (default : String) : Option Toml.Value → Option String
  | none => some default
  | some (.string s) => some s
  | some _ => none

def listOf? : List Toml.Value → Option (List String)
  | [] => some []
  | .string s :: rest => (listOf? rest).map (s :: ·)
  | _ :: _ => none

def listOr (default : List String) : Option Toml.Value → Option (List String)
  | none => some default
  | some (.array _ items) => listOf? items
  | some _ => none

/-- The configuration that a table stands for. -/
def ofEntries? (entries : Entries) : Option Config := do
  let default : Config := {}
  let docUrlPrefix ← textOr default.docUrlPrefix (entries.get? "doc_url_prefix")
  let defaultApiset ← textOr default.defaultApiset (entries.get? "default_apiset")
  let nonReturnPointerNatives ←
    listOr default.nonReturnPointerNatives (entries.get? "non_return_pointer_natives")
  let reservedWords ← listOr default.reservedWords (entries.get? "reserved_words")
  let outputDir ← textOr default.outputDir (entries.get? "output_dir")
  let sources ← listOr default.sources (entries.get? "sources")
  return { docUrlPrefix, defaultApiset, nonReturnPointerNatives, reservedWords, outputDir,
           sources }

def parse (text : String) : Except Error Config :=
  match (Toml.parse? text).bind ofEntries? with
  | none => .error .toml
  | some c => c.validate.map fun () => c

inductive Setting
  | text (s : String)
  | list (items : List String)
  deriving DecidableEq, Repr

/-- The values under their keys, in the order in which they are written. -/
def settings (c : Config) : List (String × Setting) :=
  [("doc_url_prefix", .text c.docUrlPrefix),
   ("default_apiset", .text c.defaultApiset),
   ("non_return_pointer_natives", .list c.nonReturnPointerNatives),
   ("reserved_words", .list c.reservedWords),
   ("output_dir", .text c.outputDir),
   ("sources", .list c.sources)]

/-- A text as a TOML string. -/
def stringText (s : String) : String := String.ofList (Toml.encode s.toList)

/-- The written form of a value. A list of two or more texts has one line for each. -/
def Setting.write : Setting → String
  | text s => stringText s
  | list [] => "[]"
  | list [s] => "[" ++ stringText s ++ "]"
  | list items =>
    "[\n" ++ String.join (items.map fun s => "    " ++ stringText s ++ ",\n") ++ "]"

def heading : String :=
  "# natdoc configuration\n# Remove a key to fall back to its default\n\n"

def document (settings : List (String × Setting)) : String :=
  heading ++ String.join (settings.map fun (key, s) => key ++ " = " ++ s.write ++ "\n")

def toToml (c : Config) : String := document c.settings

end Config

end NativeStubs
