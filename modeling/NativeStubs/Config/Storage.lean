import NativeStubs.Config.Document
import NativeStubs.Files.System

/-! # Configuration files

A configuration is read from the file that is named, or from `natdoc.toml` if that is there, and
is the default configuration otherwise.
-/

namespace NativeStubs

namespace Config

variable {m : Type → Type} [Monad m] [FileSystem m]

/-- The name of the file that is read where none is given. -/
def fileName : String := "natdoc.toml"

def load (path : String) : m (Except Error Config) := do
  match ← FileSystem.readText path with
  | .error fault => pure (.error (.config (.unreadable path fault)))
  | .ok text => pure (parse text)

/-- The configuration of a file if one is given, or else of the file in a directory if it is there,
or else the default. -/
def loadOrDefault (explicit : Option String) (dir : String) : m (Except Error Config) :=
  match explicit with
  | some path => load path
  | none => do
    let path := Path.join dir fileName
    if ← FileSystem.isFile path then load path else pure (.ok {})

/-- Writes the document of a configuration to a file, in a directory that is made if it is
missing. -/
def save (c : Config) (path : String) : m (Except Error Unit) := do
  match ← FileSystem.makeAncestors (Path.parents path) with
  | .error fault => pure (.error (.io fault))
  | .ok () =>
    match ← FileSystem.writeText path c.toToml with
    | .error fault => pure (.error (.io fault))
    | .ok () => pure (.ok ())

end Config

end NativeStubs
