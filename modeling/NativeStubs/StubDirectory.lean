import NativeStubs.Files.System
import NativeStubs.Run

/-! # Stub directories

A stub directory has one file for each namespace. Preparation starts every file over with the
header; the declarations are then added to its end. Other files in the directory stay as they are.
-/

namespace NativeStubs

/-- The directory that receives the stubs. -/
structure StubDirectory where
  path : String
  deriving DecidableEq, Repr

namespace StubDirectory

/-- Marks a file that only declares. -/
def header : String := "---@meta\n\n"

def filePath (d : StubDirectory) (name : String) : String := Path.join d.path (name ++ ".lua")

variable {m : Type → Type} [Monad m] [FileSystem m] (d : StubDirectory)

/-- Starts a file over, unless its path cannot be looked up. -/
def startFile (path : String) : m (Except FileFault Unit) := do
  match ← FileSystem.kind path with
  | .ok _ | .error .notFound => FileSystem.writeText path header
  | .error fault => pure (.error fault)

/-- Starts the files of some namespaces over, up to the first fault. -/
def startFiles : List String → m (Except FileFault Unit)
  | [] => pure (.ok ())
  | name :: rest => do
    match ← startFile (d.filePath name) with
    | .error fault => pure (.error fault)
    | .ok () => startFiles rest

def prepare (names : List String) : m (Except FileFault Unit) := do
  match ← FileSystem.makeDirectories d.path with
  | .error fault => pure (.error fault)
  | .ok () => d.startFiles names

def append (name text : String) : m (Except FileFault Unit) :=
  FileSystem.appendText (d.filePath name) text

def writer : Writer m where
  prepare names := Except.mapError Error.io <$> d.prepare names
  write name text := Except.mapError Error.io <$> d.append name text

end StubDirectory

end NativeStubs
