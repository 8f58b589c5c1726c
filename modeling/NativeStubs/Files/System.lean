import NativeStubs.Error
import NativeStubs.Files.Path

/-! # File systems

The operations on files that a command needs, in any monad that offers them, and what is built
from them.
-/

namespace NativeStubs

inductive FileKind
  | file
  | directory
  deriving DecidableEq, Repr

/-- Access to files. `write` replaces a file, `append` adds to its end, and both create a file that
is missing. -/
class FileSystem (m : Type → Type) where
  kind : String → m (Except FileFault FileKind)
  makeDirectory : String → m (Except FileFault Unit)
  read : String → m (Except FileFault ByteArray)
  write : String → ByteArray → m (Except FileFault Unit)
  append : String → ByteArray → m (Except FileFault Unit)

namespace FileSystem

variable {m : Type → Type} [Monad m] [FileSystem m]

def exists? (path : String) : m Bool := do
  match ← kind path with
  | .ok _ => pure true
  | .error _ => pure false

def isFile (path : String) : m Bool := do
  match ← kind path with
  | .ok k => pure (k == .file)
  | .error _ => pure false

def isDirectory (path : String) : m Bool := do
  match ← kind path with
  | .ok k => pure (k == .directory)
  | .error _ => pure false

def readText (path : String) : m (Except FileFault String) := do
  match ← read path with
  | .error fault => pure (.error fault)
  | .ok bytes =>
    match String.fromUTF8? bytes with
    | some text => pure (.ok text)
    | none => pure (.error .notText)

def writeText (path text : String) : m (Except FileFault Unit) := write path text.toUTF8

def appendText (path text : String) : m (Except FileFault Unit) := append path text.toUTF8

/-- Makes a directory, given with the directories above it. One that is there already is left as
it is. -/
def makeAncestors : List String → m (Except FileFault Unit)
  | [] => pure (.ok ())
  | path :: parents => do
    match ← makeDirectory path with
    | .ok () => pure (.ok ())
    | .error .notFound =>
      match ← makeAncestors parents with
      | .error fault => pure (.error fault)
      | .ok () =>
        match ← makeDirectory path with
        | .ok () => pure (.ok ())
        | .error fault => if ← isDirectory path then pure (.ok ()) else pure (.error fault)
    | .error fault => if ← isDirectory path then pure (.ok ()) else pure (.error fault)

/-- Makes a directory and the directories above it that are missing. -/
def makeDirectories (path : String) : m (Except FileFault Unit) :=
  makeAncestors (Path.ancestors path)

end FileSystem

end NativeStubs
