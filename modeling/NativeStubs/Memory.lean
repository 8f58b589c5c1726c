import NativeStubs.Run

/-! # Writing to memory

A memory keeps what a writer was handed, in order. Its writer may be told to refuse preparation or
single namespaces.
-/

namespace NativeStubs

/-- The namespaces that were announced and the texts that were written. -/
structure Memory where
  prepared : List String := []
  written : List (String × String) := []
  deriving DecidableEq, Repr

namespace Memory

def prepare (memory : Memory) (names : List String) : Memory :=
  { memory with prepared := memory.prepared ++ names }

def write (memory : Memory) (name text : String) : Memory :=
  { memory with written := memory.written ++ [(name, text)] }

def get? (memory : Memory) (name : String) : Option String := Fields.get? memory.written name

/-- A writer to memory that refuses what it is told to refuse. -/
def refusingWriter (refusePrepare : Option Error) (refuseWrite : String → Option Error) :
    Writer (StateM Memory) where
  prepare names := do
    match refusePrepare with
    | some error => pure (.error error)
    | none =>
      modify (·.prepare names)
      pure (.ok ())
  write name text := do
    match refuseWrite name with
    | some error => pure (.error error)
    | none =>
      modify (·.write name text)
      pure (.ok ())

def writer : Writer (StateM Memory) := refusingWriter none fun _ => none

end Memory

end NativeStubs
