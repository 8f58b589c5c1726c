import NativeStubs.Generator

/-! # Runs

A run hands the declarations of each namespace of a catalog to a writer, in catalog order, and
reports what became of them. It ends early only if the writer cannot be prepared; a namespace that
is malformed or cannot be written does not hold up the others.
-/

namespace NativeStubs

open Json

/-- Takes the declarations of a run. `prepare` comes first and learns the names of all
namespaces. -/
structure Writer (m : Type → Type) where
  prepare : List String → m (Except Error Unit)
  write : String → String → m (Except Error Unit)

/-- What became of a catalog. `namespaces` counts the declarations of each namespace written. -/
structure Report where
  totalNatives : Nat
  generated : Nat := 0
  namespaces : List (String × Nat) := []
  skipped : List Skipped := []
  failed : List (String × Error) := []
  deriving DecidableEq

namespace Report

def isSuccess (r : Report) : Bool := r.failed.isEmpty

def addFailure (r : Report) (name : String) (error : Error) : Report :=
  { r with failed := r.failed ++ [(name, error)] }

def addSkipped (r : Report) (o : NamespaceOutput) : Report :=
  { r with skipped := r.skipped ++ o.skipped }

def addWritten (r : Report) (name : String) (o : NamespaceOutput) :
    Except Error Unit → Report
  | .ok () =>
    { r with
      generated := r.generated + o.declarations.length
      namespaces := r.namespaces ++ [(name, o.declarations.length)] }
  | .error source => r.addFailure name (.namespaceWrite name source)

end Report

namespace Generator

variable {m : Type → Type} [Monad m] (g : Generator) (w : Writer m)

def runNamespace (r : Report) (name : String) (v : Value) : m Report :=
  match g.build name v with
  | .error error => pure (r.addFailure name error)
  | .ok o => do
    let answer ← w.write name o.text
    pure ((r.addSkipped o).addWritten name o answer)

def runNamespaces (r : Report) : Fields Value → m Report
  | [] => pure r
  | (name, v) :: rest => do
    let r ← g.runNamespace w r name v
    runNamespaces r rest

/-- Builds and writes a catalog. -/
def run (c : Catalog) : m (Except Error Report) := do
  match ← w.prepare c.names with
  | .error error => pure (.error error)
  | .ok () => .ok <$> g.runNamespaces w { totalNatives := c.nativeCount } c.namespaces

end Generator

end NativeStubs
