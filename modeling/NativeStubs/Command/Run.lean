import NativeStubs.Command.Basic
import NativeStubs.Config.Storage
import NativeStubs.Memory
import NativeStubs.Source
import NativeStubs.StubDirectory

/-! # Running commands

`generate` loads a configuration and a catalog and writes the stubs, to memory in a dry run.
`config` shows a configuration and may write it to a file that is not there yet. Files are reached
from the working directory `dir`.
-/

namespace NativeStubs

inductive CommandFault
  | failure (error : Error)
  | source (fault : SourceFault)
  | namespacesFailed (failed total : Nat)
  deriving DecidableEq

def CommandFault.message : CommandFault → String
  | failure error => error.message
  | source fault => fault.message
  | namespacesFailed failed total =>
    toString failed ++ " of " ++ toString total ++ " namespaces failed"

/-- What there is to generate. -/
structure Plan where
  config : Config
  catalog : Catalog

namespace Plan

/-- Generates to memory. -/
def rehearse (p : Plan) : Except Error Report × Memory :=
  (p.config.generator.run Memory.writer p.catalog : StateM Memory _).run {}

/-- What a report says about the plan. -/
def judge (p : Plan) : Except Error Report → Except CommandFault Report
  | .error error => .error (.failure error)
  | .ok r =>
    if r.isSuccess then .ok r else .error (.namespacesFailed r.failed.length p.catalog.size)

variable {m : Type → Type} [Monad m] [FileSystem m]

/-- Generates to the output directory. -/
def carryOut (p : Plan) : m (Except Error Report) :=
  p.config.generator.run (StubDirectory.writer ⟨p.config.outputDir⟩) p.catalog

end Plan

namespace GenerateOptions

variable {m : Type → Type} [Monad m] [FileSystem m] [Network] (o : GenerateOptions)

/-- The configuration with the output directory that is asked for. -/
def override (c : Config) : Config := { c with outputDir := o.output.getD c.outputDir }

def sources (c : Config) : List Source :=
  if o.inputs.isEmpty && o.urls.isEmpty then c.sources.map .ofLocation
  else o.inputs.map .file ++ o.urls.map .url

def plan (dir : String) : m (Except CommandFault Plan) := do
  match ← Config.loadOrDefault o.config dir with
  | .error error => pure (.error (.failure error))
  | .ok c =>
    match ← Source.loadAll (o.sources c) with
    | .error fault => pure (.error (.source fault))
    | .ok catalog => pure (.ok ⟨o.override c, catalog⟩)

/-- Generates the stubs. -/
def run (dir : String) : m (Except CommandFault Report) := do
  match ← o.plan dir with
  | .error fault => pure (.error fault)
  | .ok p =>
    if o.dryRun then pure (p.judge p.rehearse.1)
    else p.judge <$> p.carryOut

end GenerateOptions

namespace ConfigOptions

variable {m : Type → Type} [Monad m] [FileSystem m] (o : ConfigOptions)

def saveIfMissing (c : Config) (dir : String) : m (Except Error Unit) := do
  let path := Path.join dir Config.fileName
  if ← FileSystem.exists? path then pure (.ok ()) else c.save path

/-- Writes the configuration if that is asked for, and gives its document. -/
def run (dir : String) : m (Except CommandFault String) := do
  match ← Config.loadOrDefault o.config dir with
  | .error error => pure (.error (.failure error))
  | .ok c =>
    match ← if o.init then saveIfMissing c dir else pure (.ok ()) with
    | .error error => pure (.error (.failure error))
    | .ok () => pure (.ok c.toToml)

end ConfigOptions

inductive Outcome
  | done (output : String)
  | failed (fault : CommandFault)
  | stopped (reason : Stop)
  deriving DecidableEq

namespace Outcome

def code : Outcome → Nat
  | done _ | stopped .help => 0
  | failed _ => 1
  | stopped (.misuse _) => 2

def output : Outcome → String
  | done output => output
  | failed _ | stopped _ => ""

def ofResult : Except CommandFault String → Outcome
  | .ok output => done output
  | .error fault => failed fault

end Outcome

namespace Command

variable {m : Type → Type} [Monad m] [FileSystem m] [Network]

/-- Runs a command. -/
def run (dir : String) : Command → m (Except CommandFault String)
  | generate o => (Except.map fun _ => "") <$> o.run dir
  | config o => o.run dir

def runLine (dir : String) (arguments : List String) : m Outcome :=
  match parse arguments with
  | .error reason => pure (.stopped reason)
  | .ok command => .ofResult <$> command.run dir

end Command

end NativeStubs
