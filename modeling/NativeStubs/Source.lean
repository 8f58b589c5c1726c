import NativeStubs.Catalog
import NativeStubs.Files.System

/-! # Sources

A source is where a catalog document comes from: a file, or a URL. Of several sources, those that
cannot be loaded are left out and the catalogs of the others are merged in order.
-/

namespace NativeStubs

/-- How a request for a document fails. -/
inductive DownloadFault
  | unanswered
  | rejected
  | unreadable
  deriving DecidableEq, Repr

/-- What the servers answer while a command runs. -/
class Network where
  download : String → Except DownloadFault String

/-- Unless a network is given, no request is answered. -/
instance (priority := low) Network.offline : Network where
  download _ := .error .unanswered

inductive Source
  | file (path : String)
  | url (address : String)
  deriving DecidableEq, Repr

inductive SourceFault
  | unreadable (path : String) (fault : FileFault)
  | download (address : String) (fault : DownloadFault)
  | invalid (source : Source) (error : Error)
  | noneConfigured
  | noneLoaded
  deriving DecidableEq

namespace Source

def schemes : List String := ["http://", "https://"]

/-- The source at a location: a URL if it starts like one, a file otherwise. -/
def ofLocation (location : String) : Source :=
  if schemes.any fun scheme => scheme.toList.isPrefixOf location.toList then .url location
  else .file location

def location : Source → String
  | file path => path
  | url address => address

end Source

namespace SourceFault

def message : SourceFault → String
  | unreadable path _ => "Failed to read catalog " ++ path
  | download address .unanswered => "Failed to fetch " ++ address
  | download address .rejected => "Catalog request to " ++ address ++ " was rejected"
  | download address .unreadable => "Failed to read response body from " ++ address
  | invalid source _ => "Invalid catalog from " ++ source.location
  | noneConfigured => "No catalog sources configured"
  | noneLoaded => "No catalog could be loaded"

/-- The error of the document behind a source fault. -/
def cause? : SourceFault → Option Error
  | invalid _ error => some error
  | _ => none

end SourceFault

namespace Source

variable {m : Type → Type} [Monad m] [FileSystem m] [Network]

def fetch : Source → m (Except SourceFault String)
  | file path => do
    match ← FileSystem.readText path with
    | .ok text => pure (.ok text)
    | .error fault => pure (.error (.unreadable path fault))
  | url address => pure ((Network.download address).mapError (.download address))

def load (source : Source) : m (Except SourceFault Catalog) := do
  match ← source.fetch with
  | .error fault => pure (.error fault)
  | .ok text =>
    match Catalog.parse text with
    | .ok c => pure (.ok c)
    | .error error => pure (.error (.invalid source error))

/-- A catalog with what one more source gave. -/
def absorb (merged : Option Catalog) : Except SourceFault Catalog → Option Catalog
  | .error _ => merged
  | .ok c => some ((merged.map (·.merge c)).getD c)

def loadInto (merged : Option Catalog) : List Source → m (Option Catalog)
  | [] => pure merged
  | source :: rest => do
    let result ← source.load
    loadInto (absorb merged result) rest

/-- The catalog of some sources. At least one of them has to load. -/
def loadAll (sources : List Source) : m (Except SourceFault Catalog) :=
  if sources.isEmpty then pure (.error .noneConfigured)
  else do
    match ← loadInto none sources with
    | some c => pure (.ok c)
    | none => pure (.error .noneLoaded)

end Source

end NativeStubs
