import NativeStubs.Native.Fault

/-! # Errors

Each error is a cause, and `message` words it.
-/

namespace NativeStubs

inductive FileFault
  | notFound
  | alreadyExists
  | notDirectory
  | isDirectory
  | nameTooLong
  | nulInName
  | notText
  | other (message : String)
  deriving DecidableEq, Repr

def FileFault.message : FileFault → String
  | notFound => "No such file or directory (os error 2)"
  | alreadyExists => "File exists (os error 17)"
  | notDirectory => "Not a directory (os error 20)"
  | isDirectory => "Is a directory (os error 21)"
  | nameTooLong => "File name too long (os error 36)"
  | nulInName => "file name contained an unexpected NUL byte"
  | notText => "stream did not contain valid UTF-8"
  | other message => message

inductive ConfigFault
  | unreadable (path : String) (fault : FileFault)
  | emptyValue (key : String)
  | other (message : String)
  deriving DecidableEq, Repr

def ConfigFault.message : ConfigFault → String
  | unreadable path fault => "Failed to read " ++ path ++ ": " ++ fault.message
  | emptyValue key => key ++ " must not be empty"
  | other message => message

inductive CatalogFault
  | notObject (kind : Json.Kind)
  | namespaceNotObject (name : String)
  | other (message : String)
  deriving DecidableEq, Repr

def CatalogFault.message : CatalogFault → String
  | notObject kind => "expected an object of namespaces, found " ++ kind.phrase
  | namespaceNotObject name => "namespace `" ++ name ++ "` is not an object"
  | other message => message

/-- What can go wrong between a catalog and its declarations. -/
inductive Error
  | io (fault : FileFault)
  | json
  | toml
  | config (fault : ConfigFault)
  | missingIdentifier (namespaceName key : String)
  | malformedNative (namespaceName key : String) (fault : RecordFault)
  | malformedCatalog (fault : CatalogFault)
  | namespaceWrite (namespaceName : String) (source : Error)
  deriving DecidableEq

namespace Error

def message : Error → String
  | io fault => "IO error: " ++ fault.message
  | json => "JSON serialization error"
  | toml => "TOML deserialization error"
  | config fault => "Configuration error: " ++ fault.message
  | missingIdentifier name _ => "Native in namespace `" ++ name ++ "` has no name and no key"
  | malformedNative name key fault =>
    "Malformed native `" ++ key ++ "` in namespace `" ++ name ++ "`: " ++ fault.message
  | malformedCatalog fault => "Malformed catalog: " ++ fault.message
  | namespaceWrite name source =>
    "Failed to write namespace `" ++ name ++ "`: " ++ source.message

/-- The errors that concern a single native. -/
def isPerNative : Error → Bool
  | missingIdentifier .. | malformedNative .. => true
  | _ => false

end Error

end NativeStubs
