import NativeStubs.Declaration
import NativeStubs.Error
import NativeStubs.Promotion

/-! # Configurations

A configuration names the sources, the output directory and the choices that all declarations
share. Every value has a default.
-/

namespace NativeStubs

/-- What the generator can be told. -/
structure Config where
  docUrlPrefix : String := Style.defaultLinkBase
  defaultApiset : String := Style.clientApiset
  nonReturnPointerNatives : List String := releasingNatives
  reservedWords : List String := ReservedWords.keywords
  outputDir : String := "natives"
  sources : List String :=
    ["https://runtime.fivem.net/doc/natives.json", "https://runtime.fivem.net/doc/natives_cfx.json"]
  deriving DecidableEq, Repr

namespace Config

/-- Refuses a configuration whose declarations could not be used. -/
def validate (c : Config) : Except Error Unit :=
  if Text.allBlank c.docUrlPrefix then .error (.config (.emptyValue "doc_url_prefix"))
  else if Text.allBlank c.defaultApiset then .error (.config (.emptyValue "default_apiset"))
  else if c.outputDir.isEmpty then .error (.config (.emptyValue "output_dir"))
  else .ok ()

def style (c : Config) : Style := ⟨c.docUrlPrefix, c.defaultApiset, ⟨c.reservedWords⟩⟩

end Config

end NativeStubs
