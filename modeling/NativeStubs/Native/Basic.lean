import NativeStubs.Text.Blank

/-! # Natives

A native is a function of the platform as a catalog describes it.
-/

namespace NativeStubs

/-- A parameter: its name and its type token, which may carry a pointer star and `const`. -/
structure Param where
  name : String
  type : String
  deriving DecidableEq, Repr

structure Native where
  name : Option String := none
  params : List Param
  results : Option String := none
  description : Option String := none
  hash : String := ""
  namespaceName : Option String := none
  apiset : Option String := none
  aliases : List String := []
  oldNames : List String := []
  deriving DecidableEq, Repr

def voidToken : String := "void"

namespace Native

/-- The result type as declared, `void` if none is given. -/
def declaredResult (n : Native) : String :=
  match n.results with
  | some result => if Text.allBlank result then voidToken else result
  | none => voidToken

/-- Every earlier name: the aliases, then the old names. -/
def allAliases (n : Native) : List String := n.aliases ++ n.oldNames

end Native

end NativeStubs
