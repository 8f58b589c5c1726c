import NativeStubs.Alias
import NativeStubs.Catalog
import NativeStubs.Config
import NativeStubs.Native.Reader
import NativeStubs.Promotion
import NativeStubs.Signature

/-! # Generating declarations

A record becomes an identifier and the text of its declaration. The declarations of a namespace
are sorted by identifier, the last one winning where two records share an identifier; a record
that cannot be declared is skipped.
-/

namespace NativeStubs

open Json

/-- The natives whose pointers are never promoted and the choices for declarations. -/
structure Generator where
  exclusions : List String
  style : Style
  deriving DecidableEq, Repr

def Config.generator (c : Config) : Generator := ⟨c.nonReturnPointerNatives, c.style⟩

/-- Declarations by identifier, in increasing order. -/
abbrev Declarations := List (String × String)

def Declarations.insert : Declarations → String → String → Declarations
  | [], identifier, text => [(identifier, text)]
  | (i, t) :: rest, identifier, text =>
    if identifier < i then (identifier, text) :: (i, t) :: rest
    else if i = identifier then (i, text) :: rest
    else (i, t) :: Declarations.insert rest identifier text

structure Skipped where
  namespaceName : String
  key : String
  error : Error
  deriving DecidableEq

/-- The declarations of a namespace and the records without one. -/
structure NamespaceOutput where
  namespaceName : String
  declarations : Declarations := []
  skipped : List Skipped := []
  deriving DecidableEq

def NamespaceOutput.text (o : NamespaceOutput) : String :=
  String.join (o.declarations.map Prod.snd)

def nonempty? (s : String) : Option String := if s.isEmpty then none else some s

namespace Generator

variable (g : Generator)

/-- The declaration of a native under its identifier, listed in a namespace. -/
def declaration (name : String) (identifier : String) (n : Native) : Declaration :=
  let promotion := Promotion.ofNative g.exclusions n identifier
  let signature := Signature.ofTokens identifier promotion.returns promotion.params
  { namespaceName := n.namespaceName.getD name
    apiset := n.apiset
    hash := n.hash
    description := n.description
    paramLines := signature.paramLines g.style.reserved
    returns := signature.returns.map TypeName.text
    functionLine := signature.functionLine g.style.reserved
    aliases := Alias.block? identifier n.allAliases }

def identifier? (n : Native) (key : String) : Option String :=
  Identifier.ofNames? (n.name.bind nonempty?) (nonempty? key)

def declare (name key : String) (record : Value) : Except Error (String × String) :=
  match Native.ofRecord record with
  | .error fault => .error (.malformedNative name key fault)
  | .ok native =>
    match identifier? native key with
    | none => .error (.missingIdentifier name key)
    | some identifier =>
      .ok (identifier, (g.declaration name identifier native).text g.style)

/-- Takes up one record of a namespace. An error that concerns more than the record is passed
on. -/
def addRecord (name : String) (o : NamespaceOutput) (key : String) (record : Value) :
    Except Error NamespaceOutput :=
  match g.declare name key record with
  | .ok (identifier, text) =>
    .ok { o with declarations := o.declarations.insert identifier text }
  | .error error =>
    if error.isPerNative then .ok { o with skipped := o.skipped ++ [⟨name, key, error⟩] }
    else .error error

def addRecords (name : String) (o : NamespaceOutput) : Fields Value → Except Error NamespaceOutput
  | [] => .ok o
  | (key, record) :: rest => do
    let o ← g.addRecord name o key record
    addRecords name o rest

/-- The output of a namespace, if it is an object. -/
def build (name : String) (v : Value) : Except Error NamespaceOutput :=
  match v with
  | .object records => g.addRecords name { namespaceName := name } records
  | _ => .error (.malformedCatalog (.namespaceNotObject name))

end Generator

end NativeStubs
