import NativeStubs.ReservedWords
import NativeStubs.Text.Blank
import NativeStubs.Text.Lines
import NativeStubs.TypeName

/-! # Declarations

The declaration of a native is a comment with its namespace, its documentation link, its
description and its types, then the function line and the aliases. An empty line ends it.
-/

namespace NativeStubs

/-- The choices that all declarations share. -/
structure Style where
  linkBase : String
  defaultApiset : String
  reserved : ReservedWords
  deriving DecidableEq, Repr

namespace Style

/-- What the hash of a native is appended to. -/
def defaultLinkBase : String := "https://docs.fivem.net/natives/?_"

/-- The API set of a native that declares none. -/
def clientApiset : String := "client"

end Style

structure Declaration where
  namespaceName : String
  apiset : Option String
  hash : String
  description : Option String
  paramLines : String
  returns : List String
  functionLine : String
  aliases : Option String
  deriving DecidableEq, Repr

namespace Declaration

/-- The description of a native that has none. -/
def missingDescription : String := "This native does not have an official description."

/-- The line for the values returned, if there are any: `void` stands for none. -/
def returnLine? (returns : List String) : Option String :=
  match returns.filter (· ≠ TypeName.void.text) with
  | [] => none
  | values => some ("---@return " ++ String.intercalate ", " values)

/-- A description to show: one that is not blank. -/
def shownDescription (description : Option String) : String :=
  match description with
  | some text => if Text.allBlank text then missingDescription else text
  | none => missingDescription

def commentLine (line : List Char) : String := "---" ++ String.ofList line ++ "\n"

def descriptionLines (description : Option String) : String :=
  String.join ((Text.lines (shownDescription description).toList).map commentLine)

/-- The two lines above the description. -/
def header (style : Style) (d : Declaration) : String :=
  "---**`" ++ d.namespaceName ++ "` `" ++ d.apiset.getD style.defaultApiset ++ "`**  \n" ++
    "---[Native Documentation](" ++ style.linkBase ++ d.hash ++ ")  \n"

def text (style : Style) (d : Declaration) : String :=
  d.header style ++ descriptionLines d.description ++ d.paramLines ++
    (match returnLine? d.returns with
      | some line => line ++ "\n"
      | none => "") ++
    d.functionLine ++ "\n" ++ d.aliases.getD "" ++ "\n"

end Declaration

end NativeStubs
