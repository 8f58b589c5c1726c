/-! # Types of a declaration

A catalog spells the types of a native in the terms of the platform. A declaration knows eight
types; handles of every sort are numbers, and a token that is not in the table is `any`.
-/

namespace NativeStubs

/-- A type as a declaration names it. -/
inductive TypeName
  | vector3
  | string
  | void
  | boolean
  | table
  | function
  | number
  | any
  deriving DecidableEq, Repr

namespace TypeName

def text : TypeName → String
  | vector3 => "vector3"
  | string => "string"
  | void => "void"
  | boolean => "boolean"
  | table => "table"
  | function => "function"
  | number => "number"
  | any => "any"

/-- The tokens for numbers and for handles, which are numbers too. -/
def numberTokens : List String :=
  ["ped", "vehicle", "entity", "float", "long", "uint", "int", "player", "blip", "cam", "fireid",
   "pickup", "hash", "object_1", "decisionmaker", "cargenerator", "group", "train", "weapon",
   "interior", "texture", "texturedict", "coverpoint", "camera", "tasksequence", "sphere",
   "scrhandle", "itemset", "animscene", "perschar", "popzone", "prompt", "propset", "volume"]

/-- A token with its ASCII letters in lower case. -/
def foldCase (token : String) : String := String.ofList (token.toList.map Char.toLower)

def ofLower (token : String) : TypeName :=
  if token = "vector3" then vector3
  else if token = "string" ∨ token = "char" then string
  else if token = "void" then void
  else if token = "bool" then boolean
  else if token = "object" then table
  else if token = "func" then function
  else if token ∈ numberTokens then number
  else any

/-- The type of a token, whatever the case of its ASCII letters. -/
def ofToken (token : String) : TypeName := ofLower (foldCase token)

theorem text_injective {a b : TypeName} (h : a.text = b.text) : a = b := by
  cases a <;> cases b <;> simp [text] at h ⊢

end TypeName

end NativeStubs
