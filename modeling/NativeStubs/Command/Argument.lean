/-! # Command-line arguments

An option has a long name, written after two dashes, and may have a one-letter name, written after
one. Its value is the next argument or is attached: after `=`, or right after the letter.
-/

namespace NativeStubs

/-- The shapes of an argument. -/
inductive Argument
  | plain (text : String)
  | separator
  | long (name : String) (value : Option String)
  | short (letter : Char) (value : Option String)
  deriving DecidableEq, Repr

namespace Argument

/-- What follows the first `=`, and what precedes it. -/
def splitValue : List Char → List Char × Option (List Char)
  | [] => ([], none)
  | c :: s =>
    if c = '=' then ([], some s)
    else (c :: (splitValue s).1, (splitValue s).2)

def attachedValue? : List Char → Option (List Char)
  | [] => none
  | '=' :: s => some s
  | s => some s

def ofText (text : String) : Argument :=
  match text.toList with
  | ['-', '-'] => separator
  | '-' :: '-' :: s =>
    let (name, value) := splitValue s
    long (String.ofList name) (value.map String.ofList)
  | '-' :: letter :: s => short letter ((attachedValue? s).map String.ofList)
  | _ => plain text

def isPlain : Argument → Bool
  | plain _ => true
  | _ => false

end Argument

end NativeStubs
