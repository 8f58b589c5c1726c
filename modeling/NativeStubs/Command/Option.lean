import NativeStubs.Command.Argument

/-! # Options

Options are read from left to right into the settings of a command. Reading stops at the first
misuse and at a request for help.
-/

namespace NativeStubs

/-- The options of the commands. -/
inductive OptionName
  | input
  | url
  | output
  | config
  | dryRun
  | init
  | help
  deriving DecidableEq, Repr

inductive UsageFault
  | missingCommand
  | unknownCommand (name : String)
  | unexpectedArgument (text : String)
  | missingValue (option : OptionName)
  | emptyValue (option : OptionName)
  | unexpectedValue (option : OptionName)
  | repeatedOption (option : OptionName)
  deriving DecidableEq, Repr

/-- Why reading a command line ends early. -/
inductive Stop
  | help
  | misuse (fault : UsageFault)
  deriving DecidableEq, Repr

namespace OptionName

def long : OptionName → String
  | input => "input"
  | url => "url"
  | output => "output"
  | config => "config"
  | dryRun => "dry-run"
  | init => "init"
  | help => "help"

def letter? : OptionName → Option Char
  | input => some 'i'
  | url => some 'u'
  | output => some 'o'
  | config => some 'c'
  | help => some 'h'
  | dryRun | init => none

def takesValue : OptionName → Bool
  | input | url | output | config => true
  | dryRun | init | help => false

/-- The value names a file or a directory, and so is not empty. -/
def takesPath : OptionName → Bool
  | input | output | config => true
  | url | dryRun | init | help => false

end OptionName

namespace UsageFault

def message : UsageFault → String
  | missingCommand => "a command is required"
  | unknownCommand name => "there is no command " ++ name
  | unexpectedArgument text => "unexpected argument " ++ text
  | missingValue option => "--" ++ option.long ++ " requires a value"
  | emptyValue option => "--" ++ option.long ++ " requires a value that is not empty"
  | unexpectedValue option => "--" ++ option.long ++ " takes no value"
  | repeatedOption option => "--" ++ option.long ++ " is given more than once"

end UsageFault

/-- The options that a command knows, and what each one, with its value, makes of the settings. -/
structure OptionTable (α : Type) where
  options : List OptionName
  set : OptionName → String → α → Except UsageFault α

namespace OptionTable

variable {α : Type} (t : OptionTable α)

def ofLong? (name : String) : Option OptionName := t.options.find? (·.long == name)

def ofLetter? (letter : Char) : Option OptionName :=
  t.options.find? (·.letter? == some letter)

def setValue (option : OptionName) (value : String) (a : α) : Except Stop α :=
  if option.takesPath && value.isEmpty then .error (.misuse (.emptyValue option))
  else (t.set option value a).mapError .misuse

def setFlag (option : OptionName) (a : α) : Except Stop α :=
  if option = .help then .error .help else (t.set option "" a).mapError .misuse

/-- The option that an argument stands for, with the value that is attached to it. -/
def resolve (text : String) : Argument → Except UsageFault (OptionName × Option String)
  | .plain _ | .separator => .error (.unexpectedArgument text)
  | .long name value =>
    match t.ofLong? name with
    | none => .error (.unexpectedArgument text)
    | some option =>
      if value.isSome && !option.takesValue then .error (.unexpectedValue option)
      else .ok (option, value)
  | .short letter value =>
    match t.ofLetter? letter with
    | none => .error (.unexpectedArgument text)
    | some option => .ok (option, value)

/-- Reads arguments into settings. `pending` is an option that waits for its value. -/
def read : (pending : Option OptionName) → α → List String → Except Stop α
  | none, a, [] => .ok a
  | some option, _, [] => .error (.misuse (.missingValue option))
  | some option, a, text :: rest =>
    if (Argument.ofText text).isPlain then do
      let a ← t.setValue option text a
      read none a rest
    else .error (.misuse (.missingValue option))
  | none, a, text :: rest =>
    match Argument.ofText text, rest with
    | .separator, [] => .ok a
    | .separator, next :: _ => .error (.misuse (.unexpectedArgument next))
    | argument, rest =>
      match t.resolve text argument with
      | .error fault => .error (.misuse fault)
      | .ok (option, value) =>
        if option.takesValue then
          match value with
          | none => read (some option) a rest
          | some value => do
            let a ← t.setValue option value a
            read none a rest
        else do
          let a ← t.setFlag option a
          read none a rest

/-- Reads arguments into the settings of a command that is given no options. -/
def parse (defaults : α) (arguments : List String) : Except Stop α :=
  t.read none defaults arguments

end OptionTable

end NativeStubs
