import NativeStubs.Command.Option

/-! # Commands

The first argument names the command and the others are its options.
-/

namespace NativeStubs

/-- What to generate from, and where to. -/
structure GenerateOptions where
  inputs : List String := []
  urls : List String := []
  output : Option String := none
  config : Option String := none
  dryRun : Bool := false
  deriving DecidableEq, Repr

/-- Which configuration to show, and whether to write it to a file. -/
structure ConfigOptions where
  config : Option String := none
  init : Bool := false
  deriving DecidableEq, Repr

/-- What can be asked for. -/
inductive Command
  | generate (options : GenerateOptions)
  | config (options : ConfigOptions)
  deriving DecidableEq, Repr

def GenerateOptions.table : OptionTable GenerateOptions where
  options := [.input, .url, .output, .config, .dryRun, .help]
  set option value a :=
    match option with
    | .input => .ok { a with inputs := a.inputs ++ [value] }
    | .url => .ok { a with urls := a.urls ++ [value] }
    | .output =>
      if a.output.isSome then .error (.repeatedOption .output)
      else .ok { a with output := some value }
    | .config =>
      if a.config.isSome then .error (.repeatedOption .config)
      else .ok { a with config := some value }
    | .dryRun =>
      if a.dryRun then .error (.repeatedOption .dryRun) else .ok { a with dryRun := true }
    | .init | .help => .ok a

def ConfigOptions.table : OptionTable ConfigOptions where
  options := [.config, .init, .help]
  set option value a :=
    match option with
    | .config =>
      if a.config.isSome then .error (.repeatedOption .config)
      else .ok { a with config := some value }
    | .init => if a.init then .error (.repeatedOption .init) else .ok { a with init := true }
    | .input | .url | .output | .dryRun | .help => .ok a

namespace Command

def names : List String := ["generate", "config", "help"]

/-- What the arguments of `help` ask for. At most one command can be named. -/
def parseHelp : List String → Stop
  | [] => .help
  | name :: rest =>
    if name ∉ names then .misuse (.unknownCommand name)
    else match rest with
      | [] => .help
      | next :: _ => .misuse (.unknownCommand next)

/-- What the first argument asks for if it names no command. -/
def parseFirst (text : String) : Stop :=
  match Argument.ofText text with
  | .long "help" none | .short 'h' _ => .help
  | .plain _ => .misuse (.unknownCommand text)
  | _ => .misuse (.unexpectedArgument text)

def parse : List String → Except Stop Command
  | [] => .error (.misuse .missingCommand)
  | "generate" :: rest => .generate <$> GenerateOptions.table.parse {} rest
  | "config" :: rest => .config <$> ConfigOptions.table.parse {} rest
  | "help" :: rest => .error (parseHelp rest)
  | text :: _ => .error (parseFirst text)

end Command

end NativeStubs
