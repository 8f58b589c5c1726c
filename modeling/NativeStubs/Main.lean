import NativeStubs.Command.Run

/-! # The program

The commands on the files of the machine. Output goes to standard output, faults to standard
error.
-/

namespace NativeStubs

/-- The file fault behind an error of the machine. -/
def FileFault.ofError : IO.Error → FileFault
  | .noFileOrDirectory .. => .notFound
  | .alreadyExists .. => .alreadyExists
  | .inappropriateType _ code _ => if code = 20 then .notDirectory else .isDirectory
  | .invalidArgument _ code details =>
    if code = 36 then .nameTooLong else .other (details ++ " (os error " ++ toString code ++ ")")
  | error => .other (toString error)

/-- Does something with the file at a path. -/
def onFile {α : Type} (path : String) (action : IO α) : IO (Except FileFault α) :=
  if path.toList.contains '\x00' then pure (.error .nulInName)
  else do
    try
      return .ok (← action)
    catch error =>
      return .error (.ofError error)

/-- The files of the machine. A directory is what can be opened and not read. -/
instance : FileSystem IO where
  kind path := do
    let opened ← onFile path do
      let handle ← IO.FS.Handle.mk path .read
      handle.read 1
    match opened with
    | .ok _ => return .ok .file
    | .error .isDirectory => return .ok .directory
    | .error fault => return .error fault
  makeDirectory path := onFile path (IO.FS.createDir path)
  read path := onFile path (IO.FS.readBinFile path)
  write path bytes := onFile path (IO.FS.writeBinFile path bytes)
  append path bytes := onFile path do
    let handle ← IO.FS.Handle.mk path .append
    handle.write bytes

/-- What is printed when help is asked for. -/
def usage : String :=
  "Generate Lua declaration files from native catalogs\n\n" ++
  "Usage: natdoc <COMMAND>\n\n" ++
  "Commands:\n" ++
  "  generate  Generate one .lua declaration file per namespace\n" ++
  "    -i, --input <FILE>   Catalog JSON file (repeatable)\n" ++
  "    -u, --url <URL>      Catalog URL (repeatable)\n" ++
  "    -o, --output <DIR>   Output directory (overrides config)\n" ++
  "    -c, --config <FILE>  Configuration file [default: ./natdoc.toml]\n" ++
  "        --dry-run        Build declarations without writing any file\n" ++
  "  config    Show the effective configuration\n" ++
  "    -c, --config <FILE>  Configuration file [default: ./natdoc.toml]\n" ++
  "        --init           Write the configuration to ./natdoc.toml if it does not exist\n" ++
  "  help      Print this message\n"

end NativeStubs

/-- Runs the command that the arguments ask for. -/
def main (arguments : List String) : IO UInt32 := do
  let dir ← IO.currentDir
  let outcome : NativeStubs.Outcome ← NativeStubs.Command.runLine dir.toString arguments
  match outcome with
  | .done output => IO.print output
  | .failed fault => IO.eprintln ("Error: " ++ fault.message)
  | .stopped .help => IO.print NativeStubs.usage
  | .stopped (.misuse fault) => IO.eprintln ("error: " ++ fault.message)
  return outcome.code.toUInt32
