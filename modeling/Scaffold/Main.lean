import Scaffold.CommandLine.Program

/-!
# The command line

File operations of the system, and the entry point of the program.
-/

namespace Scaffold

/-- The error that the system reports. -/
def IoError.ofSystem : IO.Error → IoError
  | .noFileOrDirectory .. => .notFound
  | .alreadyExists .. => .alreadyExists
  | .permissionDenied .. => .permissionDenied
  | e => .other e.toString

/-- Runs an operation of the system. -/
def attempt {α : Type} (x : IO α) : IO (Except IoError α) := do
  match ← x.toBaseIO with
  | .ok a => return .ok a
  | .error e => return .error (.ofSystem e)

/-- Whether a file may not be written. -/
def isReadOnly (p : String) : IO Bool := do
  match ← (IO.FS.Handle.mk p .readWrite).toBaseIO with
  | .error (.permissionDenied ..) => return true
  | _ => return false

/-- The rights on a file that may not be written. -/
def readOnlyRights : IO.FileRight :=
  { user.read := true, group.read := true, other.read := true }

instance : Files IO where
  read p := attempt (IO.FS.readBinFile p)
  list p := attempt do
    let place ← IO.FS.realPath p
    return (← place.readDir).toList.map (·.fileName)
  isDir p := attempt do
    let place ← IO.FS.realPath p
    place.isDir
  createDir p := attempt (IO.FS.createDir p)
  write p bytes := attempt (IO.FS.writeBinFile p bytes)
  copy source target := attempt do
    let _ ← IO.FS.readBinFile source
    IO.FS.writeBinFile target .empty
    IO.FS.writeBinFile target (← IO.FS.readBinFile source)
    if ← isReadOnly source then
      IO.setAccessRights target readOnlyRights
  fullName p := attempt do
    let place ← IO.FS.realPath p
    return place.fileName

namespace CommandLine

/-- The name and the version of the program. -/
def versionText : String := "protoforge 0.2.0"

/-- How the program is used. -/
def helpText : String :=
  "Usage: protoforge [OPTIONS] generate [OPTIONS] --templates <TEMPLATES> <ROOT>\n\n"
    ++ "Options of generate:\n"
    ++ "  -t, --templates <TEMPLATES>  Template tree to expand\n"
    ++ "  -o, --output <OUTPUT>        Output directory. Defaults to the project root\n"
    ++ "  -a, --arg <KEY=VALUE>        Path substitution, also visible to templates (repeatable)\n"
    ++ "  -v, --verbose                Log at debug level\n"
    ++ "  -h, --help                   Print help\n"

/-- The message for wrong arguments. -/
def UsageError.message : UsageError → String
  | .missingArgument => "the following required arguments were not provided"
  | .unknownArgument => "unexpected argument found"
  | .unknownCommand => "unrecognized subcommand"
  | .missingCommand => "a subcommand is required but one was not provided"
  | .missingValue => "a value is required but none was supplied"
  | .invalidSubstitution cause => "invalid value for '--arg <KEY=VALUE>': " ++ cause.message
  | .repeated => "the argument cannot be used multiple times"
  | .unneededValue => "unexpected value for an argument that takes none"
  | .help => helpText
  | .version => versionText
  | .nothing => helpText

/-- Tells the user how the program ends. -/
def report (ending : Ending) : IO Unit := do
  for line in ending.lines do
    IO.println line
  match ending.usage, ending.failure with
  | some .help, _ => IO.println helpText
  | some .version, _ => IO.println versionText
  | some e, _ => IO.eprintln ("error: " ++ e.message)
  | none, some e => IO.eprintln ("Error: " ++ e.message)
  | none, none => return

end CommandLine

end Scaffold

/-- Runs the program on the arguments of the command line. -/
def main (args : List String) : IO UInt32 := do
  let filterText ← IO.getEnv "RUST_LOG"
  let ending ← Scaffold.CommandLine.run args filterText
  Scaffold.CommandLine.report ending
  return ending.code.toUInt32
