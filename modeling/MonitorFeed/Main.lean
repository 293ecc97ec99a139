import MonitorFeed.Command.Program
import MonitorFeed.Payload.Token

/-!
The command line. It reads the arguments, the environment and the configuration file, hands them to
the program, and writes what the program leaves. There is no loader of shared libraries here, so
every library is reported as one that cannot be loaded, and the program ends before it makes a call.
-/

namespace MonitorFeed.Main

/-- The code of the fault that a directory is read like a file. -/
def directoryCode : UInt32 := 21

/-- What a fault of the file system says about a path. -/
def lookupOf : IO.Error → Lookup
  | .noFileOrDirectory .. => .missing .notFound
  | .inappropriateType _ code _ =>
    if code = directoryCode then .directory else .missing .notDirectory
  | .permissionDenied name code details =>
    .unreadable (.other (IO.Error.permissionDenied name code details).toString)
  | error => .missing (.other error.toString)

/-- What a path leads to now. -/
def lookUp (path : String) : IO Lookup := do
  try
    return .file (← IO.FS.readBinFile path).toList
  catch error => return lookupOf error

/-- What is said of a command line with a fault. -/
def usage : String :=
  "usage: transit [--config FILE] [--log-level LEVEL] [--library FILE] COMMAND\n" ++
  "commands: connect, send-metrics FILE, list-metrics, sync-inventory FILE,\n" ++
  "  test-resource FILE, disconnect, run\n"

/-- Tells what is wrong with a command line. -/
def tellFault (fault : LineFault) : IO Unit :=
  match fault with
  | .versionWanted => IO.print (CommandLine.version ++ "\n")
  | .helpWanted => IO.print usage
  | _ => IO.eprint usage

/-- Surroundings in which nothing can be called. -/
def surroundings (storage : Storage) : Surroundings Unit where
  respond call _ := ⟨.failed (.library call.operation.symbol), [], ()⟩
  storage _ := storage
  draw := Draw.numbered 0 .epoch

/-- The refusal of every library. -/
def loader : Library.Loader := fun _ => .error "shared libraries cannot be loaded"

/-- Runs the program. -/
def run (line : CommandLine) : IO UInt32 := do
  let config ← lookUp line.overrides.config
  let storage : Storage := fun path =>
    if path = line.overrides.config then config else .missing .notFound
  let environment : Program.Environment := ⟨← IO.getEnv "HOSTNAME", ← IO.getEnv "RUST_LOG"⟩
  let time := toString (← IO.monoMsNow) ++ "ms"
  match Program.run (surroundings storage) loader environment time line () with
  | none => return 0
  | some ending =>
    IO.print ending.output
    IO.eprint ending.diagnostics
    return ending.code.toUInt32

end MonitorFeed.Main

def main (arguments : List String) : IO UInt32 := do
  match MonitorFeed.CommandLine.read arguments with
  | .error fault =>
    MonitorFeed.Main.tellFault fault
    return fault.exitCode.toUInt32
  | .ok line => MonitorFeed.Main.run line
