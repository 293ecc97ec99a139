import MonitorFeed.Command.Execute
import MonitorFeed.Command.Line
import MonitorFeed.Feeder.Run
import MonitorFeed.Library.Loader
import MonitorFeed.Log.Filter
import MonitorFeed.Log.Layout

/-!
The program: the settings are read, the library is loaded, and the command is carried out. What it
leaves is an exit code, what it wrote, and the log with the report of a failure.
-/

namespace MonitorFeed.Program

variable {σ : Type}

/-- What the program finds in its environment: the name of the host, and the filter of the log that
goes before the one in the settings. -/
structure Environment where
  hostname : Option String
  logFilter : Option String

/-- An event of the program itself. -/
def event (message : String) (details : List (String × Detail)) : Event :=
  ⟨.info, .program, message, details⟩

/-- Runs the feeder; it is not over if the feeder never ends. -/
def runFeeder (around : Surroundings σ) (settings : Settings) :
    Session σ (Option (Except CommandFault Unit)) := do
  let feeder : Feeder := ⟨Feeder.defaultName, settings⟩
  Session.log feeder.created
  match ← feeder.run around none with
  | none => return none
  | some (.error fault) => return some (.error (.client fault))
  | some (.ok stats) =>
    Session.log (event "Feeder stopped"
      [("cycles", .count stats.cycles), ("success_rate", .real stats.successRate)])
    return some (.ok ())

/-- What the program does with its settings. -/
def work (around : Surroundings σ) (loader : Library.Loader) (settings : Settings)
    (command : Command) : Session σ (Option (Except CommandFault Unit × Outlet)) := do
  let outlet := Outlet.unlimited
  Session.log (event "Starting transit"
    [("library", .text settings.library.path), ("command", .text command.describe),
      ("session", .flag command.needsSession)])
  match Library.load loader settings.library.path with
  | .error fault => return some (.error (.client fault), outlet)
  | .ok loaded =>
    Session.log loaded
    match command with
    | .run => return (← runFeeder around settings).map (·, outlet)
    | command => return some (← command.execute around settings outlet)

/-- How the program ends. -/
structure Ending (σ : Type) where
  code : Nat
  output : String
  diagnostics : String
  state : σ

/-- The report of a result. -/
def reportOf : Except CommandFault Unit → String
  | .ok () => ""
  | .error fault => fault.report

/-- The exit code of a result. -/
def codeOf : Except CommandFault Unit → Nat
  | .ok () => 0
  | .error _ => 1

/-- The lines of a log that its filter admits. -/
def writeLog (time : String) (filter : LogFilter) (format : LogFormat) (log : List Event) : String :=
  String.join ((log.filter filter.admits).map fun event => event.write format time ++ "\n")

/-- Runs the program on a command line, with every log line stamped with one time. There is no
ending if the program never ends. -/
def run (around : Surroundings σ) (loader : Library.Loader) (environment : Environment)
    (time : String) (line : CommandLine) (state : σ) : Option (Ending σ) :=
  match line.overrides.load environment.hostname (around.storage state) with
  | .error fault =>
    some ⟨1, "", (CommandFault.settings line.overrides.config fault).report, state⟩
  | .ok settings =>
    let (ended, progress) := (work around loader settings line.command).run (.start state)
    ended.map fun (result, outlet) =>
      let (filter, complaints) := LogFilter.choose environment.logFilter settings.logging.level
      ⟨codeOf result, outlet.text,
        complaints ++ writeLog time filter settings.logging.format progress.log ++ reportOf result,
        progress.state⟩

end MonitorFeed.Program
