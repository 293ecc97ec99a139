import MonitorFeed.Error
import MonitorFeed.Json.Writer
import MonitorFeed.Log.Event
import MonitorFeed.Settings.LogFormat

/-!
The log of a program, and the two layouts of its lines.
-/

namespace MonitorFeed

/-- Installs the log; a program has one log only. -/
def installLog (installed : Bool) : Except DocumentError Unit :=
  if installed then
    .error (.config ("Failed to initialize tracing: " ++
      "a global default trace dispatcher has already been set"))
  else .ok ()

/-- A particular as a document. -/
def Detail.toJson : Detail → Json
  | .text value => .string value
  | .count value => .integer value
  | .real value => .real value
  | .flag value => .flag value

namespace Event

/-- The event for a reader: time, level, address, message and particulars. -/
def plainLine (time : String) (event : Event) : String :=
  let level := event.level.name
  time ++ " " ++ String.ofList (List.replicate (5 - level.length) ' ') ++ level ++ " " ++
    event.source.address ++ ": " ++ event.message ++ event.shownDetails

/-- The event as a document. -/
def toJson (time : String) (event : Event) : Json :=
  .object [("timestamp", .string time), ("level", .string event.level.name),
    ("fields", .object (("message", .string event.message) ::
      event.details.map fun (key, detail) => (key, detail.toJson))),
    ("target", .string event.source.address)]

/-- The event in a layout. -/
def write (format : LogFormat) (time : String) (event : Event) : String :=
  match format with
  | .text => event.plainLine time
  | .json => String.ofList (event.toJson time).compact

end Event

end MonitorFeed
