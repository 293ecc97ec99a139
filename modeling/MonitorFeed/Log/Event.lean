import MonitorFeed.Decimal.Integer
import MonitorFeed.Decimal.Shortest

/-!
Log events: what happened, where, and with which particulars.
-/

namespace MonitorFeed

/-- How much an event matters, least first. -/
inductive Level where
  | trace
  | debug
  | info
  | warn
  | error
deriving Repr, DecidableEq

namespace Level

def name : Level → String
  | .trace => "TRACE"
  | .debug => "DEBUG"
  | .info => "INFO"
  | .warn => "WARN"
  | .error => "ERROR"

/-- The place of a level in the order of importance. -/
def rank : Level → Nat
  | .trace => 0
  | .debug => 1
  | .info => 2
  | .warn => 3
  | .error => 4

end Level

/-- The part of the program that an event comes from. -/
inductive Source where
  | program
  | command
  | client
  | feeder
  | library
deriving Repr, DecidableEq

/-- The dotted address of a part, by which filters choose events. -/
def Source.address : Source → String
  | .program => "transit"
  | .command => "transit_cli::commands"
  | .client => "transit_client::client"
  | .feeder => "transit_client::runner"
  | .library => "transit_client::native"

/-- A particular of an event. -/
inductive Detail where
  | text (value : String)
  | count (value : Nat)
  | real (value : Float)
  | flag (value : Bool)
deriving Repr

/-- A particular as a log line shows it. -/
def Detail.shown : Detail → String
  | .text value => value
  | .count value => String.ofList (Decimal.naturalText value)
  | .real value => String.ofList (Decimal.Layout.pointed.write value)
  | .flag value => if value then "true" else "false"

/-- Something that happened. -/
structure Event where
  level : Level
  source : Source
  message : String
  details : List (String × Detail)
deriving Repr

namespace Event

/-- The names of the fields of an event: its message and its particulars. -/
def fields (event : Event) : List String :=
  "message" :: event.details.map (·.1)

/-- The particulars, each after a space. -/
def shownDetails (event : Event) : String :=
  String.join (event.details.map fun (key, detail) => " " ++ key ++ "=" ++ detail.shown)

/-- The event on one line, without its source. -/
def line (event : Event) : String :=
  event.level.name ++ " " ++ event.message ++ event.shownDetails

end Event

end MonitorFeed
