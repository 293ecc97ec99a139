import MonitorFeed.Text.Quoted

/-!
The commands of the command line.
-/

namespace MonitorFeed

/-- What the command line asks for; some commands name the file of a document. -/
inductive Command where
  | connect
  | sendMetrics (file : String)
  | listMetrics
  | syncInventory (file : String)
  | testResource (file : String)
  | disconnect
  | run
deriving Repr, DecidableEq

namespace Command

/-- Whether a command connects before its operation and disconnects after it. -/
def needsSession : Command → Bool
  | .sendMetrics _ | .listMetrics | .syncInventory _ | .testResource _ => true
  | .connect | .disconnect | .run => false

/-- A command with a file, for diagnostics. -/
def describeFile (name file : String) : String :=
  Text.record name [("file", Text.quoted file)]

/-- The command for diagnostics. -/
def describe : Command → String
  | .connect => "Connect"
  | .sendMetrics file => describeFile "SendMetrics" file
  | .listMetrics => "ListMetrics"
  | .syncInventory file => describeFile "SyncInventory" file
  | .testResource file => describeFile "TestResource" file
  | .disconnect => "Disconnect"
  | .run => "Run"

end Command

end MonitorFeed
