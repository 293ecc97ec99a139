import MonitorFeed.Client
import MonitorFeed.Command.Basic
import MonitorFeed.Command.Fault
import MonitorFeed.Command.Outlet
import MonitorFeed.Payload.File
import MonitorFeed.Settings.Basic

/-!
Carrying out a command. A command that needs a session connects, performs its one operation, and
disconnects whatever the operation came to.
-/

namespace MonitorFeed.Command

variable {σ : Type}

/-- How many things of a kind there are. -/
def amount (count : Nat) (kind : String) : String :=
  String.ofList (Decimal.naturalText count) ++ " " ++ kind ++ "(s)"

/-- Writes what a piece of work has to say, if it succeeded. -/
def tell (outlet : Outlet) (result : Except ClientError String) :
    Except CommandFault Unit × Outlet :=
  match result with
  | .error fault => (.error (.client fault), outlet)
  | .ok text =>
    let (written, outlet) := outlet.writeLine text
    (written.mapError .output, outlet)

/-- Delivers the report in a file; a report that nobody has stamped is stamped first. -/
def sendFile (around : Surroundings σ) (settings : Settings) (file : String) :
    Session σ (Except ClientError String) := do
  match Document.load (α := Report) (← Session.files around) file with
  | .error fault => return .error fault
  | .ok report =>
    let report ← match report.context with
      | some _ => pure report
      | none => pure (report.withContext (settings.agent.context (← Session.draw around)))
    return (← Client.send around report).map fun () =>
      "sent " ++ amount report.resources.length "resource"

/-- Delivers the inventory in a file; an inventory that nobody has stamped is stamped first. -/
def syncFile (around : Surroundings σ) (settings : Settings) (file : String) :
    Session σ (Except ClientError String) := do
  match Document.load (α := Inventory) (← Session.files around) file with
  | .error fault => return .error fault
  | .ok inventory =>
    let inventory ← match inventory.context with
      | some _ => pure inventory
      | none => pure (inventory.withContext (settings.agent.context (← Session.draw around)))
    return (← Client.synchronize around inventory).map fun () =>
      "synchronized " ++ amount inventory.resources.length "resource" ++ ", " ++
        amount inventory.groups.length "group"

/-- Sends the resource in a file to and fro. -/
def testFile (around : Surroundings σ) (file : String) :
    Session σ (Except ClientError String) := do
  match Document.load (α := Resource) (← Session.files around) file with
  | .error fault => return .error fault
  | .ok resource => return (← Client.test around resource).map Document.encodePretty

/-- Lists the metrics. -/
def listAll (around : Surroundings σ) : Session σ (Except ClientError String) := do
  return (← Client.listMetrics around).map Document.encodeListPretty

/-- Works within a session of its own. -/
def inSession (around : Surroundings σ) (settings : Settings) (outlet : Outlet)
    (work : Session σ (Except ClientError String)) :
    Session σ (Except CommandFault Unit × Outlet) := do
  match ← Client.connect around settings.credentials with
  | .error fault => return (.error (.client fault), outlet)
  | .ok () =>
    let told := tell outlet (← work)
    Client.close around .command
    return told

/-- Carries out a command. -/
def execute (around : Surroundings σ) (settings : Settings) (outlet : Outlet) :
    Command → Session σ (Except CommandFault Unit × Outlet)
  | .connect => do
    let result ← Client.connect around settings.credentials
    return tell outlet (result.map fun () => "connected as " ++ settings.credentials.user)
  | .disconnect => do
    let result ← Client.disconnect around
    return tell outlet (result.map fun () => "disconnected")
  | .run => return (.error .notHere, outlet)
  | .sendMetrics file => inSession around settings outlet (sendFile around settings file)
  | .listMetrics => inSession around settings outlet (listAll around)
  | .syncInventory file => inSession around settings outlet (syncFile around settings file)
  | .testResource file => inSession around settings outlet (testFile around file)

end MonitorFeed.Command
