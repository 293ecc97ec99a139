import MonitorFeed.Backend.Basic
import MonitorFeed.Payload.Credentials
import MonitorFeed.Payload.Descriptor
import MonitorFeed.Payload.Inventory

/-!
The client: values go out as their documents, and documents that come back are read as values. Every
fault is logged once, where it arises.
-/

namespace MonitorFeed.Client

variable {σ : Type}

/-- An event of the client. -/
def event (level : Level) (message : String) (details : List (String × Detail)) : Event :=
  ⟨level, .client, message, details⟩

/-- Passes a result on, and logs the fault if it is one. -/
def logged {α : Type} (operation : Operation) (result : Except ClientError α) :
    Session σ (Except ClientError α) := do
  if let .error fault := result then
    Session.log (event .warn "Transit call failed"
      [("operation", .text operation.symbol), ("error", .text fault.message)])
  return result

/-- Makes a call for the text of its answer. A call that crashes takes its worker with it before
anything can be logged. -/
def ask (around : Surroundings σ) (call : Call) : Session σ (Except ClientError String) := do
  match ← Session.call around call with
  | .answered text => return .ok text
  | .failed fault => logged call.operation (.error fault)
  | .crashed report => return .error (.worker report)

/-- Makes a call whose answer says nothing. -/
def request (around : Surroundings σ) (call : Call) : Session σ (Except ClientError Unit) := do
  return (← ask around call).map fun _ => ()

/-- Reads the text of an answer. -/
def understand {α : Type} (operation : Operation) (read : Except Json.Error α) :
    Session σ (Except ClientError α) :=
  logged operation (read.mapError fun fault => .ofDocument (.json fault))

/-- Opens the session of an account. -/
def connect (around : Surroundings σ) (account : Credentials) :
    Session σ (Except ClientError Unit) := do
  Session.log (event .debug "Connecting to transit" [("user", .text account.user)])
  request around (.connect (Document.encode account))

/-- Delivers a report. -/
def send (around : Surroundings σ) (report : Report) : Session σ (Except ClientError Unit) := do
  let text := Document.encode report
  Session.log (event .debug "Sending resources with metrics"
    [("resources", .count report.resources.length), ("bytes", .count text.utf8ByteSize)])
  request around (.send text)

/-- Asks for the metrics that the pipeline knows. -/
def listMetrics (around : Surroundings σ) :
    Session σ (Except ClientError (List MetricDescriptor)) := do
  match ← ask around .list with
  | .error fault => return .error fault
  | .ok text =>
    match ← understand .list (Document.decodeList text) with
    | .error fault => return .error fault
    | .ok metrics =>
      Session.log (event .debug "Listed metrics" [("count", .count metrics.length)])
      return .ok metrics

/-- Replaces the inventory that the pipeline holds. -/
def synchronize (around : Surroundings σ) (inventory : Inventory) :
    Session σ (Except ClientError Unit) := do
  Session.log (event .debug "Synchronizing inventory"
    [("resources", .count inventory.resources.length), ("groups", .count inventory.groups.length)])
  request around (.synchronize (Document.encode inventory))

/-- Closes the session. -/
def disconnect (around : Surroundings σ) : Session σ (Except ClientError Unit) := do
  Session.log (event .debug "Disconnecting from transit" [])
  request around .disconnect

/-- Closes the session on behalf of a part of the program; a fault is logged there and changes
nothing. -/
def close (around : Surroundings σ) (source : Source) : Session σ Unit := do
  if let .error fault ← disconnect around then
    Session.log ⟨.warn, source, "Error disconnecting from transit", [("error", .text fault.message)]⟩

/-- Sends a resource to and fro. -/
def test (around : Surroundings σ) (resource : Resource) :
    Session σ (Except ClientError Resource) := do
  match ← ask around (.test (Document.encode resource)) with
  | .error fault => return .error fault
  | .ok text => understand .test (Document.decode text)

end MonitorFeed.Client
