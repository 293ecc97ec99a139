import MonitorFeed.Backend.Basic
import MonitorFeed.Json.Tree
import MonitorFeed.Json.Writer

/-!
A stand-in for the pipeline that answers as it is told and remembers every call.
-/

namespace MonitorFeed

/-- A stand-in: the calls seen, the failures that operations are to report, the text that a listing
returns, and the text that a test returns in place of an echo. -/
structure StandIn where
  calls : List Call
  failures : Operation → Option String
  listing : String
  echo : Option String

namespace StandIn

/-- A stand-in whose every operation succeeds, with an empty listing. -/
def fresh : StandIn := ⟨[], fun _ => none, "[]", none⟩

/-- Lets an operation fail from now on. -/
def fail (double : StandIn) (operation : Operation) (text : String) : StandIn :=
  { double with
    failures := fun asked => if asked = operation then some text else double.failures asked }

/-- Lets an operation succeed again. -/
def recover (double : StandIn) (operation : Operation) : StandIn :=
  { double with
    failures := fun asked => if asked = operation then none else double.failures asked }

@[simp] theorem failures_fail (double : StandIn) (operation asked : Operation) (text : String) :
    (double.fail operation text).failures asked =
      if asked = operation then some text else double.failures asked := rfl

@[simp] theorem failures_recover (double : StandIn) (operation asked : Operation) :
    (double.recover operation).failures asked =
      if asked = operation then none else double.failures asked := rfl

/-- The status that an echoed resource has. -/
def echoStatus : String := "SERVICE_PENDING"

/-- A document with the status of an echo; a document without members has none. -/
def markPending : Json → Json
  | .object members => .object (insertEntry "status" (.string echoStatus) members)
  | document => document

/-- The echo of a resource, members in the order of their names. -/
def echoOf (resource : String) : Reply :=
  match Json.ofText resource with
  | .ok document => .answered (String.ofList (markPending document).compact)
  | .error fault => .failed (.refused Operation.test.symbol fault.message)

/-- How a call ends. -/
def reply (double : StandIn) (call : Call) : Reply :=
  match double.failures call.operation with
  | some text => .failed (.refused call.operation.symbol text)
  | none =>
    match call with
    | .connect _ | .disconnect | .send _ | .synchronize _ => .answered ""
    | .list => .answered double.listing
    | .test resource =>
      match double.echo with
      | some text => .answered text
      | none => echoOf resource

/-- The stand-in after a call. -/
def remember (double : StandIn) (call : Call) : StandIn :=
  { double with calls := double.calls ++ [call] }

/-- Calls are answered and remembered, and nothing is logged. -/
def respond : Backend StandIn := fun call double =>
  ⟨double.reply call, [], double.remember call⟩

end StandIn

end MonitorFeed
