import MonitorFeed.Proofs.Client

/-!
The operations of the client as requests, so that a sequence of them can be followed. Whatever
answers its calls, a request makes one call and reads the reply.
-/

namespace MonitorFeed

variable {σ : Type}

/-- What a client can be asked for. -/
inductive Request where
  | connect (account : Credentials)
  | disconnect
  | send (report : Report)
  | list
  | synchronize (inventory : Inventory)
  | test (resource : Resource)

/-- What a request comes back with. -/
inductive Answer where
  | done
  | metrics (metrics : List MetricDescriptor)
  | resource (resource : Resource)

namespace Request

/-- How a request ends. -/
abbrev Outcome := Except ClientError Answer

/-- The call that a request makes, with the document of what it hands over. -/
def call : Request → Call
  | .connect account => .connect (Document.encode account)
  | .disconnect => .disconnect
  | .send report => .send (Document.encode report)
  | .list => .list
  | .synchronize inventory => .synchronize (Document.encode inventory)
  | .test resource => .test (Document.encode resource)

def operation (request : Request) : Operation := request.call.operation

/-- Makes a request of the client. -/
def make (around : Surroundings σ) : Request → Session σ Outcome
  | .connect account => return (← Client.connect around account).map fun () => .done
  | .disconnect => return (← Client.disconnect around).map fun () => .done
  | .send report => return (← Client.send around report).map fun () => .done
  | .list => return (← Client.listMetrics around).map .metrics
  | .synchronize inventory => return (← Client.synchronize around inventory).map fun () => .done
  | .test resource => return (← Client.test around resource).map .resource

/-- Makes requests one after the other, whatever becomes of each. -/
def makeAll (around : Surroundings σ) : List Request → Session σ (List Outcome)
  | [] => return []
  | request :: rest => return (← request.make around) :: (← makeAll around rest)

/-- What a request makes of the text of an answer. -/
def read : Request → String → Outcome
  | .list, text => (Client.understood (Document.decodeList text)).map .metrics
  | .test _, text => (Client.understood (Document.decode text)).map .resource
  | .connect _, _ | .disconnect, _ | .send _, _ | .synchronize _, _ => .ok .done

/-- What the client logs before the call of a request. -/
def foreword : Request → List Event
  | .connect account =>
    [Client.event .debug "Connecting to transit" [("user", .text account.user)]]
  | .disconnect => [Client.event .debug "Disconnecting from transit" []]
  | .send report =>
    [Client.event .debug "Sending resources with metrics"
      [("resources", .count report.resources.length),
        ("bytes", .count (Document.encode report).utf8ByteSize)]]
  | .synchronize inventory =>
    [Client.event .debug "Synchronizing inventory"
      [("resources", .count inventory.resources.length),
        ("groups", .count inventory.groups.length)]]
  | .list | .test _ => []

/-- What the client logs of a request after what it says of the reply. -/
def afterword : Request → Reply → List Event
  | .list, reply => Client.listNotes reply
  | .test _, reply => Client.testNotes reply
  | .connect _, _ | .disconnect, _ | .send _, _ | .synchronize _, _ => []

variable (around : Surroundings σ) (progress : Progress σ)

private theorem run_map {α : Type} (work : Session σ (Except ClientError α)) (wrap : α → Answer) :
    (do return (← work).map wrap : Session σ Outcome).run progress =
      ((work.run progress).1.map wrap, (work.run progress).2) := rfl

/-- What a request comes to: one call, and what is read from the reply. -/
theorem run_make (request : Request) :
    (request.make around).run progress =
      ((around.respond request.call progress.state).reply.result.bind request.read,
        ((progress.note request.foreword).asked around request.call).note
          (request.afterword (around.respond request.call progress.state).reply)) := by
  cases request with
  | connect account =>
    rw [make, run_map, Client.run_connect, Reply.outcome_map, afterword, Progress.note_nil]
    rfl
  | disconnect =>
    rw [make, run_map, Client.run_disconnect, Reply.outcome_map, afterword, Progress.note_nil]
    rfl
  | send report =>
    rw [make, run_map, Client.run_send, Reply.outcome_map, afterword, Progress.note_nil]
    rfl
  | list =>
    rw [make, run_map, Client.run_listMetrics, Reply.result_bind_map, foreword, Progress.note_nil]
    rfl
  | synchronize inventory =>
    rw [make, run_map, Client.run_synchronize, Reply.outcome_map, afterword, Progress.note_nil]
    rfl
  | test resource =>
    rw [make, run_map, Client.run_test, Reply.result_bind_map, foreword, Progress.note_nil]
    rfl

@[simp] theorem result_make (request : Request) :
    ((request.make around).run progress).1 =
      (around.respond request.call progress.state).reply.result.bind request.read := by
  rw [run_make]

@[simp] theorem state_make (request : Request) :
    ((request.make around).run progress).2.state =
      (around.respond request.call progress.state).state := by
  rw [run_make]
  rfl

theorem run_makeAll_cons (request : Request) (rest : List Request) :
    (makeAll around (request :: rest)).run progress =
      (((request.make around).run progress).1 ::
          ((makeAll around rest).run ((request.make around).run progress).2).1,
        ((makeAll around rest).run ((request.make around).run progress).2).2) := rfl

end Request

end MonitorFeed
