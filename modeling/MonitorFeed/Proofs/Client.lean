import MonitorFeed.Client

/-!
What each operation of the client does to the progress of a run: it makes one call, whose reply
decides the result, and it logs.
-/

namespace MonitorFeed

variable {σ : Type}

/-- The result that a reply means. A call that crashes its worker is a fault of the worker. -/
def Reply.result : Reply → Except ClientError String
  | .answered text => .ok text
  | .failed fault => .error fault
  | .crashed report => .error (.worker report)

/-- What a reply means where the text of an answer says nothing. -/
def Reply.outcome (reply : Reply) : Except ClientError Unit :=
  reply.result.map fun _ => ()

/-- A reply with a result is an answer. -/
theorem Reply.answered_of_result {reply : Reply} {text : String} (result : reply.result = .ok text) :
    reply = .answered text := by
  cases reply with
  | answered answer => rw [Except.ok.inj result]
  | failed fault => cases result
  | crashed report => cases result

/-- What replaces an outcome that says nothing is read alike from every answer. -/
theorem Reply.outcome_map {α : Type} (reply : Reply) (wrap : Unit → α) :
    reply.outcome.map wrap = reply.result.bind fun _ => .ok (wrap ()) := by
  cases reply <;> rfl

/-- What wraps a value read from a reply can be applied where the value is read. -/
theorem Reply.result_bind_map {α β : Type} (reply : Reply) (read : String → Except ClientError α)
    (wrap : α → β) :
    (reply.result.bind read).map wrap = reply.result.bind fun text => (read text).map wrap := by
  cases reply <;> rfl

/-- What the client logs about a reply. -/
def Client.complaint (operation : Operation) : Reply → List Event
  | .failed fault =>
    [event .warn "Transit call failed"
      [("operation", .text operation.symbol), ("error", .text fault.message)]]
  | .answered _ | .crashed _ => []

namespace Progress

/-- The progress after events. -/
def note (progress : Progress σ) (events : List Event) : Progress σ :=
  { progress with log := progress.log ++ events }

/-- The progress after the client has made a call. -/
def asked (around : Surroundings σ) (call : Call) (progress : Progress σ) : Progress σ :=
  let response := around.respond call progress.state
  { progress with
    state := response.state
    calls := progress.calls ++ [(call, response.reply)]
    log := progress.log ++ response.events ++
      Client.complaint call.operation response.reply }

@[simp] theorem state_note (progress : Progress σ) (events : List Event) :
    (progress.note events).state = progress.state := rfl

@[simp] theorem calls_note (progress : Progress σ) (events : List Event) :
    (progress.note events).calls = progress.calls := rfl

@[simp] theorem log_note (progress : Progress σ) (events : List Event) :
    (progress.note events).log = progress.log ++ events := rfl

@[simp] theorem note_nil (progress : Progress σ) : progress.note [] = progress := by
  rw [note, List.append_nil]

@[simp] theorem note_note (progress : Progress σ) (earlier later : List Event) :
    (progress.note earlier).note later = progress.note (earlier ++ later) := by
  rw [note, note, note, List.append_assoc]

@[simp] theorem calls_asked (around : Surroundings σ) (call : Call) (progress : Progress σ) :
    (progress.asked around call).calls =
      progress.calls ++ [(call, (around.respond call progress.state).reply)] := rfl

@[simp] theorem log_asked (around : Surroundings σ) (call : Call) (progress : Progress σ) :
    (progress.asked around call).log =
      progress.log ++ (around.respond call progress.state).events ++
        Client.complaint call.operation (around.respond call progress.state).reply := rfl

end Progress

namespace Client

variable (around : Surroundings σ) (progress : Progress σ)

theorem run_ask (call : Call) :
    (ask around call).run progress =
      ((around.respond call progress.state).reply.result, progress.asked around call) := by
  have called : (ask around call).run progress =
      (match (around.respond call progress.state).reply with
        | .answered text => return .ok text
        | .failed fault => logged call.operation (.error fault)
        | .crashed report => return .error (.worker report) : Session σ _).run
          { progress with
            state := (around.respond call progress.state).state
            calls := progress.calls ++ [(call, (around.respond call progress.state).reply)]
            log := progress.log ++ (around.respond call progress.state).events } := rfl
  rw [called, Progress.asked]
  cases (around.respond call progress.state).reply with
  | answered text =>
    rw [complaint, List.append_nil]
    rfl
  | failed fault => rfl
  | crashed report =>
    rw [complaint, List.append_nil]
    rfl

theorem run_request (call : Call) :
    (request around call).run progress =
      ((around.respond call progress.state).reply.outcome, progress.asked around call) := by
  have mapped : (request around call).run progress =
      (((ask around call).run progress).1.map fun _ => (), ((ask around call).run progress).2) := rfl
  rw [mapped, run_ask]
  rfl

theorem run_connect (account : Credentials) :
    (connect around account).run progress =
      ((around.respond (.connect (Document.encode account)) progress.state).reply.outcome,
        (progress.note [event .debug "Connecting to transit" [("user", .text account.user)]]).asked
          around (.connect (Document.encode account))) :=
  run_request around (progress.note _) _

theorem run_send (report : Report) :
    (send around report).run progress =
      ((around.respond (.send (Document.encode report)) progress.state).reply.outcome,
        (progress.note [event .debug "Sending resources with metrics"
          [("resources", .count report.resources.length),
            ("bytes", .count (Document.encode report).utf8ByteSize)]]).asked around
              (.send (Document.encode report))) :=
  run_request around (progress.note _) _

theorem run_synchronize (inventory : Inventory) :
    (synchronize around inventory).run progress =
      ((around.respond (.synchronize (Document.encode inventory)) progress.state).reply.outcome,
        (progress.note [event .debug "Synchronizing inventory"
          [("resources", .count inventory.resources.length),
            ("groups", .count inventory.groups.length)]]).asked around
              (.synchronize (Document.encode inventory))) :=
  run_request around (progress.note _) _

theorem run_disconnect :
    (disconnect around).run progress =
      ((around.respond .disconnect progress.state).reply.outcome,
        (progress.note [event .debug "Disconnecting from transit" []]).asked around .disconnect) :=
  run_request around (progress.note _) _

/-- What a part of the program logs about the reply with which a session is closed. -/
def regret (source : Source) (reply : Reply) : List Event :=
  match reply.outcome with
  | .ok () => []
  | .error fault =>
    [⟨.warn, source, "Error disconnecting from transit", [("error", .text fault.message)]⟩]

private theorem run_close_eq (source : Source) :
    (close around source).run progress =
      (if let .error fault := ((disconnect around).run progress).1 then
        Session.log ⟨.warn, source, "Error disconnecting from transit",
          [("error", .text fault.message)]⟩
        else return () : Session σ Unit).run ((disconnect around).run progress).2 := rfl

/-- Closing a session makes one call, whatever its reply is. -/
theorem run_close (source : Source) :
    (close around source).run progress =
      ((), ((progress.note [event .debug "Disconnecting from transit" []]).asked around
        .disconnect).note (regret source (around.respond .disconnect progress.state).reply)) := by
  rw [run_close_eq, run_disconnect, regret]
  cases (around.respond .disconnect progress.state).reply.outcome with
  | ok value =>
    rw [Progress.note_nil]
    rfl
  | error fault => rfl

/-- What reading the text of an answer comes to. -/
def understood {α : Type} (read : Except Json.Error α) : Except ClientError α :=
  read.mapError fun fault => .ofDocument (.json fault)

/-- What the client says of a fault. -/
def warning (operation : Operation) (fault : ClientError) : Event :=
  event .warn "Transit call failed"
    [("operation", .text operation.symbol), ("error", .text fault.message)]

/-- What the client logs about a result. -/
def objection {α : Type} (operation : Operation) : Except ClientError α → List Event
  | .ok _ => []
  | .error fault => [warning operation fault]

/-- What the client logs about a listing. -/
def inspection : Except ClientError (List MetricDescriptor) → List Event
  | .ok metrics => [event .debug "Listed metrics" [("count", .count metrics.length)]]
  | .error fault => [warning .list fault]

/-- Reading an answer makes no call. -/
theorem run_understand {α : Type} (operation : Operation) (read : Except Json.Error α) :
    (understand operation read).run progress =
      (understood read, progress.note (objection operation (understood read))) := by
  cases read with
  | ok value =>
    have quiet : objection operation (understood (.ok value : Except Json.Error α)) = [] := rfl
    rw [quiet, Progress.note_nil]
    rfl
  | error fault => rfl

private theorem run_test_eq (resource : Resource) :
    (test around resource).run progress =
      (match ((ask around (.test (Document.encode resource))).run progress).1 with
        | .error fault => return .error fault
        | .ok text => understand .test (Document.decode text) : Session σ _).run
          ((ask around (.test (Document.encode resource))).run progress).2 := rfl

/-- What is logged after the reply to a test. -/
def testNotes (reply : Reply) : List Event :=
  match reply.result with
  | .ok text => objection .test (understood (Document.decode (α := Resource) text))
  | .error _ => []

/-- What a test makes of a reply. -/
theorem run_test (resource : Resource) :
    let call := Call.test (Document.encode resource)
    let reply := (around.respond call progress.state).reply
    (test around resource).run progress =
      (reply.result.bind fun text => understood (Document.decode text),
        (progress.asked around call).note (testNotes reply)) := by
  intro call reply
  rw [run_test_eq, run_ask, testNotes]
  cases reply.result with
  | error fault =>
    rw [Progress.note_nil]
    rfl
  | ok text => exact run_understand (progress.asked around call) .test (Document.decode text)

private theorem run_listMetrics_eq :
    (listMetrics around).run progress =
      (match ((ask around .list).run progress).1 with
        | .error fault => return .error fault
        | .ok text => do
          match ← understand .list (Document.decodeList text) with
          | .error fault => return .error fault
          | .ok metrics =>
            Session.log (event .debug "Listed metrics" [("count", .count metrics.length)])
            return .ok metrics : Session σ _).run ((ask around .list).run progress).2 := rfl

/-- What is logged after the reply to a listing. -/
def listNotes (reply : Reply) : List Event :=
  match reply.result with
  | .ok text => inspection (understood (Document.decodeList text))
  | .error _ => []

/-- What a listing makes of a reply. -/
theorem run_listMetrics :
    let reply := (around.respond .list progress.state).reply
    (listMetrics around).run progress =
      (reply.result.bind fun text => understood (Document.decodeList text),
        (progress.asked around .list).note (listNotes reply)) := by
  intro reply
  rw [run_listMetrics_eq, run_ask, listNotes]
  cases reply.result with
  | error fault =>
    rw [Progress.note_nil]
    rfl
  | ok text =>
    cases read : (Document.decodeList text : Except Json.Error (List MetricDescriptor)) with
    | error fault => simp only [Except.bind, understood, read]; rfl
    | ok metrics => simp only [Except.bind, understood, read]; rfl

end Client

end MonitorFeed
