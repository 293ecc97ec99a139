import MonitorFeed.Proofs.Backend.Echo
import MonitorFeed.Proofs.Request

/-!
Sessions of a client over a stand-in whose operations are made to fail and to recover on the way: what
each request comes to follows from the moves before it.
-/

namespace MonitorFeed

/-- Whether an event tells of a failed call. -/
def Client.isWarning (event : Event) : Bool :=
  event.message == "Transit call failed"

namespace Request

variable {σ : Type} (around : Surroundings σ) (progress : Progress σ) (request : Request)

theorem foreword_calm : request.foreword.filter Client.isWarning = [] := by
  cases request <;> rfl

/-- A failed call, and an answer that cannot be read, are told once. -/
theorem warnings_reply {reply : Reply} (whole : ∀ report, reply ≠ .crashed report) :
    (Client.complaint request.operation reply ++ request.afterword reply).filter Client.isWarning =
      Client.objection request.operation (reply.result.bind request.read) := by
  cases reply with
  | crashed report => exact absurd rfl (whole report)
  | failed fault => cases request <;> rfl
  | answered text =>
    cases request with
    | list =>
      simp only [Reply.result, Except.bind, read, afterword, Client.listNotes, Client.complaint]
      cases Client.understood (Document.decodeList text : Except _ (List MetricDescriptor)) <;> rfl
    | test resource =>
      simp only [Reply.result, Except.bind, read, afterword, Client.testNotes, Client.complaint]
      cases Client.understood (Document.decode text : Except _ Resource) <;> rfl
    | _ => rfl

/-- A request over surroundings that log nothing and crash no call logs one warning if it comes to a
fault, and none if it does not. -/
theorem warnings_make (silent : (around.respond request.call progress.state).events = [])
    (whole : ∀ report, (around.respond request.call progress.state).reply ≠ .crashed report) :
    ∃ events, ((request.make around).run progress).2.log = progress.log ++ events ∧
      events.filter Client.isWarning =
        Client.objection request.operation ((request.make around).run progress).1 := by
  rw [run_make]
  refine ⟨request.foreword ++ (Client.complaint request.operation
    (around.respond request.call progress.state).reply ++
      request.afterword (around.respond request.call progress.state).reply), ?_, ?_⟩
  · simp only [Progress.log_note, Progress.log_asked, Progress.state_note, silent,
      List.append_nil, List.append_assoc]
    rfl
  · rw [List.filter_append, foreword_calm, List.nil_append, warnings_reply request whole]

end Request

/-- What is done with a client over a stand-in. -/
inductive Move where
  | ask (request : Request)
  | fail (operation : Operation) (text : String)
  | recover (operation : Operation)

namespace Move

open Request (Outcome)

/-- The request of a move. -/
def request? : Move → Option Request
  | .ask request => some request
  | .fail _ _ | .recover _ => none

/-- What a move settles of an operation: the message with which it fails from then on, or that it
does not. -/
def settles? (operation : Operation) : Move → Option (Option String)
  | .ask _ => none
  | .fail failing text => if operation = failing then some (some text) else none
  | .recover mended => if operation = mended then some none else none

/-- The message with which an operation fails after moves. The latest of them that settles it decides,
and without one it does not fail. -/
def failure? (operation : Operation) (moves : List Move) : Option String :=
  (moves.reverse.findSome? (settles? operation)).getD none

/-- What a move leaves of a stand-in. -/
def leave (double : StandIn) : Move → StandIn
  | .ask request => double.remember request.call
  | .fail operation text => double.fail operation text
  | .recover operation => double.recover operation

variable (around : Surroundings StandIn)

/-- Makes a move; a request comes to something. -/
def make : Move → Session StandIn (Option Outcome)
  | .ask request => return some (← request.make around)
  | .fail operation text => do
    modify fun progress => { progress with state := progress.state.fail operation text }
    return none
  | .recover operation => do
    modify fun progress => { progress with state := progress.state.recover operation }
    return none

/-- Makes moves one after the other. -/
def makeAll : List Move → Session StandIn (List (Option Outcome))
  | [] => return []
  | move :: rest => return (← move.make around) :: (← makeAll rest)

variable {around} {progress : Progress StandIn}

theorem run_makeAll_cons (move : Move) (rest : List Move) :
    (makeAll around (move :: rest)).run progress =
      (((move.make around).run progress).1 ::
          ((makeAll around rest).run ((move.make around).run progress).2).1,
        ((makeAll around rest).run ((move.make around).run progress).2).2) := rfl

theorem run_makeAll_append (past future : List Move) :
    (makeAll around (past ++ future)).run progress =
      (((makeAll around past).run progress).1 ++
          ((makeAll around future).run ((makeAll around past).run progress).2).1,
        ((makeAll around future).run ((makeAll around past).run progress).2).2) := by
  induction past generalizing progress with
  | nil => rfl
  | cons move rest ih => simp only [List.cons_append, run_makeAll_cons, ih]

theorem length_makeAll (moves : List Move) :
    ((makeAll around moves).run progress).1.length = moves.length := by
  induction moves generalizing progress with
  | nil => rfl
  | cons move rest ih => simp only [run_makeAll_cons, List.length_cons, ih]

/-- A move leaves of a stand-in what it leaves of it. -/
theorem state_make (overStandIn : around.respond = StandIn.respond) (move : Move) :
    ((move.make around).run progress).2.state = move.leave progress.state := by
  cases move with
  | ask request =>
    have made : ((Move.make around (.ask request)).run progress).2 =
        ((request.make around).run progress).2 := rfl
    rw [made, Request.state_make, overStandIn]
    rfl
  | fail operation text => rfl
  | recover operation => rfl

theorem state_makeAll (overStandIn : around.respond = StandIn.respond) (moves : List Move) :
    ((makeAll around moves).run progress).2.state = moves.foldl leave progress.state := by
  induction moves generalizing progress with
  | nil => rfl
  | cons move rest ih => rw [run_makeAll_cons, ih, state_make overStandIn, List.foldl_cons]

section Leave

variable (double : StandIn) (moves : List Move)

theorem calls_leave :
    (moves.foldl leave double).calls =
      double.calls ++ (moves.filterMap request?).map Request.call := by
  induction moves generalizing double with
  | nil => exact (List.append_nil _).symm
  | cons move rest ih =>
    rw [List.foldl_cons, ih]
    cases move with
    | ask request =>
      simp only [leave, StandIn.remember, request?, List.filterMap_cons, List.map_cons,
        List.append_assoc, List.singleton_append]
    | fail operation text => rfl
    | recover operation => rfl

theorem answers_leave :
    (moves.foldl leave double).listing = double.listing ∧
      (moves.foldl leave double).echo = double.echo := by
  induction moves generalizing double with
  | nil => exact ⟨rfl, rfl⟩
  | cons move rest ih =>
    obtain ⟨listing, echo⟩ := ih (move.leave double)
    rw [List.foldl_cons, listing, echo]
    cases move <;> exact ⟨rfl, rfl⟩

/-- One move: what it settles of an operation holds, and without that the operation stays as it is. -/
theorem failures_leave_one (operation : Operation) (move : Move) :
    (move.leave double).failures operation =
      (move.settles? operation).getD (double.failures operation) := by
  cases move with
  | ask request => rfl
  | fail failing text =>
    simp only [leave, StandIn.failures_fail, settles?]
    split <;> rfl
  | recover mended =>
    simp only [leave, StandIn.failures_recover, settles?]
    split <;> rfl

theorem failures_leave (operation : Operation) :
    (moves.foldl leave double).failures operation =
      (moves.reverse.findSome? (settles? operation)).getD (double.failures operation) := by
  induction moves generalizing double with
  | nil => rfl
  | cons move rest ih =>
    rw [List.foldl_cons, ih, failures_leave_one, List.reverse_cons, List.findSome?_append,
      List.findSome?_singleton]
    cases rest.reverse.findSome? (settles? operation) <;> rfl

end Leave

/-- What a request comes to whose operation does not fail, given the scripted texts. -/
def Answers (listing : String) (echo : Option String) : Request → Outcome → Prop
  | .list, outcome =>
    outcome = (Client.understood (Document.decodeList listing)).map .metrics
  | .test resource, outcome =>
    ∃ text, (∀ scripted, echo = some scripted → text = scripted) ∧
      (echo = none → StandIn.echoOf (Document.encode resource) = .answered text) ∧
      outcome = (Client.understood (Document.decode text)).map .resource
  | .connect _, outcome | .disconnect, outcome | .send _, outcome | .synchronize _, outcome =>
    outcome = .ok .done

/-- A stand-in none of whose calls fails for the want of an echo. -/
def Resounds (double : StandIn) (request : Request) : Prop :=
  double.echo = none → ∀ resource, request = .test resource →
    ∀ x ∈ Document.doubles resource, Decimal.isFinite x = true → ReadsBack x

variable {double : StandIn} {request : Request}

theorem reply_of_failing {message : String}
    (failing : double.failures request.operation = some message) :
    double.reply request.call = .failed (.refused request.operation.symbol message) := by
  have failing : double.failures request.call.operation = some message := failing
  simp only [StandIn.reply, failing]
  rfl

/-- What a test that does not fail comes to. -/
theorem answers_test {resource : Resource} (steady : double.failures .test = none)
    (resounds : Resounds double (.test resource)) :
    ∃ text, double.reply (.test (Document.encode resource)) = .answered text ∧
      (∀ scripted, double.echo = some scripted → text = scripted) ∧
      (double.echo = none → StandIn.echoOf (Document.encode resource) = .answered text) := by
  have steady : double.failures (Call.test (Document.encode resource)).operation = none := steady
  cases echo : double.echo with
  | some scripted =>
    refine ⟨scripted, ?_, ?_, ?_⟩
    · simp only [StandIn.reply, steady, echo]
    · intro text same
      exact Option.some.inj same
    · intro silent
      cases silent
  | none =>
    obtain ⟨text, answered, -⟩ := StandIn.exists_echoOf (resounds echo resource rfl)
    refine ⟨text, ?_, ?_, fun _ => answered⟩
    · simp only [StandIn.reply, steady, echo, answered]
    · intro scripted same
      cases same

/-- Where an operation does not fail, an answer comes back and is read. -/
theorem answers_of_steady (steady : double.failures request.operation = none)
    (resounds : Resounds double request) :
    (∃ text, double.reply request.call = .answered text) ∧
      Answers double.listing double.echo request
        ((double.reply request.call).result.bind request.read) := by
  have answered {call : Call} {text : String} (same : request.call = call)
      (reply : double.reply call = .answered text) :
      (∃ text, double.reply request.call = .answered text) ∧
        (double.reply request.call).result.bind request.read = request.read text := by
    rw [same, reply]
    exact ⟨⟨text, rfl⟩, rfl⟩
  have plain : double.failures request.call.operation = none := steady
  cases request with
  | test resource =>
    obtain ⟨text, reply, scripted, echoed⟩ := answers_test steady resounds
    obtain ⟨some, outcome⟩ := answered rfl reply
    exact ⟨some, text, scripted, echoed, outcome⟩
  | list => exact answered rfl (by simp only [StandIn.reply, plain]; rfl)
  | _ => exact answered rfl (by simp only [StandIn.reply, plain]; rfl)

/-- What reads an answer fails with a fault of the text only. -/
theorem serialization_of_understood {α β : Type} {read : Except Json.Error α} {wrap : α → β}
    {fault : ClientError} (failed : (Client.understood read).map wrap = .error fault) :
    ∃ text, fault = .serialization text := by
  cases read with
  | ok value => cases failed
  | error flaw => exact ⟨flaw.message, (Except.error.inj failed).symm⟩

theorem Answers.serialization {listing : String} {echo : Option String} {outcome : Outcome}
    {fault : ClientError} (answers : Answers listing echo request outcome)
    (failed : outcome = .error fault) : ∃ text, fault = .serialization text := by
  subst failed
  cases request with
  | list => exact serialization_of_understood answers.symm
  | test resource =>
    obtain ⟨text, -, -, read⟩ := answers
    exact serialization_of_understood read.symm
  | _ => cases answers

/-- What a request over a stand-in comes to, by whether its operation fails there. -/
theorem outcome_of_state (resounds : Resounds double request) :
    (∀ report, double.reply request.call ≠ .crashed report) ∧
      (∀ message, (double.reply request.call).result.bind request.read =
          .error (.refused request.operation.symbol message) ↔
        double.failures request.operation = some message) ∧
      (double.failures request.operation = none → Answers double.listing double.echo request
        ((double.reply request.call).result.bind request.read)) := by
  cases verdict : double.failures request.operation with
  | some message =>
    have reply := reply_of_failing verdict
    rw [reply]
    refine ⟨?_, ?_, ?_⟩
    · intro report same
      cases same
    · intro other
      simp only [Reply.result, Except.bind, Except.error.injEq, ClientError.refused.injEq,
        true_and, Option.some.injEq]
    · intro steady
      cases steady
  | none =>
    obtain ⟨⟨text, reply⟩, answers⟩ := answers_of_steady verdict resounds
    refine ⟨?_, ?_, fun _ => answers⟩
    · intro report same
      rw [reply] at same
      cases same
    · intro message
      constructor
      · intro refused
        obtain ⟨text, same⟩ := answers.serialization refused
        cases same
      · intro failing
        cases failing

/-- A stand-in at the start of a session, with the texts that it answers with. -/
def scripted (listing : String) (echo : Option String) : StandIn :=
  { StandIn.fresh with listing := listing, echo := echo }

/-- A session over a stand-in: what its moves come to, and how far it has come then. -/
def play (listing : String) (echo : Option String) (storage : StandIn → Storage) (draw : Nat → Draw)
    (moves : List Move) : List (Option Outcome) × Progress StandIn :=
  (makeAll ⟨StandIn.respond, storage, draw⟩ moves).run (.start (scripted listing echo))

/-- A session over a stand-in, whatever its moves are: the stand-in remembers one call for each request,
with the document of what was handed over. A request comes to a refusal exactly when the latest move
before it that settles its operation lets it fail, and then with the message of that move; otherwise
to what is read of the answer, and the only other fault is of a text that cannot be read. Every fault
is told once in the log, and nothing else is told there as one. -/
theorem makeAll_outcomes (listing : String) (echo : Option String) (moves : List Move)
    (back : echo = none → ∀ resource, .ask (.test resource) ∈ moves →
      ∀ x ∈ Document.doubles resource, Decimal.isFinite x = true → ReadsBack x)
    (storage : StandIn → Storage) (draw : Nat → Draw) :
    let played := play listing echo storage draw
    (played moves).2.state.calls = (moves.filterMap request?).map Request.call ∧
    ∀ past request future, moves = past ++ .ask request :: future → ∃ outcome events,
      (played moves).1[past.length]? = some (some outcome) ∧
      (played (past ++ [.ask request])).2.log = (played past).2.log ++ events ∧
      (∀ message, outcome = .error (.refused request.operation.symbol message) ↔
        failure? request.operation past = some message) ∧
      (failure? request.operation past = none → Answers listing echo request outcome ∧
        ∀ fault, outcome = .error fault → ∃ text, fault = .serialization text) ∧
      events.filter Client.isWarning = Client.objection request.operation outcome := by
  intro played
  have left (moves : List Move) :
      (played moves).2.state = moves.foldl leave (scripted listing echo) :=
    state_makeAll rfl moves
  refine ⟨?_, ?_⟩
  · rw [left, calls_leave]
    rfl
  rintro past request future rfl
  have double := left past
  obtain ⟨listed, echoed⟩ := answers_leave (scripted listing echo) past
  have failures : (played past).2.state.failures request.operation =
      failure? request.operation past :=
    double ▸ failures_leave (scripted listing echo) past request.operation
  rw [← double] at listed echoed
  have resounds : Resounds (played past).2.state request := by
    rintro silent resource rfl
    exact back (echoed.symm.trans silent) resource (List.mem_append_right _ List.mem_cons_self)
  obtain ⟨whole, verdict, answers⟩ := outcome_of_state resounds
  rw [failures, listed, echoed] at answers
  simp only [failures] at verdict
  obtain ⟨events, told, warnings⟩ := request.warnings_make
    ⟨StandIn.respond, storage, draw⟩ (played past).2 rfl whole
  have outcome : ((request.make ⟨StandIn.respond, storage, draw⟩).run (played past).2).1 =
      ((played past).2.state.reply request.call).result.bind request.read :=
    Request.result_make _ _ request
  rw [outcome] at warnings
  refine ⟨_, events, ?_, ?_, verdict, ?_, warnings⟩
  · have results : (played (past ++ .ask request :: future)).1 = (played past).1 ++
        some (((played past).2.state.reply request.call).result.bind request.read) ::
          ((makeAll ⟨StandIn.respond, storage, draw⟩ future).run
            ((request.make ⟨StandIn.respond, storage, draw⟩).run (played past).2).2).1 := by
      rw [← outcome]
      exact congrArg Prod.fst (run_makeAll_append past (.ask request :: future))
    have position : past.length = (played past).1.length := (length_makeAll past).symm
    rw [results, position, List.getElem?_append_right (Nat.le_refl _), Nat.sub_self]
    rfl
  · rw [← told]
    exact congrArg (fun run => run.2.log) (run_makeAll_append past [.ask request])
  · intro steady
    exact ⟨answers steady, fun fault => (answers steady).serialization⟩

/-- A host with one measured property. -/
def loadedHost : Resource :=
  (Resource.checked "host" .host .hostUp .epoch).withProperty "load" (.ofDouble 1.5)

/-- A session in which a test fails once. -/
def shakySession : List Move :=
  [.fail .test "busy", .ask (.test loadedHost), .recover .test, .ask (.test loadedHost)]

theorem makeAll_outcomes_shakySession :
    (∀ resource, .ask (.test resource) ∈ shakySession →
      ∀ x ∈ Document.doubles resource, Decimal.isFinite x = true → ReadsBack x) ∧
    let played := play "[]" none (fun _ _ => .missing .notFound) (fun _ => ⟨"", .epoch⟩) shakySession
    played.2.state.calls =
        [.test (Document.encode loadedHost), .test (Document.encode loadedHost)] ∧
      played.1[1]? = some (some (.error (.refused "TestMonitoredResource" "busy"))) ∧
      ∃ outcome, played.1[3]? = some (some outcome) ∧
        Answers "[]" none (.test loadedHost) outcome := by
  have back : ∀ resource, .ask (.test resource) ∈ shakySession →
      ∀ x ∈ Document.doubles resource, Decimal.isFinite x = true → ReadsBack x := by
    intro resource asked x double finite
    have only : resource = loadedHost := by simpa [shakySession] using asked
    subst only
    have doubles : Document.doubles loadedHost = [1.5] := rfl
    rw [doubles, List.mem_singleton] at double
    subst double
    rfl
  refine ⟨back, ?_⟩
  obtain ⟨calls, each⟩ := makeAll_outcomes "[]" none shakySession (fun _ => back)
    (fun _ _ => .missing .notFound) (fun _ => ⟨"", .epoch⟩)
  obtain ⟨refused, _, first, -, verdict, -⟩ := each [.fail .test "busy"] (.test loadedHost) _ rfl
  obtain ⟨answered, _, second, -, -, answers, -⟩ :=
    each [.fail .test "busy", .ask (.test loadedHost), .recover .test] (.test loadedHost) _ rfl
  have same := (verdict "busy").mpr rfl
  subst same
  have asked : (shakySession.filterMap request?).map Request.call =
      [.test (Document.encode loadedHost), .test (Document.encode loadedHost)] := rfl
  exact ⟨calls.trans asked, first, answered, second, (answers rfl).1⟩

end Move

end MonitorFeed
