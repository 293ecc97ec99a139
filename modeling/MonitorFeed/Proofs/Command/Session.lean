import MonitorFeed.Backend.StandIn
import MonitorFeed.Payload.Token
import MonitorFeed.Proofs.Client
import MonitorFeed.Proofs.Command.Outlet
import MonitorFeed.Proofs.Payload.File

/-!
The session of a command. Whatever comes of its one operation, a session that was opened is closed
once, the first fault is the one that is told, and only a success is written out.
-/

namespace MonitorFeed.Command

variable {σ : Type}

/-- What a command does within a session: the call it makes, and what it makes of the answer. -/
structure Errand where
  call : Call
  read : String → Except ClientError String

/-- Why the file of a command does not hold its payload; a command that reads no file lacks
nothing. -/
def Lacks (storage : Storage) : Command → ClientError → Prop
  | .sendMetrics file => Document.Lacks Report storage file
  | .syncInventory file => Document.Lacks Inventory storage file
  | .testResource file => Document.Lacks Resource storage file
  | .connect | .listMetrics | .disconnect | .run => fun _ => False

/-- What a command asks for within a session, by what the text of its file carries. -/
inductive Asks (settings : Settings) (storage : Storage) (draw : Draw) : Command → Errand → Prop where
  | send {file text : String} {report : Report} (held : storage.readText file = .ok text)
      (carried : Document.decode text = .ok report) :
      Asks settings storage draw (.sendMetrics file)
        ⟨.send (Document.encode
            (report.withContext (report.context.getD (settings.agent.context draw)))),
          fun _ => .ok ("sent " ++ toString report.resources.length ++ " resource(s)")⟩
  | list :
      Asks settings storage draw .listMetrics
        ⟨.list, fun text =>
          (Client.understood (Document.decodeList (α := MetricDescriptor) text)).map
            Document.encodeListPretty⟩
  | synchronize {file text : String} {inventory : Inventory}
      (held : storage.readText file = .ok text) (carried : Document.decode text = .ok inventory) :
      Asks settings storage draw (.syncInventory file)
        ⟨.synchronize (Document.encode
            (inventory.withContext (inventory.context.getD (settings.agent.context draw)))),
          fun _ => .ok ("synchronized " ++ toString inventory.resources.length ++
            " resource(s), " ++ toString inventory.groups.length ++ " group(s)")⟩
  | test {file text : String} {resource : Resource} (held : storage.readText file = .ok text)
      (carried : Document.decode text = .ok resource) :
      Asks settings storage draw (.testResource file)
        ⟨.test (Document.encode resource), fun text =>
          (Client.understood (Document.decode (α := Resource) text)).map Document.encodePretty⟩

/-- The operation that belongs to a command, if there is one. -/
def operation? : Command → Option Operation
  | .connect => some .connect
  | .sendMetrics _ => some .send
  | .listMetrics => some .list
  | .syncInventory _ => some .synchronize
  | .testResource _ => some .test
  | .disconnect => some .disconnect
  | .run => none

section Errand

variable {command : Command} {settings : Settings} {storage : Storage} {draw : Draw}

theorem Lacks.unique {fault other : ClientError} (lacks : command.Lacks storage fault)
    (again : command.Lacks storage other) : fault = other := by
  cases command with
  | sendMetrics file => exact Document.Lacks.unique lacks again
  | syncInventory file => exact Document.Lacks.unique lacks again
  | testResource file => exact Document.Lacks.unique lacks again
  | _ => exact lacks.elim

/-- A command asks for one errand, since its file carries one payload. -/
theorem Asks.unique {errand other : Errand} (asks : Asks settings storage draw command errand)
    (again : Asks settings storage draw command other) : errand = other := by
  cases asks with
  | send held carried =>
    cases again with
    | send found decoded =>
      obtain rfl := Except.ok.inj (held.symm.trans found)
      obtain rfl := Except.ok.inj (carried.symm.trans decoded)
      rfl
  | list =>
    cases again
    rfl
  | synchronize held carried =>
    cases again with
    | synchronize found decoded =>
      obtain rfl := Except.ok.inj (held.symm.trans found)
      obtain rfl := Except.ok.inj (carried.symm.trans decoded)
      rfl
  | test held carried =>
    cases again with
    | test found decoded =>
      obtain rfl := Except.ok.inj (held.symm.trans found)
      obtain rfl := Except.ok.inj (carried.symm.trans decoded)
      rfl

/-- A command that asks for something lacks nothing. -/
theorem Asks.not_lacks {errand : Errand} (asks : Asks settings storage draw command errand)
    (fault : ClientError) : ¬ command.Lacks storage fault := by
  intro lacks
  cases asks with
  | send held carried => exact Document.Lacks.not_held lacks held carried
  | list => exact lacks
  | synchronize held carried => exact Document.Lacks.not_held lacks held carried
  | test held carried => exact Document.Lacks.not_held lacks held carried

/-- What a command asks for is the operation that belongs to it. -/
theorem Asks.operation {errand : Errand} (asks : Asks settings storage draw command errand) :
    command.operation? = some errand.call.operation := by
  cases asks <;> rfl

end Errand

private theorem sent_amount (resources : Nat) :
    "sent " ++ toString resources ++ " resource(s)" = "sent " ++ amount resources "resource" := by
  simp only [amount, String.append_assoc]
  rfl

private theorem synchronized_amount (resources groups : Nat) :
    "synchronized " ++ toString resources ++ " resource(s), " ++ toString groups ++ " group(s)" =
      "synchronized " ++ amount resources "resource" ++ ", " ++ amount groups "group" := by
  simp only [amount, String.append_assoc]
  rfl

/-- A piece of work does what its command asks for: it makes the one call of its errand and reads the
answer, or gives up before the call for what the file lacks. -/
inductive Performs (around : Surroundings σ) (settings : Settings) (command : Command)
    (progress : Progress σ) : Except ClientError String × Progress σ → Prop where
  | lacking {fault : ClientError}
      (lacks : command.Lacks (around.storage progress.state) fault) :
      Performs around settings command progress (.error fault, progress)
  | made {errand : Errand} {last : Progress σ}
      (asks : Asks settings (around.storage progress.state) (around.draw progress.draws) command
        errand)
      (state : last.state = (around.respond errand.call progress.state).state)
      (calls : last.calls =
        progress.calls ++ [(errand.call, (around.respond errand.call progress.state).reply)]) :
      Performs around settings command progress
        ((around.respond errand.call progress.state).reply.result.bind errand.read, last)

section Work

variable (around : Surroundings σ) (settings : Settings) (progress : Progress σ)

/-- A delivery is an errand whose answer says nothing, whatever was drawn before it. -/
private theorem performs_delivery {command : Command} {call : Call} {text : String}
    (asks : Asks settings (around.storage progress.state) (around.draw progress.draws) command
      ⟨call, fun _ => .ok text⟩)
    {deliver : Session σ (Except ClientError Unit)} {draws : Nat} {events : List Event}
    (delivers : deliver.run { progress with draws := draws } =
      ((around.respond call progress.state).reply.outcome,
        (Progress.note { progress with draws := draws } events).asked around call)) :
    Performs around settings command progress
      ((do return (← deliver).map fun () => text : Session σ _).run
        { progress with draws := draws }) := by
  have ran : (do return (← deliver).map fun () => text : Session σ _).run
      { progress with draws := draws } =
        ((deliver.run { progress with draws := draws }).1.map fun () => text,
          (deliver.run { progress with draws := draws }).2) := rfl
  rw [ran, delivers, Reply.outcome_map]
  exact .made asks rfl rfl

private theorem run_sendFile (file : String) :
    (sendFile around settings file).run progress =
      (match Document.load (α := Report) (around.storage progress.state) file with
        | .error fault => return .error fault
        | .ok report => do
          let report ← match report.context with
            | some _ => pure report
            | none => pure (report.withContext (settings.agent.context (← Session.draw around)))
          return (← Client.send around report).map fun () =>
            "sent " ++ amount report.resources.length "resource" : Session σ _).run progress := rfl

theorem performs_sendFile (file : String) :
    Performs around settings (.sendMetrics file) progress
      ((sendFile around settings file).run progress) := by
  rw [run_sendFile]
  cases loaded : Document.load (α := Report) (around.storage progress.state) file with
  | error fault => exact .lacking (Document.load_eq_error_iff.mp loaded)
  | ok report =>
    obtain ⟨text, held, carried⟩ := Document.load_eq_ok_iff.mp loaded
    have asks : Asks settings _ (around.draw progress.draws) _ _ := .send held carried
    rw [sent_amount] at asks
    obtain ⟨context, resources⟩ := report
    cases context with
    | some context =>
      exact performs_delivery around settings progress asks (Client.run_send around progress _)
    | none =>
      exact performs_delivery around settings progress asks
        (Client.run_send around { progress with draws := progress.draws + 1 } _)

private theorem run_syncFile (file : String) :
    (syncFile around settings file).run progress =
      (match Document.load (α := Inventory) (around.storage progress.state) file with
        | .error fault => return .error fault
        | .ok inventory => do
          let inventory ← match inventory.context with
            | some _ => pure inventory
            | none => pure (inventory.withContext (settings.agent.context (← Session.draw around)))
          return (← Client.synchronize around inventory).map fun () =>
            "synchronized " ++ amount inventory.resources.length "resource" ++ ", " ++
              amount inventory.groups.length "group" : Session σ _).run progress := rfl

theorem performs_syncFile (file : String) :
    Performs around settings (.syncInventory file) progress
      ((syncFile around settings file).run progress) := by
  rw [run_syncFile]
  cases loaded : Document.load (α := Inventory) (around.storage progress.state) file with
  | error fault => exact .lacking (Document.load_eq_error_iff.mp loaded)
  | ok inventory =>
    obtain ⟨text, held, carried⟩ := Document.load_eq_ok_iff.mp loaded
    have asks : Asks settings _ (around.draw progress.draws) _ _ := .synchronize held carried
    rw [synchronized_amount] at asks
    obtain ⟨context, resources, groups⟩ := inventory
    cases context with
    | some context =>
      exact performs_delivery around settings progress asks
        (Client.run_synchronize around progress _)
    | none =>
      exact performs_delivery around settings progress asks
        (Client.run_synchronize around { progress with draws := progress.draws + 1 } _)

theorem run_testFile (file : String) :
    (testFile around file).run progress =
      (match Document.load (α := Resource) (around.storage progress.state) file with
        | .error fault => return .error fault
        | .ok resource =>
          return (← Client.test around resource).map Document.encodePretty : Session σ _).run
            progress := rfl

theorem performs_testFile (file : String) :
    Performs around settings (.testResource file) progress
      ((testFile around file).run progress) := by
  rw [run_testFile]
  cases loaded : Document.load (α := Resource) (around.storage progress.state) file with
  | error fault => exact .lacking (Document.load_eq_error_iff.mp loaded)
  | ok resource =>
    obtain ⟨text, held, carried⟩ := Document.load_eq_ok_iff.mp loaded
    have tested := Client.run_test around progress resource
    have ran : (do
        return (← Client.test around resource).map Document.encodePretty : Session σ _).run progress =
          (((Client.test around resource).run progress).1.map Document.encodePretty,
            ((Client.test around resource).run progress).2) := rfl
    simp only [ran, tested, Reply.result_bind_map]
    exact .made (.test held carried) rfl rfl

theorem performs_listAll :
    Performs around settings .listMetrics progress ((listAll around).run progress) := by
  have listed := Client.run_listMetrics around progress
  have ran : (listAll around).run progress =
      (((Client.listMetrics around).run progress).1.map Document.encodeListPretty,
        ((Client.listMetrics around).run progress).2) := rfl
  rw [ran, listed, Reply.result_bind_map]
  exact .made .list rfl rfl

end Work

/-- A command that needs a session is work within one, which does what the command asks for. -/
theorem exists_work (around : Surroundings σ) (settings : Settings) (outlet : Outlet)
    {command : Command} (needs : command.needsSession = true) :
    ∃ work, execute around settings outlet command = inSession around settings outlet work ∧
      ∀ progress, Performs around settings command progress (work.run progress) := by
  cases command with
  | connect => cases needs
  | sendMetrics file =>
    exact ⟨_, rfl, fun progress => performs_sendFile around settings progress file⟩
  | listMetrics => exact ⟨_, rfl, fun progress => performs_listAll around settings progress⟩
  | syncInventory file =>
    exact ⟨_, rfl, fun progress => performs_syncFile around settings progress file⟩
  | testResource file =>
    exact ⟨_, rfl, fun progress => performs_testFile around settings progress file⟩
  | disconnect => cases needs
  | run => cases needs

/-- The call with which a session is opened. -/
def opening (settings : Settings) : Call :=
  .connect (Document.encode settings.credentials)

section Session

variable {around : Surroundings σ} {settings : Settings} {outlet : Outlet}
  {work : Session σ (Except ClientError String)}

/-- The progress of a run that has tried to open a session. -/
def connected (around : Surroundings σ) (settings : Settings) (progress : Progress σ) :
    Progress σ :=
  (progress.note [Client.event .debug "Connecting to transit"
    [("user", .text settings.credentials.user)]]).asked around (opening settings)

/-- The session is opened first. -/
private theorem run_inSession (progress : Progress σ) :
    (inSession around settings outlet work).run progress =
      (match (around.respond (opening settings) progress.state).reply.outcome with
        | .error fault => return (.error (.client fault), outlet)
        | .ok () => do
          let told := tell outlet (← work)
          Client.close around .command
          return told : Session σ _).run (connected around settings progress) := by
  have connects : (inSession around settings outlet work).run progress =
      (match ((Client.connect around settings.credentials).run progress).1 with
        | .error fault => return (.error (.client fault), outlet)
        | .ok () => do
          let told := tell outlet (← work)
          Client.close around .command
          return told : Session σ _).run
            ((Client.connect around settings.credentials).run progress).2 := rfl
  rw [connects, Client.run_connect]
  rfl

theorem inSession_refused {fault : ClientError} {start : σ}
    (refused : (around.respond (opening settings) start).reply.result = .error fault) :
    let finished := (inSession around settings outlet work).run (.start start)
    finished.2.calls = [(opening settings, (around.respond (opening settings) start).reply)] ∧
      finished.1 = (.error (.client fault), outlet) := by
  have outcome : (around.respond (opening settings) start).reply.outcome = .error fault := by
    rw [Reply.outcome, refused]
    rfl
  intro finished
  have ran : finished = _ := run_inSession (.start start)
  rw [show (Progress.start start).state = start from rfl, outcome] at ran
  rw [ran]
  exact ⟨rfl, rfl⟩

/-- What a reply to the closing call comes to is not part of the result. -/
theorem inSession_opened {text : String} {start : σ}
    (answered : (around.respond (opening settings) start).reply = .answered text) :
    let finished := (inSession around settings outlet work).run (.start start)
    let worked := work.run (connected around settings (.start start))
    finished.2.calls = worked.2.calls ++
      [(.disconnect, (around.respond .disconnect worked.2.state).reply)] ∧
        Told outlet worked.1 finished.1 := by
  intro finished worked
  have ran : finished = _ := run_inSession (.start start)
  rw [show (Progress.start start).state = start from rfl, answered] at ran
  have closes : finished = (tell outlet worked.1, ((Client.close around .command).run worked.2).2) :=
    ran
  rw [closes, Client.run_close]
  exact ⟨rfl, told_tell outlet worked.1⟩

variable (around settings outlet)

/-- A session that is open is used for the errand of its command unless the file lacks something,
and closed. -/
theorem execute_opened {command : Command} (needs : command.needsSession = true)
    {text : String} {start : σ}
    (answered : (around.respond (opening settings) start).reply = .answered text) :
    let finished := (execute around settings outlet command).run (.start start)
    let opened := around.respond (opening settings) start
    let storage := around.storage opened.state
    (∃ fault, command.Lacks storage fault ∧
      finished.2.calls = [(opening settings, opened.reply),
        (.disconnect, (around.respond .disconnect opened.state).reply)] ∧
      finished.1 = (.error (.client fault), outlet)) ∨
    ∃ errand, Asks settings storage (around.draw 0) command errand ∧
      let answered := around.respond errand.call opened.state
      finished.2.calls = [(opening settings, opened.reply), (errand.call, answered.reply),
        (.disconnect, (around.respond .disconnect answered.state).reply)] ∧
      Told outlet (answered.reply.result.bind errand.read) finished.1 := by
  intro finished opened storage
  obtain ⟨work, within, performs⟩ := exists_work around settings outlet needs
  have ran : finished = (inSession around settings outlet work).run (.start start) := by
    simp only [finished, within]
  obtain ⟨calls, told⟩ : _ ∧ _ := inSession_opened answered
  rw [← ran] at told calls
  have performed := performs (connected around settings (.start start))
  generalize work.run (connected around settings (.start start)) = worked at told calls performed
  cases performed with
  | lacking lacks => exact .inl ⟨_, lacks, calls, told.failed _ rfl⟩
  | made asks state called =>
    rw [called, state] at calls
    exact .inr ⟨_, asks, calls, told⟩

/-- A session that is refused is neither used nor closed. -/
private theorem execute_refused {command : Command} (needs : command.needsSession = true)
    {fault : ClientError} {start : σ}
    (refused : (around.respond (opening settings) start).reply.result = .error fault) :
    let finished := (execute around settings outlet command).run (.start start)
    finished.2.calls = [(opening settings, (around.respond (opening settings) start).reply)] ∧
      finished.1 = (.error (.client fault), outlet) := by
  intro finished
  obtain ⟨work, within, -⟩ := exists_work around settings outlet needs
  have ran : finished = (inSession around settings outlet work).run (.start start) := by
    simp only [finished, within]
  rw [ran]
  exact inSession_refused refused

private theorem execute_connect (start : σ) :
    let finished := (execute around settings outlet .connect).run (.start start)
    let opened := around.respond (opening settings) start
    finished.2.calls = [(opening settings, opened.reply)] ∧
      Told outlet (opened.reply.result.map fun _ => "connected as " ++ settings.credentials.user)
        finished.1 := by
  intro finished opened
  have connects : finished =
      (tell outlet (((Client.connect around settings.credentials).run (.start start)).1.map fun () =>
          "connected as " ++ settings.credentials.user),
        ((Client.connect around settings.credentials).run (.start start)).2) := rfl
  rw [Client.run_connect] at connects
  have came : (opened.reply.outcome.map fun () => "connected as " ++ settings.credentials.user) =
      opened.reply.result.map fun _ => "connected as " ++ settings.credentials.user := by
    cases opened.reply <;> rfl
  rw [connects, ← came]
  exact ⟨rfl, told_tell outlet _⟩

private theorem execute_disconnect (start : σ) :
    let finished := (execute around settings outlet .disconnect).run (.start start)
    let closed := around.respond .disconnect start
    finished.2.calls = [(.disconnect, closed.reply)] ∧
      Told outlet (closed.reply.result.map fun _ => "disconnected") finished.1 := by
  intro finished closed
  have disconnects : finished =
      (tell outlet (((Client.disconnect around).run (.start start)).1.map fun () => "disconnected"),
        ((Client.disconnect around).run (.start start)).2) := rfl
  rw [Client.run_disconnect] at disconnects
  have came : (closed.reply.outcome.map fun () => "disconnected") =
      closed.reply.result.map fun _ => "disconnected" := by
    cases closed.reply <;> rfl
  rw [disconnects, ← came]
  exact ⟨rfl, told_tell outlet _⟩

/-- Whatever a command does, it tells what came of it, except that a feeder run is not for it. -/
private theorem execute_tells (command : Command) (start : σ) :
    let finished := (execute around settings outlet command).run (.start start)
    (∃ came, Told outlet came finished.1) ∨ finished.1 = (.error .notHere, outlet) := by
  intro finished
  by_cases needs : command.needsSession = true
  · left
    cases opened : (around.respond (opening settings) start).reply.result with
    | error fault =>
      have refused : finished.1 = _ := (execute_refused around settings outlet needs opened).2
      rw [refused]
      exact ⟨.error fault, told_tell outlet (.error fault)⟩
    | ok text =>
      rcases execute_opened around settings outlet needs (Reply.answered_of_result opened) with
        ⟨fault, -, -, lost⟩ | ⟨errand, -, -, told⟩
      · rw [show finished.1 = _ from lost]
        exact ⟨.error fault, told_tell outlet (.error fault)⟩
      · exact ⟨_, told⟩
  · cases command with
    | connect => exact .inl ⟨_, (execute_connect around settings outlet start).2⟩
    | disconnect => exact .inl ⟨_, (execute_disconnect around settings outlet start).2⟩
    | run => exact .inr rfl
    | _ => exact absurd rfl needs

/-- A command without a session makes one call at most. -/
private theorem length_calls_le {command : Command} (needless : command.needsSession ≠ true)
    (start : σ) :
    ((execute around settings outlet command).run (.start start)).2.calls.length ≤ 1 := by
  cases command with
  | connect =>
    have calls := (execute_connect around settings outlet start).1
    exact Nat.le_of_eq (congrArg List.length calls)
  | disconnect =>
    have calls := (execute_disconnect around settings outlet start).1
    exact Nat.le_of_eq (congrArg List.length calls)
  | run => exact Nat.zero_le 1
  | _ => exact absurd rfl needless

/-- A session that is open begins with its opening and ends with its closing. -/
private theorem calls_bracketed {command : Command} (needs : command.needsSession = true)
    {text : String} {start : σ}
    (answered : (around.respond (opening settings) start).reply = .answered text) :
    ∃ middle closed, ((execute around settings outlet command).run (.start start)).2.calls =
      (opening settings, (around.respond (opening settings) start).reply) ::
        (middle ++ [(.disconnect, closed)]) := by
  rcases execute_opened around settings outlet needs answered with
    ⟨fault, -, calls, -⟩ | ⟨errand, -, calls, -⟩
  · exact ⟨[], _, calls⟩
  · exact ⟨[_], _, calls⟩

/-- A command that succeeds has written one line, and nothing else. -/
private theorem execute_grows (command : Command) (start : σ) :
    let finished := (execute around settings outlet command).run (.start start)
    finished.1.1 = .ok () → ∃ text, finished.1.2 = outlet.grown (Outlet.line text) := by
  intro finished succeeded
  rcases execute_tells around settings outlet command start with ⟨came, told⟩ | elsewhere
  · obtain ⟨text, -, -, grown⟩ := told.of_ok succeeded
    exact ⟨text, grown⟩
  · rw [show finished.1 = _ from elsewhere] at succeeded
    cases succeeded

/-- Where no limit is in the way, a command writes exactly if it succeeds. -/
private theorem execute_writes (command : Command) (start : σ) (free : outlet.limit = none) :
    let finished := (execute around settings outlet command).run (.start start)
    (finished.1.1 = .ok () ↔ finished.1.2.written ≠ outlet.written) ∧
      (finished.1.1 ≠ .ok () → finished.1.2 = outlet) := by
  intro finished
  rcases execute_tells around settings outlet command start with ⟨came, told⟩ | elsewhere
  · exact told.writes free
  · rw [show finished.1 = _ from elsewhere]
    exact ⟨⟨nofun, fun changed => absurd rfl changed⟩, fun _ => rfl⟩

/-- A command that fails leaves the outlet alone, unless it is the outlet that fails. -/
private theorem execute_spares (command : Command) (start : σ) {fault : CommandFault} :
    let finished := (execute around settings outlet command).run (.start start)
    finished.1.1 = .error fault →
      finished.1.2 = outlet ∨ ∃ room stop, fault = .output stop ∧
        outlet.limit = some (room, stop) ∧ finished.1.2.limit = some (0, stop) := by
  intro finished failed
  rcases execute_tells around settings outlet command start with ⟨came, told⟩ | elsewhere
  · exact told.spares failed
  · exact .inl (congrArg Prod.snd elsewhere)

/-- Every command keeps to its bracket, whatever its file holds and however its calls come out. What
comes of it is told to the outlet, and nothing that fails is written. -/
theorem execute_brackets (around : Surroundings σ) (settings : Settings) (outlet : Outlet)
    (command : Command) (start : σ) :
    let finished := (execute around settings outlet command).run (.start start)
    let opened := around.respond (opening settings) start
    (command = .connect →
      finished.2.calls = [(opening settings, opened.reply)] ∧
      Told outlet (opened.reply.result.map fun _ => "connected as " ++ settings.credentials.user)
        finished.1) ∧
    (command = .disconnect →
      let closed := around.respond .disconnect start
      finished.2.calls = [(.disconnect, closed.reply)] ∧
      Told outlet (closed.reply.result.map fun _ => "disconnected") finished.1) ∧
    (command = .run → finished.2.calls = [] ∧ finished.1 = (.error .notHere, outlet)) ∧
    (command.needsSession = true → ∀ fault, opened.reply.result = .error fault →
      finished.2.calls = [(opening settings, opened.reply)] ∧
        finished.1 = (.error (.client fault), outlet)) ∧
    (command.needsSession = true → ∀ text, opened.reply = .answered text →
      let storage := around.storage opened.state
      (∀ fault, command.Lacks storage fault →
        finished.2.calls = [(opening settings, opened.reply),
          (.disconnect, (around.respond .disconnect opened.state).reply)] ∧
        finished.1 = (.error (.client fault), outlet)) ∧
      ((∀ fault, ¬ command.Lacks storage fault) → ∃ errand,
        Asks settings storage (around.draw 0) command errand ∧
        command.operation? = some errand.call.operation ∧
        let answered := around.respond errand.call opened.state
        finished.2.calls = [(opening settings, opened.reply), (errand.call, answered.reply),
          (.disconnect, (around.respond .disconnect answered.state).reply)] ∧
        Told outlet (answered.reply.result.bind errand.read) finished.1)) ∧
    (∀ text, opened.reply = .answered text →
      ((∃ middle closed, finished.2.calls =
          (opening settings, opened.reply) :: (middle ++ [(.disconnect, closed)])) ↔
        command.needsSession = true)) ∧
    (finished.1.1 = .ok () → ∃ text, finished.1.2 = outlet.grown (Outlet.line text)) ∧
    (∀ fault, finished.1.1 = .error fault →
      finished.1.2 = outlet ∨ ∃ room stop, fault = .output stop ∧
        outlet.limit = some (room, stop) ∧ finished.1.2.limit = some (0, stop)) ∧
    (outlet.limit = none →
      (finished.1.1 = .ok () ↔ finished.1.2.written ≠ outlet.written) ∧
        (finished.1.1 ≠ .ok () → finished.1.2 = outlet)) := by
  intro finished opened
  refine ⟨?_, ?_, ?_, ?_, ?_, ?_, ?_, ?_, ?_⟩
  · rintro rfl
    exact execute_connect around settings outlet start
  · rintro rfl
    exact execute_disconnect around settings outlet start
  · rintro rfl
    exact ⟨rfl, rfl⟩
  · intro needs fault refused
    exact execute_refused around settings outlet needs refused
  · intro needs text answered storage
    rcases execute_opened around settings outlet needs answered with
      ⟨own, lacks, ended⟩ | ⟨errand, asks, ended⟩
    · refine ⟨fun fault again => ?_, fun complete => absurd lacks (complete own)⟩
      obtain rfl := lacks.unique again
      exact ended
    · exact ⟨fun fault lacks => absurd lacks (asks.not_lacks fault),
        fun _ => ⟨errand, asks, asks.operation, ended⟩⟩
  · intro text answered
    constructor
    · rintro ⟨middle, closed, calls⟩
      by_cases needs : command.needsSession = true
      · exact needs
      · have short : finished.2.calls.length ≤ 1 :=
          length_calls_le around settings outlet needs start
        rw [calls, List.length_cons, List.length_append, List.length_singleton] at short
        omega
    · intro needs
      exact calls_bracketed around settings outlet needs answered
  · exact execute_grows around settings outlet command start
  · intro fault
    exact execute_spares around settings outlet command start
  · exact execute_writes around settings outlet command start

end Session

/-- An account with the settings that are standard. -/
def plain : Settings where
  library := .standard
  credentials := ⟨"monitor", "secret"⟩
  agent := .standard none
  feeder := .standard
  logging := .standard

/-- An empty report as the only file. -/
def shelf : Surroundings StandIn where
  respond := StandIn.respond
  storage _ path := if path = "empty.json" then .file [0x7B, 0x7D] else .missing .notFound
  draw := Draw.numbered 7 .epoch

/-- A stand-in whose sessions open and fail to close. -/
def clinging : StandIn := StandIn.fresh.fail .disconnect "still here"

/-- What fails when a session is closed changes no result; a file that is missing and an outlet that
is full do. -/
theorem execute_brackets_clinging :
    let sending outlet file :=
      (execute shelf plain outlet (.sendMetrics file)).run (.start clinging)
    let sent := sending .unlimited "empty.json"
    let full := sending (.limited 4 (.other "no space")) "empty.json"
    let lost := sending .unlimited "lost.json"
    sent.1 = (.ok (), Outlet.unlimited.grown (Outlet.line "sent 0 resource(s)")) ∧
      sent.2.calls.map (fun (call, reply) => (call.operation, reply.result.isOk)) =
        [(.connect, true), (.send, true), (.disconnect, false)] ∧
      full.1 = (.error (.output (.other "no space")),
        ⟨Text.Utf8.encode "sent".toList, some (0, .other "no space")⟩) ∧
      full.2.calls = sent.2.calls ∧
      lost.1 = (.error (.client (.io .notFound)), .unlimited) ∧
      lost.2.calls.map (·.1.operation) = [.connect, .disconnect] := by
  intro sending sent full lost
  have asked : Asks plain (shelf.storage clinging) (shelf.draw 0) (.sendMetrics "empty.json")
      ⟨.send (Document.encode (Report.withContext ⟨none, []⟩ (plain.agent.context (shelf.draw 0)))),
        fun _ => .ok "sent 0 resource(s)"⟩ := by
    have held : (shelf.storage clinging).readText "empty.json" = .ok "\x7b\x7d" := rfl
    have carried : Document.decode "\x7b\x7d" = .ok (⟨none, []⟩ : Report) := rfl
    exact .send held carried
  have lacks : (Command.sendMetrics "lost.json").Lacks (shelf.storage clinging) (.io .notFound) :=
    .unread rfl
  obtain ⟨-, -, -, -, wrote, -⟩ :=
    execute_brackets shelf plain .unlimited (.sendMetrics "empty.json") clinging
  obtain ⟨errand, asks, -, calls, told⟩ := (wrote rfl "" rfl).2 asked.not_lacks
  obtain rfl := asked.unique asks
  obtain ⟨-, -, -, -, stopped, -⟩ :=
    execute_brackets shelf plain (.limited 4 (.other "no space")) (.sendMetrics "empty.json") clinging
  obtain ⟨errand, asks, -, same, refused⟩ := (stopped rfl "" rfl).2 asked.not_lacks
  obtain rfl := asked.unique asks
  obtain ⟨-, -, -, -, missed, -⟩ :=
    execute_brackets shelf plain .unlimited (.sendMetrics "lost.json") clinging
  obtain ⟨short, fault⟩ := (missed rfl "" rfl).1 _ lacks
  refine ⟨told.written _ rfl (Outlet.takes_of_unlimited rfl _), ?_, ?_, same.trans calls.symm,
    fault, ?_⟩
  · rw [show sent.2.calls = _ from calls]
    rfl
  · exact refused.refused _ 4 _ rfl rfl (by decide)
  · rw [show lost.2.calls = _ from short]
    rfl

end MonitorFeed.Command
