import MonitorFeed.Backend.StandIn
import MonitorFeed.Payload.Token
import MonitorFeed.Proofs.Feeder.Course
import MonitorFeed.Proofs.Feeder.Cycles

/-!
The run of a feeder from its first call to its last. Everything between the two is what the beats of
its loop make due.
-/

namespace MonitorFeed.Feeder

variable {σ : Type}

/-- The call with which a feeder opens its session. -/
def opening (feeder : Feeder) : Call :=
  .connect (Document.encode feeder.settings.credentials)

/-- The most cycles that a feeder does. -/
def limit (feeder : Feeder) : Option Nat :=
  feeder.settings.feeder.maxCycles.map (·.toNat)

/-- What is due in the beats of a loop. -/
def due (feeder : Feeder) (beats : List Beat) : List Slot :=
  beats.flatMap fun
    | .cycle number => feeder.slots number
    | .wait _ => []

private theorem due_beatsFrom (feeder : Feeder) (count first : Nat) (interrupted : Bool) :
    feeder.due (Extent.beatsFrom count first interrupted) = feeder.schedule first count := by
  induction count generalizing first with
  | zero => rfl
  | succ count ih =>
    cases count with
    | zero => cases interrupted <;> simp [Extent.beatsFrom, due, schedule]
    | succ count =>
      calc feeder.due (Extent.beatsFrom (count + 2) first interrupted)
        _ = feeder.slots first ++ feeder.due (Extent.beatsFrom (count + 1) (first + 1) interrupted) :=
          rfl
        _ = feeder.slots first ++ feeder.schedule (first + 1) (count + 1) := by rw [ih (first + 1)]
        _ = feeder.schedule first (count + 2) := rfl

theorem due_beats (feeder : Feeder) (extent : Extent) :
    feeder.due extent.beats = feeder.schedule 0 extent.cycles :=
  feeder.due_beatsFrom extent.cycles 0 extent.interrupted

section Run

variable (around : Surroundings σ) (feeder : Feeder)

/-- What is logged at the end of the cycles. -/
private def ending (extent : Extent) : Event :=
  if extent.interrupted then event .info "Received shutdown signal" [("runner", .text feeder.name)]
  else
    event .info "Reached max cycles"
      [("runner", .text feeder.name), ("cycles", .count extent.cycles)]

/-- An event that is no warning says nothing of a failure. -/
private theorem failures_quiet {event : Event} (quiet : event.level ≠ .warn) :
    failures [event] = [] := by
  simp [failures, isFailure, quiet]

private theorem failures_ending (extent : Extent) : failures [feeder.ending extent] = [] := by
  apply failures_quiet
  unfold ending
  split <;> exact Level.noConfusion

private theorem failures_regret (reply : Reply) :
    failures (Client.regret .feeder reply) = [] := by
  cases reply <;> rfl

/-- A connected feeder goes through its cycles and closes its session, whose reply is only logged. -/
theorem run_feed (extent : Extent) (progress : Progress σ) :
    let attempted := feeder.attempts around (feeder.schedule 0 extent.cycles) progress.point
    let closed := around.respond .disconnect attempted.2.state
    let fed := (feeder.feed around extent).run progress
    fed.1 = tally extent.cycles attempted.1 ∧
      fed.2.calls = progress.calls ++ (exchanges attempted.1 ++ [(.disconnect, closed.reply)]) ∧
      failures fed.2.log =
        failures progress.log ++ (attempted.1.flatMap (fun attempt =>
          failures attempt.2.events ++ report attempt) ++ failures closed.events) := by
  intro attempted closed fed
  have advances : Advances around feeder extent.cycles (feeder.schedule 0 extent.cycles)
      (feeder.cycles around extent.cycles 0) := advances_cycles 0 extent.cycles
  obtain ⟨counted, reached, called, logged⟩ := advances .zero progress
  rw [FeederStats.zero_add] at counted
  have state : ((feeder.cycles around extent.cycles 0 .zero).run progress).2.state =
      attempted.2.state := congrArg Point.state reached
  have ran : fed =
      (((feeder.cycles around extent.cycles 0 .zero).run progress).1,
        ((Client.close around .feeder).run
          (((feeder.cycles around extent.cycles 0 .zero).run progress).2.note
            [feeder.ending extent])).2.note
          [event .info "Goodbye!" [("runner", .text feeder.name),
            ("delivered", .count
              ((feeder.cycles around extent.cycles 0 .zero).run progress).1.delivered),
            ("failed", .count ((feeder.cycles around extent.cycles 0 .zero).run progress).1.failed)]]) :=
    rfl
  rw [Client.run_close] at ran
  rw [ran]
  refine ⟨counted, ?_, ?_⟩
  · simp only [Progress.calls_note, Progress.calls_asked, Progress.state_note, called, state,
      List.append_assoc]
    rfl
  · have parting : failures [Client.event .debug "Disconnecting from transit" []] = [] :=
      failures_quiet Level.noConfusion
    have goodbye (details : List (String × Detail)) :
        failures [event .info "Goodbye!" details] = [] := failures_quiet Level.noConfusion
    simp only [Progress.log_note, Progress.log_asked, Progress.state_note, failures_append,
      failures_complaint, failures_ending, failures_regret, parting, goodbye, logged, state,
      List.append_nil, List.append_assoc]
    rfl

variable (shutdown : Option Nat) (start : σ)

/-- How the call came out with which the feeder opened its session. -/
def opened : Response σ :=
  around.respond feeder.opening start

/-- A feeder with a flaw in its settings does nothing. -/
theorem run_of_invalid {fault : ClientError} (flawed : feeder.settings.validate = .error fault) :
    (feeder.run around shutdown).run (.start start) = (some (.error fault), .start start) := by
  simp only [run, flawed]
  rfl

/-- What a feeder does when its settings are valid: it opens its session first. -/
private theorem run_of_valid (valid : feeder.settings.validate = .ok ()) :
    (feeder.run around shutdown).run (.start start) =
      (match (feeder.opened around start).reply.outcome with
        | .error fault => return some (.error fault)
        | .ok () => do
          Session.log (event .info "Connected to transit. Press Ctrl+C to stop."
            [("runner", .text feeder.name),
              ("interval_secs", .count feeder.settings.feeder.intervalSeconds.toNat),
              ("inventory_every", .count feeder.settings.feeder.inventoryEvery.toNat)])
          match Extent.of? feeder.limit shutdown with
          | none => return none
          | some extent => return some (.ok (← feeder.feed around extent)) : Session σ _).run
        ((Progress.note (.start start) [Client.event .debug "Connecting to transit"
          [("user", .text feeder.settings.credentials.user)]]).asked around feeder.opening) := by
  have connects : (feeder.run around shutdown).run (.start start) =
      (match ((Client.connect around feeder.settings.credentials).run (.start start)).1 with
        | .error fault => return some (.error fault)
        | .ok () => do
          Session.log (event .info "Connected to transit. Press Ctrl+C to stop."
            [("runner", .text feeder.name),
              ("interval_secs", .count feeder.settings.feeder.intervalSeconds.toNat),
              ("inventory_every", .count feeder.settings.feeder.inventoryEvery.toNat)])
          match Extent.of? feeder.limit shutdown with
          | none => return none
          | some extent => return some (.ok (← feeder.feed around extent)) : Session σ _).run
        ((Client.connect around feeder.settings.credentials).run (.start start)).2 := by
    simp only [run, valid]
    rfl
  rw [connects, Client.run_connect]
  rfl

/-- A feeder whose session cannot be opened makes no other call. -/
theorem run_of_unconnected (valid : feeder.settings.validate = .ok ()) {fault : ClientError}
    (refused : (feeder.opened around start).reply.result = .error fault) :
    let finished := (feeder.run around shutdown).run (.start start)
    finished.1 = some (.error fault) ∧
      finished.2.calls = [(feeder.opening, (feeder.opened around start).reply)] := by
  have outcome : (feeder.opened around start).reply.outcome = .error fault := by
    rw [Reply.outcome, refused]
    rfl
  intro finished
  have ran : finished = _ := feeder.run_of_valid around shutdown start valid
  rw [outcome] at ran
  rw [ran]
  exact ⟨rfl, rfl⟩

/-- A feeder with neither a limit nor a shutdown never ends. -/
theorem run_of_endless (valid : feeder.settings.validate = .ok ()) {text : String}
    (answered : (feeder.opened around start).reply = .answered text)
    (endless : Extent.of? feeder.limit shutdown = none) :
    ((feeder.run around shutdown).run (.start start)).1 = none := by
  rw [feeder.run_of_valid around shutdown start valid, answered, endless]
  rfl

/-- The trace of a feeder that never ends is that of its first call. -/
theorem calls_of_endless (valid : feeder.settings.validate = .ok ()) {text : String}
    (answered : (feeder.opened around start).reply = .answered text)
    (endless : Extent.of? feeder.limit shutdown = none) :
    ((feeder.run around shutdown).run (.start start)).2.calls =
      [(feeder.opening, (feeder.opened around start).reply)] := by
  have accepted : (feeder.opened around start).reply.outcome = .ok () := by
    rw [answered]
    rfl
  rw [feeder.run_of_valid around shutdown start valid, accepted, endless]
  rfl

/-- A feeder that ends goes through the slots of its cycles between its first call and its last. -/
theorem run_of_extent (valid : feeder.settings.validate = .ok ()) {text : String}
    (answered : (feeder.opened around start).reply = .answered text) {extent : Extent}
    (found : Extent.of? feeder.limit shutdown = some extent) :
    let attempted := feeder.attempts around (feeder.schedule 0 extent.cycles)
      ⟨(feeder.opened around start).state, 0⟩
    let closed := around.respond .disconnect attempted.2.state
    let finished := (feeder.run around shutdown).run (.start start)
    finished.1 = some (.ok (tally extent.cycles attempted.1)) ∧
      finished.2.calls = (feeder.opening, .answered text) ::
        (exchanges attempted.1 ++ [(.disconnect, closed.reply)]) ∧
      failures finished.2.log =
        failures (feeder.opened around start).events ++ (attempted.1.flatMap (fun attempt =>
          failures attempt.2.events ++ report attempt) ++ failures closed.events) := by
  intro attempted closed finished
  let connected : Progress σ :=
    ((Progress.note (.start start) [Client.event .debug "Connecting to transit"
      [("user", .text feeder.settings.credentials.user)]]).asked around feeder.opening).note
        [event .info "Connected to transit. Press Ctrl+C to stop."
          [("runner", .text feeder.name),
            ("interval_secs", .count feeder.settings.feeder.intervalSeconds.toNat),
            ("inventory_every", .count feeder.settings.feeder.inventoryEvery.toNat)]]
  have ran : finished =
      (some (.ok ((feeder.feed around extent).run connected).1),
        ((feeder.feed around extent).run connected).2) := by
    have ran : finished = _ := feeder.run_of_valid around shutdown start valid
    rw [answered, found] at ran
    exact ran
  obtain ⟨counted, called, logged⟩ := feeder.run_feed around extent connected
  have calls : connected.calls = [(feeder.opening, .answered text)] := by
    rw [← answered]
    rfl
  have log : failures connected.log = failures (feeder.opened around start).events := by
    have connecting (details : List (String × Detail)) :
        failures [Client.event .debug "Connecting to transit" details] = [] :=
      failures_quiet Level.noConfusion
    have ready (details : List (String × Detail)) :
        failures [event .info "Connected to transit. Press Ctrl+C to stop." details] = [] :=
      failures_quiet Level.noConfusion
    simp only [connected, Progress.log_note, Progress.log_asked, Progress.state_note,
      failures_append, failures_complaint, connecting, ready, List.append_nil]
    rfl
  rw [calls] at called
  rw [log] at logged
  rw [ran]
  exact ⟨congrArg (fun stats => some (Except.ok stats)) counted, called, logged⟩

/-- A feeder whose loop has a course goes through what is due in it, between its first call and its
last. -/
theorem run_of_course (valid : feeder.settings.validate = .ok ()) {text : String}
    (answered : (feeder.opened around start).reply = .answered text) {beats : List Beat}
    {interrupted : Bool} (course : Course feeder.limit shutdown 0 beats interrupted) :
    let opened := feeder.opened around start
    let attempted := feeder.attempts around (feeder.due beats) ⟨opened.state, 0⟩
    let closed := around.respond .disconnect attempted.2.state
    let finished := (feeder.run around shutdown).run (.start start)
    finished.1 = some (.ok (tally (cycleCount beats) attempted.1)) ∧
      finished.2.calls = (feeder.opening, opened.reply) ::
        (exchanges attempted.1 ++ [(.disconnect, closed.reply)]) ∧
      waitCount beats = if interrupted then cycleCount beats else cycleCount beats - 1 := by
  intro opened attempted closed finished
  obtain ⟨extent, found, rfl, rfl⟩ := Extent.course_iff.mp course
  obtain ⟨result, calls, -⟩ := feeder.run_of_extent around shutdown start valid answered found
  simp only [attempted, closed, due_beats, cycleCount_beats, opened, answered]
  exact ⟨result, calls, waitCount_beats found⟩

/-- The run of a feeder, whatever the files hold, however calls come out, and wherever a shutdown
wins. A flaw of the settings comes before any call, and a refused session before any other. A session
that is open goes through what the beats of the loop make due, and is closed by one call that changes
no result. -/
theorem run_trace (around : Surroundings σ) (feeder : Feeder) (shutdown : Option Nat) (start : σ) :
    let finished := (feeder.run around shutdown).run (.start start)
    let opened := feeder.opened around start
    (∀ fault, feeder.settings.validate = .error fault →
      finished.1 = some (.error fault) ∧ finished.2.calls = []) ∧
    (feeder.settings.validate = .ok () → ∀ fault, opened.reply.result = .error fault →
      finished.1 = some (.error fault) ∧ finished.2.calls = [(feeder.opening, opened.reply)]) ∧
    (feeder.settings.validate = .ok () → ∀ text, opened.reply = .answered text →
      (feeder.limit = none ∧ shutdown = none → finished.1 = none) ∧
      (feeder.limit ≠ none ∨ shutdown ≠ none →
        ∃ beats interrupted, Course feeder.limit shutdown 0 beats interrupted) ∧
      ∀ beats interrupted, Course feeder.limit shutdown 0 beats interrupted →
        let attempted := feeder.attempts around (feeder.due beats) ⟨opened.state, 0⟩
        let closed := around.respond .disconnect attempted.2.state
        finished.1 = some (.ok (tally (cycleCount beats) attempted.1)) ∧
          finished.2.calls = (feeder.opening, opened.reply) ::
            (exchanges attempted.1 ++ [(.disconnect, closed.reply)]) ∧
          waitCount beats = if interrupted then cycleCount beats else cycleCount beats - 1) := by
  intro finished opened
  refine ⟨?_, ?_, ?_⟩
  · intro fault flawed
    have ran : finished = _ := feeder.run_of_invalid around shutdown start flawed
    rw [ran]
    exact ⟨rfl, rfl⟩
  · intro valid fault refused
    exact feeder.run_of_unconnected around shutdown start valid refused
  · intro valid text answered
    refine ⟨?_, ?_, ?_⟩
    · intro endless
      exact feeder.run_of_endless around shutdown start valid answered (Extent.of?_eq_none.mpr endless)
    · intro bounded
      cases found : Extent.of? feeder.limit shutdown with
      | none =>
        obtain ⟨noLimit, noShutdown⟩ := Extent.of?_eq_none.mp found
        rcases bounded with given | given
        · exact absurd noLimit given
        · exact absurd noShutdown given
      | some extent => exact ⟨_, _, Extent.course_of_extent found⟩
    · intro beats interrupted course
      exact feeder.run_of_course around shutdown start valid answered course

end Run

/-- A feeder of three cycles: the inventory is due in the first and the last, the metrics in each. -/
def shortRun : Feeder where
  name := "short run"
  settings :=
    { library := .standard
      credentials := ⟨"monitor", "secret"⟩
      agent := .standard none
      feeder := ⟨60, 2, some "metrics.json", some "inventory.json", some 3⟩
      logging := .standard }

/-- A stand-in that answers every call, and an empty inventory as the only file. -/
def answering : Surroundings StandIn where
  respond := StandIn.respond
  storage _ path := if path = "inventory.json" then .file [0x7B, 0x7D] else .missing .notFound
  draw := Draw.numbered 7 .epoch

/-- The loop of the short run waits twice and ends by itself. -/
theorem course_shortRun :
    Course shortRun.limit none 0 [.cycle 0, .wait 0, .cycle 1, .wait 1, .cycle 2] false := by
  have limit : shortRun.limit = some 3 := rfl
  rw [limit]
  exact .resumed (by simp) nofun (.resumed (by simp) nofun (.last (by simp) (by simp)))

/-- The inventory is due in the first cycle and in the third, and held both times; the metrics are due
in each cycle and held in none. -/
theorem run_trace_shortRun :
    let finished := (shortRun.run answering none).run (.start .fresh)
    shortRun.due [.cycle 0, .wait 0, .cycle 1, .wait 1, .cycle 2] =
        [⟨0, .inventory, "inventory.json"⟩, ⟨0, .metrics, "metrics.json"⟩,
          ⟨1, .metrics, "metrics.json"⟩, ⟨2, .inventory, "inventory.json"⟩,
          ⟨2, .metrics, "metrics.json"⟩] ∧
      finished.1 = some (.ok ⟨3, 2, 0, 3⟩) ∧
      finished.2.calls.map (·.1.operation) =
        [.connect, .synchronize, .synchronize, .disconnect] := by
  intro finished
  obtain ⟨-, -, opened⟩ := run_trace answering shortRun none .fresh
  obtain ⟨-, -, ran⟩ := opened rfl "" rfl
  obtain ⟨result, calls, -⟩ := ran _ _ course_shortRun
  refine ⟨rfl, result.trans rfl, ?_⟩
  rw [show finished.2.calls = _ from calls]
  rfl

end MonitorFeed.Feeder
