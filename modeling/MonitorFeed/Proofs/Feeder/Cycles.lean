import MonitorFeed.Proofs.Feeder.Attempts

/-!
What the cycles of a feeder come to: the deliveries of their slots are attempted in order, each one is
counted, and each that fails is logged. A step is one part of a cycle; a run puts steps together.
-/

namespace MonitorFeed

namespace FeederStats

/-- Counts taken together. -/
def add (left right : FeederStats) : FeederStats :=
  ⟨left.cycles + right.cycles, left.inventorySent + right.inventorySent,
    left.metricsSent + right.metricsSent, left.failed + right.failed⟩

theorem zero_add (stats : FeederStats) : zero.add stats = stats := by
  simp [add, zero]

theorem add_assoc (first second third : FeederStats) :
    (first.add second).add third = first.add (second.add third) := by
  simp [add, Nat.add_assoc]

end FeederStats

namespace Feeder

variable {σ : Type}

/-- Whether an event says that a delivery failed. -/
def isFailure (event : Event) : Bool :=
  event.level = .warn && event.source = .feeder &&
    (event.message = Delivery.inventory.complaint || event.message = Delivery.metrics.complaint)

/-- The events that say that deliveries failed. -/
def failures (log : List Event) : List Event :=
  log.filter isFailure

@[simp] theorem failures_append (earlier later : List Event) :
    failures (earlier ++ later) = failures earlier ++ failures later :=
  List.filter_append ..

/-- The client never speaks for the feeder. -/
@[simp] theorem failures_complaint (operation : Operation) (reply : Reply) :
    failures (Client.complaint operation reply) = [] := by
  cases reply <;> rfl

/-- Whether a delivery succeeded. -/
def Outcome.isDelivered (outcome : Outcome σ) : Bool :=
  outcome.result.isOk

@[simp] theorem Outcome.isDelivered_unloaded (fault : ClientError) :
    (Outcome.unloaded fault : Outcome σ).isDelivered = false := rfl

@[simp] theorem Outcome.isDelivered_called (call : Call) (response : Response σ) :
    (Outcome.called call response).isDelivered = response.reply.result.isOk := by
  rw [isDelivered, result, Reply.outcome]
  cases response.reply.result <;> rfl

/-- What the feeder logs about an attempt. -/
def report : Slot × Outcome σ → List Event
  | (slot, outcome) =>
    match outcome.result with
    | .ok () => []
    | .error fault =>
      [event .warn slot.delivery.complaint
        [("cycle", .count slot.cycle), ("error", .text fault.message)]]

/-- The deliveries of a kind that succeeded. -/
def sent (delivery : Delivery) (outcomes : List (Slot × Outcome σ)) : Nat :=
  outcomes.countP fun (slot, outcome) => slot.delivery = delivery && outcome.isDelivered

/-- The deliveries that failed. -/
def missed (outcomes : List (Slot × Outcome σ)) : Nat :=
  outcomes.countP fun (_, outcome) => !outcome.isDelivered

/-- The counts of a number of cycles and their attempts. -/
def tally (cycles : Nat) (outcomes : List (Slot × Outcome σ)) : FeederStats :=
  ⟨cycles, sent .inventory outcomes, sent .metrics outcomes, missed outcomes⟩

theorem tally_append (first second : Nat) (earlier later : List (Slot × Outcome σ)) :
    (tally first earlier).add (tally second later) = tally (first + second) (earlier ++ later) := by
  simp only [tally, FeederStats.add, sent, missed, List.countP_append]

end Feeder

/-- What the next delivery of a feeder depends on. -/
def Progress.point {σ : Type} (progress : Progress σ) : Feeder.Point σ :=
  ⟨progress.state, progress.draws⟩

namespace Feeder

variable {σ : Type}

section Delivering

variable {around : Surroundings σ} {feeder : Feeder}

/-- A part of a run has delivered what a slot holds: it came out as the attempt does, made its call
and left its point, and said nothing of a failure itself. -/
structure Delivered (around : Surroundings σ) (feeder : Feeder) (slot : Slot)
    (progress : Progress σ) (finished : Except ClientError Unit × Progress σ) : Prop where
  result : finished.1 = (feeder.attempt around slot progress.point).1.result
  point : finished.2.point = (feeder.attempt around slot progress.point).2
  calls : finished.2.calls =
    progress.calls ++ (feeder.attempt around slot progress.point).1.exchange?.toList
  logged : failures finished.2.log =
    failures progress.log ++ failures (feeder.attempt around slot progress.point).1.events

private theorem delivered_unloaded {slot : Slot} {progress : Progress σ} {fault : ClientError}
    (prepared : slot.delivery.prepare (around.storage progress.state) slot.path
      (feeder.settings.agent.context (around.draw progress.draws)) = .error fault) :
    Delivered around feeder slot progress (.error fault, progress) := by
  have attempted : feeder.attempt around slot progress.point = (.unloaded fault, progress.point) := by
    simp only [attempt, Progress.point, prepared]
  constructor <;> rw [attempted]
  · rfl
  · exact (List.append_nil _).symm
  · exact (List.append_nil _).symm

private theorem delivered_called {slot : Slot} {progress : Progress σ} {call : Call}
    (prepared : slot.delivery.prepare (around.storage progress.state) slot.path
      (feeder.settings.agent.context (around.draw progress.draws)) = .ok call)
    {events : List Event} (silent : failures events = []) :
    Delivered around feeder slot progress
      ((around.respond call progress.state).reply.outcome,
        (Progress.note { progress with draws := progress.draws + 1 } events).asked around call) := by
  have attempted : feeder.attempt around slot progress.point =
      (.called call (around.respond call progress.state),
        ⟨(around.respond call progress.state).state, progress.draws + 1⟩) := by
    simp only [attempt, Progress.point, prepared]
  constructor <;> rw [attempted]
  · rfl
  · rfl
  · rfl
  · simp [silent, Outcome.events]

private theorem run_sendInventory (path : String) (progress : Progress σ) :
    (feeder.sendInventory around path).run progress =
      (match Document.load (α := Inventory) (around.storage progress.state) path with
        | .error fault => return .error fault
        | .ok inventory => do
          let inventory :=
            inventory.withContext (feeder.settings.agent.context (← Session.draw around))
          Session.log (event .info "Synchronizing inventory"
            [("resources", .count inventory.resources.length)])
          Client.synchronize around inventory : Session σ _).run progress := rfl

theorem delivered_sendInventory (cycle : Nat) (path : String) (progress : Progress σ) :
    Delivered around feeder ⟨cycle, .inventory, path⟩ progress
      ((feeder.sendInventory around path).run progress) := by
  rw [run_sendInventory]
  cases loaded : Document.load (α := Inventory) (around.storage progress.state) path with
  | error fault => exact delivered_unloaded (by simp only [Delivery.prepare, loaded]; rfl)
  | ok inventory =>
    change Delivered around feeder _ progress
      ((Client.synchronize around
        (inventory.withContext (feeder.settings.agent.context (around.draw progress.draws)))).run
          (Progress.note { progress with draws := progress.draws + 1 } [_]))
    rw [Client.run_synchronize, Progress.note_note]
    exact delivered_called (by simp only [Delivery.prepare, loaded]; rfl) rfl

private theorem run_sendMetrics (path : String) (progress : Progress σ) :
    (feeder.sendMetrics around path).run progress =
      (match Document.load (α := Report) (around.storage progress.state) path with
        | .error fault => return .error fault
        | .ok report => do
          let report := report.withContext (feeder.settings.agent.context (← Session.draw around))
          Session.log (event .info "Sending metrics"
            [("resources", .count report.resources.length)])
          Client.send around report : Session σ _).run progress := rfl

theorem delivered_sendMetrics (cycle : Nat) (path : String) (progress : Progress σ) :
    Delivered around feeder ⟨cycle, .metrics, path⟩ progress
      ((feeder.sendMetrics around path).run progress) := by
  rw [run_sendMetrics]
  cases loaded : Document.load (α := Report) (around.storage progress.state) path with
  | error fault => exact delivered_unloaded (by simp only [Delivery.prepare, loaded]; rfl)
  | ok report =>
    change Delivered around feeder _ progress
      ((Client.send around
        (report.withContext (feeder.settings.agent.context (around.draw progress.draws)))).run
          (Progress.note { progress with draws := progress.draws + 1 } [_]))
    rw [Client.run_send, Progress.note_note]
    exact delivered_called (by simp only [Delivery.prepare, loaded]; rfl) rfl

end Delivering

/-- A part of a run has gone through slots: it attempted their deliveries, counted them together with
a number of cycles, made their calls, and logged their failures. -/
structure Advanced (around : Surroundings σ) (feeder : Feeder) (cycles : Nat) (slots : List Slot)
    (stats : FeederStats) (progress : Progress σ) (finished : FeederStats × Progress σ) : Prop where
  stats : finished.1 = stats.add (tally cycles (feeder.attempts around slots progress.point).1)
  point : finished.2.point = (feeder.attempts around slots progress.point).2
  calls : finished.2.calls =
    progress.calls ++ exchanges (feeder.attempts around slots progress.point).1
  logged : failures finished.2.log =
    failures progress.log ++ (feeder.attempts around slots progress.point).1.flatMap fun attempt =>
      failures attempt.2.events ++ report attempt

/-- A part of a cycle always goes through certain slots. -/
def Advances (around : Surroundings σ) (feeder : Feeder) (cycles : Nat) (slots : List Slot)
    (part : FeederStats → Session σ FeederStats) : Prop :=
  ∀ stats progress,
    Advanced around feeder cycles slots stats progress ((part stats).run progress)

section Advancing

variable {around : Surroundings σ} {feeder : Feeder}

theorem advances_pure : Advances around feeder 0 [] (fun stats => pure stats) := by
  intro stats progress
  exact ⟨rfl, rfl, (List.append_nil _).symm, (List.append_nil _).symm⟩

/-- The end of a cycle counts it. -/
theorem advances_done :
    Advances around feeder 1 [] (fun stats => pure { stats with cycles := stats.cycles + 1 }) := by
  intro stats progress
  exact ⟨rfl, rfl, (List.append_nil _).symm, (List.append_nil _).symm⟩

/-- Parts of a run go through their slots one after the other. -/
theorem Advances.bind {first second : Nat} {earlier later : List Slot}
    {part next : FeederStats → Session σ FeederStats}
    (parts : Advances around feeder first earlier part)
    (onward : Advances around feeder second later next) :
    Advances around feeder (first + second) (earlier ++ later) (fun stats => part stats >>= next) := by
  intro stats progress
  have head := parts stats progress
  obtain ⟨counted, reached, called, logged⟩ :=
    onward ((part stats).run progress).1 ((part stats).run progress).2
  have ran : (part stats >>= next).run progress =
      (next ((part stats).run progress).1).run ((part stats).run progress).2 := rfl
  rw [head.point] at counted reached called logged
  rw [ran]
  constructor <;> rw [attempts_append]
  · rw [counted, head.stats, FeederStats.add_assoc, tally_append]
  · exact reached
  · simp only [called, head.calls, exchanges, List.filterMap_append, List.append_assoc]
  · simp only [logged, head.logged, List.flatMap_append, List.append_assoc]

/-- The counts of one delivery. -/
def one (delivery : Delivery) : FeederStats :=
  ⟨0, if delivery = .inventory then 1 else 0, if delivery = .metrics then 1 else 0, 0⟩

private theorem tally_delivered {slot : Slot} {outcome : Outcome σ}
    (delivered : outcome.isDelivered = true) : tally 0 [(slot, outcome)] = one slot.delivery := by
  simp [tally, sent, missed, one, List.countP_singleton, delivered]

private theorem tally_lost {slot : Slot} {outcome : Outcome σ}
    (lost : outcome.isDelivered = false) : tally 0 [(slot, outcome)] = ⟨0, 0, 0, 1⟩ := by
  simp [tally, sent, missed, lost]

/-- What is logged about a delivery that fails says so. -/
private theorem failures_event (delivery : Delivery) (details : List (String × Detail)) :
    failures [event .warn delivery.complaint details] = [event .warn delivery.complaint details] := by
  cases delivery <;> rfl

/-- A delivery that is counted or else logged goes through its slot. -/
theorem advances_slot {slot : Slot} {deliver : Session σ (Except ClientError Unit)}
    (delivered : ∀ progress, Delivered around feeder slot progress (deliver.run progress))
    {count : FeederStats → FeederStats} (counts : ∀ stats, count stats = stats.add (one slot.delivery)) :
    Advances around feeder 0 [slot] (fun stats => do
      match ← deliver with
      | .ok () => return count stats
      | .error fault => noteFailure slot.cycle slot.delivery.complaint fault stats) := by
  intro stats progress
  obtain ⟨came, reached, called, logged⟩ := delivered progress
  let outcome := (feeder.attempt around slot progress.point).1
  have attempted : feeder.attempts around [slot] progress.point =
      ([(slot, outcome)], (feeder.attempt around slot progress.point).2) := rfl
  have ran : (do
        match ← deliver with
        | .ok () => return count stats
        | .error fault =>
          noteFailure slot.cycle slot.delivery.complaint fault stats : Session σ _).run progress =
      (match outcome.result with
        | .ok () => return count stats
        | .error fault =>
          noteFailure slot.cycle slot.delivery.complaint fault stats : Session σ _).run
            (deliver.run progress).2 := by
    rw [← came]
    rfl
  have exchanged : exchanges [(slot, outcome)] = outcome.exchange?.toList := by
    rw [exchanges_cons]
    exact List.append_nil _
  rw [ran]
  cases result : outcome.result with
  | ok answer =>
    have delivered : outcome.isDelivered = true := by rw [Outcome.isDelivered, result]; rfl
    have said : [(slot, outcome)].flatMap (fun attempt =>
        failures attempt.2.events ++ report attempt) = failures outcome.events := by
      simp [report, result]
    constructor <;> rw [attempted]
    · rw [tally_delivered delivered]
      exact counts stats
    · exact reached
    · rw [exchanged]
      exact called
    · rw [said]
      exact logged
  | error fault =>
    have lost : outcome.isDelivered = false := by rw [Outcome.isDelivered, result]; rfl
    have said : [(slot, outcome)].flatMap (fun attempt =>
        failures attempt.2.events ++ report attempt) =
        failures outcome.events ++ failures [event .warn slot.delivery.complaint
          [("cycle", .count slot.cycle), ("error", .text fault.message)]] := by
      rw [failures_event]
      simp [report, result]
    constructor <;> rw [attempted]
    · rw [tally_lost lost]
      rfl
    · exact reached
    · rw [exchanged]
      exact called
    · rw [said, ← List.append_assoc, ← logged]
      exact failures_append _ _

theorem advances_inventoryStep (cycle : Nat) :
    Advances around feeder 0 (feeder.inventorySlots cycle) (feeder.inventoryStep around cycle) := by
  intro stats progress
  cases due : feeder.inventoryDue cycle with
  | false =>
    have apart : ¬ feeder.settings.feeder.inventoryEvery.toNat ∣ cycle := by
      rw [← inventoryDue_iff_dvd, due]
      exact Bool.false_ne_true
    simp only [inventorySlots, inventoryStep, due, apart, ↓reduceIte]
    exact advances_pure stats progress
  | true =>
    have multiple := inventoryDue_iff_dvd.mp due
    cases file : feeder.settings.feeder.inventoryFile with
    | none =>
      simp only [inventorySlots, inventoryStep, due, multiple, file, ↓reduceIte]
      exact advances_pure stats progress
    | some path =>
      simp only [inventorySlots, inventoryStep, due, multiple, file, ↓reduceIte]
      exact advances_slot (delivered_sendInventory cycle path) (fun stats => rfl) stats progress

theorem advances_metricsStep (cycle : Nat) :
    Advances around feeder 0 (feeder.metricsSlots cycle) (feeder.metricsStep around cycle) := by
  cases file : feeder.settings.feeder.metricsFile with
  | none =>
    intro stats progress
    simp only [metricsSlots, metricsStep, file]
    exact advances_pure stats progress
  | some path =>
    intro stats progress
    simp only [metricsSlots, metricsStep, file]
    exact advances_slot (delivered_sendMetrics cycle path) (fun stats => rfl) stats progress

/-- A cycle goes through its slots. -/
theorem advances_cycle (number : Nat) :
    Advances around feeder 1 (feeder.slots number) (feeder.cycle around number) := by
  have done : Advances around feeder 1 [] _ := advances_done
  have steps := (advances_inventoryStep number).bind ((advances_metricsStep number).bind done)
  rw [List.append_nil] at steps
  exact steps

/-- Cycles go through the slots of each, in order. -/
theorem advances_cycles (first count : Nat) :
    Advances around feeder count (feeder.schedule first count) (feeder.cycles around count first) := by
  induction count generalizing first with
  | zero => exact advances_pure
  | succ count ih =>
    have steps := (advances_cycle first).bind (ih (first + 1))
    rw [Nat.add_comm] at steps
    exact steps

end Advancing

end Feeder

end MonitorFeed
