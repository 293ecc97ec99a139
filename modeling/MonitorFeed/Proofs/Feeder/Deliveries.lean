import MonitorFeed.Library.Binding
import MonitorFeed.Proofs.Feeder.Trace

/-!
The counts of a feeder, held against its calls, its schedule and its log. No delivery is lost from the
counts: each slot is either counted as sent or as failed, and only what failed is logged as such.
-/

namespace MonitorFeed.Feeder

variable {σ : Type}

section Counts

/-- A delivery is sent, of the one kind or the other, or else it is missed. -/
theorem sent_add_missed (outcomes : List (Slot × Outcome σ)) :
    sent .inventory outcomes + sent .metrics outcomes + missed outcomes = outcomes.length := by
  induction outcomes with
  | nil => rfl
  | cons attempt outcomes ih =>
    obtain ⟨⟨cycle, delivery, path⟩, outcome⟩ := attempt
    simp only [sent, missed, List.countP_cons, List.length_cons] at ih ⊢
    cases delivery <;> cases outcome.isDelivered <;> simp <;> omega

/-- Whether an operation was called and answered. -/
def answered (operation : Operation) : Call × Reply → Bool
  | (call, reply) => call.operation = operation && reply.result.isOk

private theorem countP_exchange? (around : Surroundings σ) (feeder : Feeder) (delivery : Delivery)
    (slot : Slot) (point : Point σ) :
    let outcome := (feeder.attempt around slot point).1
    outcome.exchange?.toList.countP (answered delivery.operation) =
      if slot.delivery = delivery && outcome.isDelivered then 1 else 0 := by
  intro outcome
  cases came : outcome with
  | unloaded fault => simp [Outcome.exchange?]
  | called call response =>
    have own := operation_of_attempt came
    simp [Outcome.exchange?, answered, own, List.countP_singleton, Delivery.operation_inj]

/-- The deliveries of a kind that succeeded are the calls of its operation that were answered. -/
theorem countP_answered (around : Surroundings σ) (feeder : Feeder) (delivery : Delivery)
    (slots : List Slot) (point : Point σ) :
    (exchanges (feeder.attempts around slots point).1).countP (answered delivery.operation) =
      sent delivery (feeder.attempts around slots point).1 := by
  induction slots generalizing point with
  | nil => rfl
  | cons slot slots ih =>
    have head := countP_exchange? around feeder delivery slot point
    have tail := ih (feeder.attempt around slot point).2
    simp only [attempts, exchanges_cons, List.countP_append, sent, List.countP_cons] at head tail ⊢
    rw [head, tail, Nat.add_comm]

/-- The first call of a run and its last deliver nothing. -/
theorem countP_calls (around : Surroundings σ) (feeder : Feeder) (delivery : Delivery)
    (slots : List Slot) (point : Point σ) (first last : Reply) :
    ((feeder.opening, first) :: (exchanges (feeder.attempts around slots point).1 ++
      [(.disconnect, last)])).countP (answered delivery.operation) =
        sent delivery (feeder.attempts around slots point).1 := by
  have opens : answered delivery.operation (feeder.opening, first) = false := by
    cases delivery <;> rfl
  have closes : answered delivery.operation (.disconnect, last) = false := by
    cases delivery <;> rfl
  rw [List.countP_cons, List.countP_append, List.countP_singleton, opens, closes, countP_answered]
  rfl

/-- Each slot is counted once. -/
theorem tally_total (around : Surroundings σ) (feeder : Feeder) (cycles : Nat) (slots : List Slot)
    (point : Point σ) :
    let stats := tally cycles (feeder.attempts around slots point).1
    stats.inventorySent + stats.metricsSent + stats.failed = slots.length := by
  intro stats
  have tried := congrArg List.length (feeder.map_fst_attempts around slots point)
  rw [List.length_map] at tried
  rw [← tried]
  exact sent_add_missed _

/-- What is logged of failed deliveries: what the surroundings say themselves, and one event for each
delivery that is missed. -/
theorem length_flatMap_report (outcomes : List (Slot × Outcome σ)) :
    (outcomes.flatMap fun attempt => failures attempt.2.events ++ report attempt).length =
      (failures (outcomes.flatMap (·.2.events))).length + missed outcomes := by
  induction outcomes with
  | nil => rfl
  | cons attempt outcomes ih =>
    obtain ⟨slot, outcome⟩ := attempt
    have told : (report (slot, outcome)).length = if !outcome.isDelivered then 1 else 0 := by
      cases result : outcome.result <;> simp [report, Outcome.isDelivered, result, Except.isOk,
        Except.toBool]
    simp only [List.flatMap_cons, List.length_append, ih, told, failures_append, missed,
      List.countP_cons]
    omega

end Counts

section Schedule

variable (feeder : Feeder)

theorem schedule_succ (cycles : Nat) :
    feeder.schedule 0 (cycles + 1) = feeder.schedule 0 cycles ++ feeder.slots cycles := by
  simp [schedule, List.range'_concat]

/-- The multiples of a number up to another one, counted from zero. -/
private theorem multiples_succ {every : Nat} (positive : 0 < every) (cycles : Nat) :
    (cycles + 1 + every - 1) / every =
      (cycles + every - 1) / every + if cycles % every = 0 then 1 else 0 := by
  have shifted : cycles + 1 + every - 1 = cycles + every - 1 + 1 := by omega
  have again : (cycles + every - 1 + 1) % every = cycles % every := by
    rw [show cycles + every - 1 + 1 = cycles + every by omega, Nat.add_mod_right]
  rw [shifted]
  by_cases multiple : cycles % every = 0
  · rw [Nat.succ_div_of_mod_eq_zero (by rw [again, multiple]), if_pos multiple]
  · rw [Nat.succ_div_of_mod_ne_zero (by rwa [again]), if_neg multiple, Nat.add_zero]

private theorem length_inventorySlots (cycle : Nat) :
    (feeder.inventorySlots cycle).length =
      if feeder.settings.feeder.inventoryFile.isSome then
        if cycle % feeder.settings.feeder.inventoryEvery.toNat = 0 then 1 else 0
      else 0 := by
  simp only [inventorySlots, Nat.dvd_iff_mod_eq_zero]
  cases feeder.settings.feeder.inventoryFile <;> simp
  split <;> rfl

private theorem length_metricsSlots (cycle : Nat) :
    (feeder.metricsSlots cycle).length =
      if feeder.settings.feeder.metricsFile.isSome then 1 else 0 := by
  unfold metricsSlots
  cases feeder.settings.feeder.metricsFile <;> rfl

/-- The number of slots in a number of cycles: one for the inventory in the first of every few
cycles, and one for the metrics in each. -/
theorem length_schedule (every : 0 < feeder.settings.feeder.inventoryEvery.toNat) (cycles : Nat) :
    (feeder.schedule 0 cycles).length =
      (if feeder.settings.feeder.inventoryFile.isSome then
        (cycles + feeder.settings.feeder.inventoryEvery.toNat - 1) /
          feeder.settings.feeder.inventoryEvery.toNat else 0) +
      (if feeder.settings.feeder.metricsFile.isSome then cycles else 0) := by
  induction cycles with
  | zero =>
    have none : (feeder.settings.feeder.inventoryEvery.toNat - 1) /
        feeder.settings.feeder.inventoryEvery.toNat = 0 := Nat.div_eq_of_lt (by omega)
    simp [schedule, none]
  | succ cycles ih =>
    rw [schedule_succ, List.length_append, ih, slots, List.length_append, length_inventorySlots,
      length_metricsSlots, multiples_succ every]
    split <;> split <;> omega

/-- A cycle has two slots at most. -/
theorem length_schedule_le (cycles : Nat) : (feeder.schedule 0 cycles).length ≤ 2 * cycles := by
  induction cycles with
  | zero => exact Nat.le_refl 0
  | succ cycles ih =>
    have inventory : (feeder.inventorySlots cycles).length ≤ 1 := by
      rw [length_inventorySlots]
      split
      · split <;> omega
      · omega
    have metrics : (feeder.metricsSlots cycles).length ≤ 1 := by
      rw [length_metricsSlots]
      split <;> omega
    rw [schedule_succ, List.length_append, slots, List.length_append]
    omega

end Schedule

/-- Valid settings let the inventory be due in some cycle. -/
theorem inventoryEvery_pos {settings : Settings} (valid : settings.validate = .ok ()) :
    0 < settings.feeder.inventoryEvery.toNat := by
  apply Nat.pos_of_ne_zero
  intro never
  have zero : settings.feeder.inventoryEvery = 0 := UInt64.toNat_inj.mp never
  have flawless : settings.flaw? = none := by
    unfold Settings.validate at valid
    split at valid
    · cases valid
    · assumption
  simp only [Settings.flaw?, zero, ↓reduceIte] at flawless
  split at flawless
  · cases flawless
  · split at flawless <;> cases flawless

section Run

variable {around : Surroundings σ} {feeder : Feeder} {shutdown : Option Nat} {start : σ}

/-- A run that returns counts had valid settings, an open session, and an end. -/
private theorem of_run_ok {stats : FeederStats}
    (ended : ((feeder.run around shutdown).run (.start start)).1 = some (.ok stats)) :
    feeder.settings.validate = .ok () ∧
      (∃ text, (feeder.opened around start).reply = .answered text) ∧
      ∃ extent, Extent.of? feeder.limit shutdown = some extent := by
  cases valid : feeder.settings.validate with
  | error fault =>
    rw [feeder.run_of_invalid around shutdown start valid] at ended
    cases ended
  | ok =>
    cases reply : (feeder.opened around start).reply with
    | answered text =>
      cases found : Extent.of? feeder.limit shutdown with
      | none =>
        rw [feeder.run_of_endless around shutdown start valid reply found] at ended
        cases ended
      | some extent => exact ⟨rfl, ⟨text, rfl⟩, extent, rfl⟩
    | failed fault =>
      have refused : (feeder.opened around start).reply.result = .error fault := by rw [reply]; rfl
      rw [(feeder.run_of_unconnected around shutdown start valid refused).1] at ended
      cases ended
    | crashed report =>
      have refused : (feeder.opened around start).reply.result = .error (.worker report) := by
        rw [reply]
        rfl
      rw [(feeder.run_of_unconnected around shutdown start valid refused).1] at ended
      cases ended

/-- The surroundings never speak of failed deliveries themselves. -/
def Quiet (around : Surroundings σ) : Prop :=
  ∀ call state, failures (around.respond call state).events = []

/-- A library speaks for itself only. -/
theorem quiet_library {functions : Library.Functions σ} {storage : σ → Storage}
    {draw : Nat → Draw} : Quiet ⟨Library.respond functions, storage, draw⟩ := by
  intro call state
  simp only [Library.respond]
  split <;> rfl

private theorem failures_events (quiet : Quiet around) (slots : List Slot) (point : Point σ) :
    failures ((feeder.attempts around slots point).1.flatMap (·.2.events)) = [] := by
  induction slots generalizing point with
  | nil => rfl
  | cons slot slots ih =>
    have silent : failures (feeder.attempt around slot point).1.events = [] := by
      unfold attempt
      simp only
      split
      · rfl
      · exact quiet _ _
    simp only [attempts, List.flatMap_cons, failures_append, silent, ih, List.append_nil]

/-- The counts of a run are those of its calls, of its schedule and of its log, whatever the files
hold, however calls come out, and wherever a shutdown wins. -/
theorem run_conserves {stats : FeederStats}
    (ended : ((feeder.run around shutdown).run (.start start)).1 = some (.ok stats)) :
    let finished := (feeder.run around shutdown).run (.start start)
    let plan := feeder.settings.feeder
    let every := plan.inventoryEvery.toNat
    let opened := feeder.opened around start
    let attempted := feeder.attempts around (feeder.schedule 0 stats.cycles) ⟨opened.state, 0⟩
    let closed := around.respond .disconnect attempted.2.state
    let heard := opened.events ++ attempted.1.flatMap (·.2.events) ++ closed.events
    finished.2.calls = (feeder.opening, opened.reply) ::
        (exchanges attempted.1 ++ [(.disconnect, closed.reply)]) ∧
      stats.inventorySent = finished.2.calls.countP (answered .synchronize) ∧
      stats.metricsSent = finished.2.calls.countP (answered .send) ∧
      stats.inventorySent + stats.metricsSent + stats.failed =
        (if plan.inventoryFile.isSome then (stats.cycles + every - 1) / every else 0) +
          (if plan.metricsFile.isSome then stats.cycles else 0) ∧
      stats.failed = missed attempted.1 ∧
      (failures finished.2.log).length = stats.failed + (failures heard).length ∧
      (Quiet around → (failures finished.2.log).length = stats.failed) ∧
      stats.delivered + stats.failed ≤ 2 * stats.cycles := by
  obtain ⟨valid, ⟨text, reply⟩, extent, found⟩ := of_run_ok ended
  obtain ⟨result, calls, logged⟩ := feeder.run_of_extent around shutdown start valid reply found
  have counted := Except.ok.inj (Option.some.inj (ended.symm.trans result))
  have cycles : stats.cycles = extent.cycles := congrArg FeederStats.cycles counted
  rw [cycles]
  intro finished plan every opened attempted closed heard
  have counts (delivery : Delivery) :
      sent delivery attempted.1 = finished.2.calls.countP (answered delivery.operation) := by
    rw [calls]
    exact (countP_calls around feeder delivery _ _ _ _).symm
  have inventory : stats.inventorySent = sent .inventory attempted.1 :=
    congrArg FeederStats.inventorySent counted
  have metrics : stats.metricsSent = sent .metrics attempted.1 :=
    congrArg FeederStats.metricsSent counted
  have failed : stats.failed = missed attempted.1 := congrArg FeederStats.failed counted
  have total : stats.inventorySent + stats.metricsSent + stats.failed =
      (feeder.schedule 0 extent.cycles).length := by
    rw [counted]
    exact tally_total around feeder extent.cycles _ _
  have warned : (failures finished.2.log).length = stats.failed + (failures heard).length := by
    have reports := length_flatMap_report attempted.1
    have log : (failures finished.2.log).length = (failures opened.events).length +
        ((attempted.1.flatMap fun attempt =>
          failures attempt.2.events ++ report attempt).length + (failures closed.events).length) := by
      rw [← List.length_append, ← List.length_append]
      exact congrArg List.length logged
    simp only [heard, failures_append, List.length_append]
    omega
  refine ⟨?_, inventory.trans (counts .inventory), metrics.trans (counts .metrics),
    total.trans (feeder.length_schedule (inventoryEvery_pos valid) extent.cycles), failed, warned,
    ?_, ?_⟩
  · rw [show opened.reply = .answered text from reply]
    exact calls
  · intro quiet
    have silent : failures heard = [] := by
      simp only [heard, failures_append, failures_events quiet, List.append_nil, attempted]
      rw [show failures opened.events = [] from quiet _ _,
        show failures closed.events = [] from quiet _ _]
      rfl
    rw [warned, silent]
    rfl
  · calc stats.delivered + stats.failed
      _ = (feeder.schedule 0 extent.cycles).length := total
      _ ≤ 2 * extent.cycles := feeder.length_schedule_le extent.cycles

end Run

theorem run_conserves_shortRun :
    let finished := (shortRun.run answering none).run (.start .fresh)
    finished.1 = some (.ok ⟨3, 2, 0, 3⟩) ∧ (failures finished.2.log).length = 3 := by
  have ended : ((shortRun.run answering none).run (.start .fresh)).1 =
      some (.ok ⟨3, 2, 0, 3⟩) := rfl
  obtain ⟨-, -, -, -, -, -, warned, -⟩ := run_conserves ended
  exact ⟨ended, warned fun _ _ => rfl⟩

end MonitorFeed.Feeder
