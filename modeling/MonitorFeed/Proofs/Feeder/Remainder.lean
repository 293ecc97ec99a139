import MonitorFeed.Backend.Rehearsal
import MonitorFeed.Library.Binding
import MonitorFeed.Proofs.Feeder.Trace
import MonitorFeed.Proofs.Settings.Fitness

/-!
The remainder that tells in which cycles the inventory is due. Here the run of a feeder is told once
more with a division that can fail, so that a remainder by zero would end the run for good; since
settings are validated before the first cycle, it never does.
-/

namespace MonitorFeed

variable {σ : Type}

/-- A part of a run that a failing division ends for good. -/
abbrev Guarded (σ : Type) := OptionT (Session σ)

namespace Guarded

variable {α β : Type}

/-- No division fails, and all else is as in a run without divisions that can. -/
def Agrees (guarded : Guarded σ α) (plain : Session σ α) : Prop :=
  guarded.run = some <$> plain

theorem Agrees.pure (value : α) : Agrees (pure value : Guarded σ α) (pure value) := by
  rw [Agrees, OptionT.run_pure, map_pure]

theorem Agrees.lift (plain : Session σ α) : Agrees (OptionT.lift plain) plain := by
  rw [Agrees, OptionT.run_lift, map_eq_pure_bind]

theorem Agrees.bind {guarded : Guarded σ α} {plain : Session σ α} {next : α → Guarded σ β}
    {plainNext : α → Session σ β} (first : Agrees guarded plain)
    (rest : ∀ value, Agrees (next value) (plainNext value)) :
    Agrees (guarded >>= next) (plain >>= plainNext) := by
  have step : (guarded >>= next).run = plain >>= fun value => (next value).run := by
    rw [OptionT.run_bind, first]
    simp
  rw [Agrees, step, map_bind]
  exact bind_congr rest

end Guarded

namespace Feeder

open Guarded

/-- A remainder; there is none by zero. -/
def remainder? (number divisor : Nat) : Option Nat :=
  if divisor = 0 then none else some (number % divisor)

section Twin

variable (around : Surroundings σ) (feeder : Feeder)

/-- Whether the inventory is due in a cycle, which takes a division to tell. -/
def guardedDue (cycle : Nat) : Guarded σ Bool := do
  let remainder ← OptionT.mk (pure (remainder? cycle feeder.settings.feeder.inventoryEvery.toNat))
  return remainder = 0

/-- The inventory's part of a cycle. The division comes first, whether there is a file or not. -/
def guardedInventoryStep (cycle : Nat) (stats : FeederStats) : Guarded σ FeederStats := do
  match ← feeder.guardedDue cycle, feeder.settings.feeder.inventoryFile with
  | true, some path =>
    match ← OptionT.lift (feeder.sendInventory around path) with
    | .ok () => return { stats with inventorySent := stats.inventorySent + 1 }
    | .error fault =>
      OptionT.lift (noteFailure cycle "Failed to synchronize inventory" fault stats)
  | _, _ => return stats

/-- One cycle, the inventory first. -/
def guardedCycle (number : Nat) (stats : FeederStats) : Guarded σ FeederStats := do
  let stats ← feeder.guardedInventoryStep around number stats
  let stats ← OptionT.lift (feeder.metricsStep around number stats)
  return { stats with cycles := stats.cycles + 1 }

/-- A number of cycles, from a given one on. -/
def guardedCycles : (count first : Nat) → FeederStats → Guarded σ FeederStats
  | 0, _, stats => return stats
  | count + 1, first, stats => do
    let stats ← feeder.guardedCycle around first stats
    guardedCycles count (first + 1) stats

/-- What a connected feeder does after its cycles. -/
def farewell (extent : Extent) (stats : FeederStats) : Session σ FeederStats := do
  feeder.announceEnd extent
  Client.close around .feeder
  Session.log (event .info "Goodbye!"
    [("runner", .text feeder.name), ("delivered", .count stats.delivered),
      ("failed", .count stats.failed)])
  return stats

/-- What a connected feeder does. -/
def guardedFeed (extent : Extent) : Guarded σ FeederStats := do
  let stats ← feeder.guardedCycles around extent.cycles 0 .zero
  OptionT.lift (feeder.farewell around extent stats)

/-- The run of a feeder in which a division by zero ends everything. -/
def guardedRun (shutdown : Option Nat) :
    Guarded σ (Option (Except ClientError FeederStats)) := do
  match feeder.settings.validate with
  | .error fault => return some (.error fault)
  | .ok () =>
    match ← OptionT.lift (Client.connect around feeder.settings.credentials) with
    | .error fault => return some (.error fault)
    | .ok () =>
      let plan := feeder.settings.feeder
      OptionT.lift <| Session.log (event .info "Connected to transit. Press Ctrl+C to stop."
        [("runner", .text feeder.name), ("interval_secs", .count plan.intervalSeconds.toNat),
          ("inventory_every", .count plan.inventoryEvery.toNat)])
      match Extent.of? (plan.maxCycles.map (·.toNat)) shutdown with
      | none => return none
      | some extent => return some (.ok (← feeder.guardedFeed around extent))

/-- The division is no formality: a feeder whose inventory never comes round does not survive its
first cycle. -/
theorem guardedCycle_of_never (never : feeder.settings.feeder.inventoryEvery = 0) (number : Nat)
    (stats : FeederStats) : (feeder.guardedCycle around number stats).run = pure none := by
  have fails : remainder? number feeder.settings.feeder.inventoryEvery.toNat = none := by
    rw [never]
    rfl
  rw [guardedCycle, guardedInventoryStep, guardedDue, fails]
  rfl

variable {feeder}

theorem agrees_guardedDue (fit : feeder.settings.Fit) (cycle : Nat) :
    Agrees (feeder.guardedDue cycle : Guarded σ Bool) (pure (feeder.inventoryDue cycle)) := by
  have divides : remainder? cycle feeder.settings.feeder.inventoryEvery.toNat =
      some (cycle % feeder.settings.feeder.inventoryEvery.toNat) :=
    if_neg (Nat.one_le_iff_ne_zero.mp fit.recurs)
  rw [guardedDue, divides]
  exact Agrees.pure _

theorem agrees_guardedInventoryStep (fit : feeder.settings.Fit) (cycle : Nat)
    (stats : FeederStats) :
    Agrees (feeder.guardedInventoryStep around cycle stats)
      (feeder.inventoryStep around cycle stats) := by
  have told : feeder.inventoryStep around cycle stats =
      (pure (feeder.inventoryDue cycle) : Session σ Bool) >>= fun due =>
        match due, feeder.settings.feeder.inventoryFile with
        | true, some path => do
          match ← feeder.sendInventory around path with
          | .ok () => return { stats with inventorySent := stats.inventorySent + 1 }
          | .error fault => noteFailure cycle "Failed to synchronize inventory" fault stats
        | _, _ => return stats := rfl
  rw [told, guardedInventoryStep]
  refine (agrees_guardedDue fit cycle).bind fun due => ?_
  split
  · refine (Agrees.lift _).bind fun sent => ?_
    cases sent with
    | ok _ => exact Agrees.pure _
    | error fault => exact Agrees.lift _
  · exact Agrees.pure _

theorem agrees_guardedCycle (fit : feeder.settings.Fit) (number : Nat) (stats : FeederStats) :
    Agrees (feeder.guardedCycle around number stats) (feeder.cycle around number stats) :=
  (agrees_guardedInventoryStep around fit number stats).bind fun _ =>
    (Agrees.lift _).bind fun _ => Agrees.pure _

/-- With fit settings no division of any cycle fails, however many there are. -/
theorem agrees_guardedCycles (fit : feeder.settings.Fit) (count first : Nat)
    (stats : FeederStats) :
    Agrees (feeder.guardedCycles around count first stats)
      (feeder.cycles around count first stats) := by
  induction count generalizing first stats with
  | zero => exact Agrees.pure stats
  | succ count ih =>
    exact (agrees_guardedCycle around fit first stats).bind fun stats => ih (first + 1) stats

theorem agrees_guardedFeed (fit : feeder.settings.Fit) (extent : Extent) :
    Agrees (feeder.guardedFeed around extent) (feeder.feed around extent) :=
  (agrees_guardedCycles around fit extent.cycles 0 .zero).bind fun _ => Agrees.lift _

/-- Whatever the settings, no division of the run of a feeder fails. -/
theorem agrees_guardedRun (feeder : Feeder) (shutdown : Option Nat) :
    Agrees (feeder.guardedRun around shutdown) (feeder.run around shutdown) := by
  rw [guardedRun, run]
  cases valid : feeder.settings.validate with
  | error fault => exact Agrees.pure _
  | ok _ =>
    have fit : feeder.settings.Fit := Settings.validate_eq_ok_iff.mp valid
    refine (Agrees.lift _).bind fun connected => ?_
    cases connected with
    | error fault => exact Agrees.pure _
    | ok _ =>
      refine (Agrees.lift _).bind fun _ => ?_
      cases Extent.of? (feeder.settings.feeder.maxCycles.map (·.toNat)) shutdown with
      | none => exact Agrees.pure _
      | some extent => exact (agrees_guardedFeed around fit extent).bind fun _ => Agrees.pure _

end Twin

/-- A feeder with fit settings fails for a flaw in them only if what answers its first call says
so. -/
theorem opened_of_configInvalid (around : Surroundings σ) {feeder : Feeder}
    (fit : feeder.settings.Fit) (shutdown : Option Nat) (start : σ) {text : String}
    (failed : ((feeder.run around shutdown).run (.start start)).1 =
      some (.error (.configInvalid text))) :
    (feeder.opened around start).reply = .failed (.configInvalid text) := by
  have valid : feeder.settings.validate = .ok () := Settings.validate_eq_ok_iff.mpr fit
  have unopened {fault : ClientError}
      (refused : (feeder.opened around start).reply.result = .error fault) :
      fault = .configInvalid text := by
    rw [(feeder.run_of_unconnected around shutdown start valid refused).1] at failed
    exact Except.error.inj (Option.some.inj failed)
  cases reply : (feeder.opened around start).reply with
  | answered greeting =>
    cases found : Extent.of? feeder.limit shutdown with
    | none =>
      rw [feeder.run_of_endless around shutdown start valid reply found] at failed
      cases failed
    | some extent =>
      rw [(feeder.run_of_extent around shutdown start valid reply found).1] at failed
      cases failed
  | failed fault =>
    rw [reply] at unopened
    rw [unopened rfl]
  | crashed report =>
    rw [reply] at unopened
    cases unopened rfl

end Feeder

/-- A backend that has no say in what a configuration should be. -/
def Impartial (respond : Backend σ) : Prop :=
  ∀ call state text, (respond call state).reply ≠ .failed (.configInvalid text)

theorem Library.impartial_respond (functions : Library.Functions σ) :
    Impartial (Library.respond functions) := by
  intro call state text
  rw [Library.respond]
  cases prepared : Library.prepare call with
  | error fault =>
    rw [Library.prepare] at prepared
    split at prepared
    · cases prepared
    · split_ifs at prepared
      obtain rfl := Except.error.inj prepared
      simp
  | ok prepared =>
    simp only [Library.conclude, Library.acceptText]
    split
    · split_ifs <;> simp
    · simp
    · split <;> simp

theorem StandIn.impartial_respond : Impartial StandIn.respond := by
  intro call double text
  simp only [StandIn.respond, StandIn.reply]
  cases double.failures call.operation with
  | some regret => simp
  | none =>
    cases call with
    | test resource =>
      cases double.echo with
      | some echo => simp
      | none =>
        simp only [StandIn.echoOf]
        split <;> simp
    | _ => simp

theorem Rehearsal.impartial_respond : Impartial Rehearsal.respond := by
  intro call rehearsal text
  rw [Rehearsal.respond]
  split
  · simp
  · exact StandIn.impartial_respond call _ text

/-- A configuration that has been loaded is fit for use, and stays so under any overrides: a run with
it never fails for a flaw in its settings. And no run at all, whatever its settings, takes a remainder
by zero. -/
theorem loaded_settings_serve :
    (∀ (hostname : Option String) (settings : Settings), settings.Loaded hostname →
      ∀ sequence : List Overrides,
        (Overrides.applyAll sequence settings).Fit ∧
        ∀ {σ : Type} (around : Surroundings σ), Impartial around.respond →
          ∀ (name : String) (shutdown : Option Nat) (start : σ) (text : String),
            let feeder : Feeder := ⟨name, Overrides.applyAll sequence settings⟩
            ((feeder.run around shutdown).run (.start start)).1 ≠
              some (.error (.configInvalid text))) ∧
    (∀ {σ : Type} (functions : Library.Functions σ), Impartial (Library.respond functions)) ∧
    Impartial StandIn.respond ∧ Impartial Rehearsal.respond ∧
    ∀ {σ : Type} (around : Surroundings σ) (feeder : Feeder),
      (∀ shutdown, (feeder.guardedRun around shutdown).run =
        some <$> feeder.run around shutdown) ∧
      (feeder.settings.validate = .ok () → ∀ count first stats,
        (feeder.guardedCycles around count first stats).run =
          some <$> feeder.cycles around count first stats) := by
  refine ⟨?_, Library.impartial_respond, StandIn.impartial_respond, Rehearsal.impartial_respond, ?_⟩
  · intro hostname settings loaded sequence
    have fit := loaded.fit.applyAll sequence
    refine ⟨fit, ?_⟩
    intro σ around impartial name shutdown start text feeder failed
    exact impartial _ _ _ (Feeder.opened_of_configInvalid around fit shutdown start failed)
  · intro σ around feeder
    refine ⟨feeder.agrees_guardedRun around, ?_⟩
    intro valid count first stats
    exact Feeder.agrees_guardedCycles around (Settings.validate_eq_ok_iff.mp valid) count first stats

/-- Settings whose numbers are written as no JSON document would have them. -/
def lenientText : String :=
  "\x7bcredentials: \x7buser: 'a', password: ''\x7d, " ++
    "feeder: \x7binterval_secs: 0x10, inventory_every: 1.9\x7d\x7d"

theorem loaded_settings_serve_lenient :
    ∃ settings, Settings.parse none lenientText = .ok settings ∧
      (settings.feeder.intervalSeconds, settings.feeder.inventoryEvery) = (16, 1) ∧
      settings.Fit := by
  have numbers : (Settings.parse none lenientText).map
      (fun settings => (settings.feeder.intervalSeconds, settings.feeder.inventoryEvery)) =
        .ok (16, 1) := by decide +kernel
  cases parsed : Settings.parse none lenientText with
  | error fault =>
    rw [parsed] at numbers
    cases numbers
  | ok settings =>
    rw [parsed] at numbers
    exact ⟨settings, rfl, Except.ok.inj numbers,
      (loaded_settings_serve.1 none settings (.parsed parsed) []).1⟩

/-- A negative number of seconds is read as none, which validation refuses. -/
example : (Settings.parse none
    "\x7bcredentials: \x7buser: 'a', password: ''\x7d, feeder: \x7binterval_secs: -5\x7d\x7d").map
      (fun settings => settings.feeder.intervalSeconds) =
    .error (.configInvalid Settings.Flaw.noInterval.message) := by decide +kernel

end MonitorFeed
