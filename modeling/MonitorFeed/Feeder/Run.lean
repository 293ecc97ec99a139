import MonitorFeed.Client
import MonitorFeed.Feeder.Schedule
import MonitorFeed.Feeder.Stats
import MonitorFeed.Payload.File
import MonitorFeed.Settings.Basic

/-!
The feeder: in every cycle it delivers the metrics file, and in the first of every few cycles the
inventory file before it. A delivery that fails is counted and the run goes on; a run that has
connected always disconnects.
-/

namespace MonitorFeed

/-- A feeder under a name. -/
structure Feeder where
  name : String
  settings : Settings

namespace Feeder

variable {σ : Type}

/-- The name of a feeder that is given none. -/
def defaultName : String := "feeder"

/-- An event of a feeder. -/
def event (level : Level) (message : String) (details : List (String × Detail)) : Event :=
  ⟨level, .feeder, message, details⟩

/-- Stamps an inventory anew and delivers it. -/
def sendInventory (around : Surroundings σ) (feeder : Feeder) (path : String) :
    Session σ (Except ClientError Unit) := do
  match Document.load (α := Inventory) (← Session.files around) path with
  | .error fault => return .error fault
  | .ok inventory =>
    let inventory := inventory.withContext (feeder.settings.agent.context (← Session.draw around))
    Session.log (event .info "Synchronizing inventory"
      [("resources", .count inventory.resources.length)])
    Client.synchronize around inventory

/-- Stamps a report anew and delivers it. -/
def sendMetrics (around : Surroundings σ) (feeder : Feeder) (path : String) :
    Session σ (Except ClientError Unit) := do
  match Document.load (α := Report) (← Session.files around) path with
  | .error fault => return .error fault
  | .ok report =>
    let report := report.withContext (feeder.settings.agent.context (← Session.draw around))
    Session.log (event .info "Sending metrics" [("resources", .count report.resources.length)])
    Client.send around report

/-- Counts a failed delivery of a cycle and logs it. -/
def noteFailure (cycle : Nat) (message : String) (fault : ClientError) (stats : FeederStats) :
    Session σ FeederStats := do
  Session.log (event .warn message [("cycle", .count cycle), ("error", .text fault.message)])
  return { stats with failed := stats.failed + 1 }

/-- Whether the inventory is due in a cycle. -/
def inventoryDue (feeder : Feeder) (cycle : Nat) : Bool :=
  cycle % feeder.settings.feeder.inventoryEvery.toNat = 0

/-- The inventory's part of a cycle. -/
def inventoryStep (around : Surroundings σ) (feeder : Feeder) (cycle : Nat) (stats : FeederStats) :
    Session σ FeederStats := do
  match feeder.inventoryDue cycle, feeder.settings.feeder.inventoryFile with
  | true, some path =>
    match ← feeder.sendInventory around path with
    | .ok () => return { stats with inventorySent := stats.inventorySent + 1 }
    | .error fault => noteFailure cycle "Failed to synchronize inventory" fault stats
  | _, _ => return stats

/-- The metrics' part of a cycle. -/
def metricsStep (around : Surroundings σ) (feeder : Feeder) (cycle : Nat) (stats : FeederStats) :
    Session σ FeederStats := do
  match feeder.settings.feeder.metricsFile with
  | some path =>
    match ← feeder.sendMetrics around path with
    | .ok () => return { stats with metricsSent := stats.metricsSent + 1 }
    | .error fault => noteFailure cycle "Failed to send metrics" fault stats
  | none => return stats

/-- One cycle, the inventory first. -/
def cycle (around : Surroundings σ) (feeder : Feeder) (number : Nat) (stats : FeederStats) :
    Session σ FeederStats := do
  let stats ← feeder.inventoryStep around number stats
  let stats ← feeder.metricsStep around number stats
  return { stats with cycles := stats.cycles + 1 }

/-- A number of cycles, from a given one on. -/
def cycles (around : Surroundings σ) (feeder : Feeder) :
    (count first : Nat) → FeederStats → Session σ FeederStats
  | 0, _, stats => return stats
  | count + 1, first, stats => do
    let stats ← feeder.cycle around first stats
    cycles around feeder count (first + 1) stats

/-- Tells why the cycles have ended. -/
def announceEnd (feeder : Feeder) (extent : Extent) : Session σ Unit :=
  Session.log <|
    if extent.interrupted then
      event .info "Received shutdown signal" [("runner", .text feeder.name)]
    else
      event .info "Reached max cycles"
        [("runner", .text feeder.name), ("cycles", .count extent.cycles)]

/-- What a connected feeder does. -/
def feed (around : Surroundings σ) (feeder : Feeder) (extent : Extent) :
    Session σ FeederStats := do
  let stats ← feeder.cycles around extent.cycles 0 .zero
  feeder.announceEnd extent
  Client.close around .feeder
  Session.log (event .info "Goodbye!"
    [("runner", .text feeder.name), ("delivered", .count stats.delivered),
      ("failed", .count stats.failed)])
  return stats

/-- Validates the settings, connects and feeds until the limit of cycles is reached, or until a
shutdown in the pause of a given number. There is no result if the feeder connects and then never
ends. -/
def run (around : Surroundings σ) (feeder : Feeder) (shutdown : Option Nat) :
    Session σ (Option (Except ClientError FeederStats)) := do
  match feeder.settings.validate with
  | .error fault => return some (.error fault)
  | .ok () =>
    match ← Client.connect around feeder.settings.credentials with
    | .error fault => return some (.error fault)
    | .ok () =>
      let plan := feeder.settings.feeder
      Session.log (event .info "Connected to transit. Press Ctrl+C to stop."
        [("runner", .text feeder.name), ("interval_secs", .count plan.intervalSeconds.toNat),
          ("inventory_every", .count plan.inventoryEvery.toNat)])
      match Extent.of? (plan.maxCycles.map (·.toNat)) shutdown with
      | none => return none
      | some extent => return some (.ok (← feeder.feed around extent))

/-- What is logged about a feeder over a library before it runs. -/
def created (feeder : Feeder) : Event :=
  event .debug "Runner created"
    [("runner", .text feeder.name), ("library", .text feeder.settings.library.path)]

end Feeder

end MonitorFeed
