import MonitorFeed.Settings.Basic

/-!
When a feeder run ends, and how long it takes.
-/

namespace MonitorFeed

/-- How far a feeder run goes: the number of its cycles, and whether a shutdown ends it in the pause
after the last one. -/
structure Extent where
  cycles : Nat
  interrupted : Bool
deriving Repr, DecidableEq

namespace Extent

/-- The extent of a run with a limit of cycles, if there is one, and a shutdown in the pause after a
number of further cycles than the first, if there is one. No pause follows the last cycle of the
limit. A run with neither has no end. -/
def of? (limit shutdown : Option Nat) : Option Extent :=
  match limit, shutdown with
  | none, none => none
  | some limit, none => some ⟨limit, false⟩
  | none, some pause => some ⟨pause + 1, true⟩
  | some limit, some pause =>
    if pause + 1 < limit then some ⟨pause + 1, true⟩ else some ⟨limit, false⟩

end Extent

/-- A clock on which only pauses take time, in milliseconds: the length of a pause, and when a
shutdown is asked for, counted from the start of the first pause. -/
structure PauseClock where
  pause : Nat
  shutdown : Option Nat
deriving Repr, DecidableEq

namespace PauseClock

/-- The longest wait that a clock keeps, thirty years in milliseconds; it stands in for longer
ones. -/
def longestWait : Nat := 30 * 365 * 86400 * 1000

/-- The clock of a feeder's settings. -/
def ofSettings (feeder : FeederSettings) (shutdown : Option Nat) : PauseClock :=
  ⟨min longestWait (feeder.intervalSeconds.toNat * 1000), shutdown.map (min longestWait)⟩

/-- The pause in which the shutdown comes, counted from zero. -/
def shutdownPause? (clock : PauseClock) : Option Nat :=
  clock.shutdown.map (· / clock.pause)

/-- How long a run takes: up to the shutdown, or a pause between any two cycles. -/
def elapsed (clock : PauseClock) (extent : Extent) : Nat :=
  match extent.interrupted, clock.shutdown with
  | true, some time => time
  | _, _ => (extent.cycles - 1) * clock.pause

end PauseClock

end MonitorFeed
