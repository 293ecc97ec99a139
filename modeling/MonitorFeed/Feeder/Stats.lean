import MonitorFeed.Decimal.Shortest

/-!
What a feeder counts.
-/

namespace MonitorFeed

/-- The counts of a feeder run: cycles completed, deliveries of either kind that succeeded, and
deliveries that failed. -/
structure FeederStats where
  cycles : Nat
  inventorySent : Nat
  metricsSent : Nat
  failed : Nat
deriving Repr, DecidableEq

namespace FeederStats

/-- The counts before the first cycle. -/
def zero : FeederStats := ⟨0, 0, 0, 0⟩

/-- Deliveries that succeeded. -/
def delivered (stats : FeederStats) : Nat :=
  stats.inventorySent + stats.metricsSent

/-- Deliveries that succeeded, in percent of those tried; all of them when none was tried. -/
def successRate (stats : FeederStats) : Float :=
  let tried := stats.delivered + stats.failed
  if tried = 0 then 100.0
  else Float.ofNat stats.delivered / Float.ofNat tried * 100.0

/-- The success rate in digits. -/
def successRateText (stats : FeederStats) : String :=
  String.ofList (Decimal.Layout.plain.write stats.successRate)

end FeederStats

end MonitorFeed
