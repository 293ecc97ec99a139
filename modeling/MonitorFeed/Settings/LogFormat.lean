import MonitorFeed.Payload.Document

/-!
How log lines are laid out.
-/

namespace MonitorFeed

/-- Lines for a reader, or a JSON object for each event. -/
inductive LogFormat where
  | text
  | json
deriving BEq, DecidableEq

instance : Choice LogFormat where
  all := [.text, .json]
  name
    | .text => "text"
    | .json => "json"
  distinct := by intro value; cases value <;> decide

instance : Document LogFormat where
  schema := .choice inferInstance

end MonitorFeed
