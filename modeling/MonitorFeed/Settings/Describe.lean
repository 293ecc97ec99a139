import MonitorFeed.Settings.Basic
import MonitorFeed.Text.Quoted

/-!
Settings for diagnostics, which never show the password.
-/

namespace MonitorFeed

/-- A number for diagnostics. -/
def describeNumber (n : UInt64) : String :=
  String.ofList (Decimal.naturalText n.toNat)

def LibrarySettings.describe (settings : LibrarySettings) : String :=
  Text.record "LibraryConfig" [("path", Text.quoted settings.path)]

def AgentSettings.describe (settings : AgentSettings) : String :=
  Text.record "AgentConfig"
    [("app_type", Text.quoted settings.appType), ("agent_id", Text.quoted settings.agentId),
      ("version", Text.quoted settings.version)]

def FeederSettings.describe (settings : FeederSettings) : String :=
  Text.record "FeederConfig"
    [("interval_secs", describeNumber settings.intervalSeconds),
      ("inventory_every", describeNumber settings.inventoryEvery),
      ("metrics_file", Text.optional Text.quoted settings.metricsFile),
      ("inventory_file", Text.optional Text.quoted settings.inventoryFile),
      ("max_cycles", Text.optional describeNumber settings.maxCycles)]

def LogFormat.describe : LogFormat → String
  | .text => "Text"
  | .json => "Json"

def LoggingSettings.describe (settings : LoggingSettings) : String :=
  Text.record "LoggingConfig"
    [("level", Text.quoted settings.level), ("format", settings.format.describe)]

def Settings.describe (settings : Settings) : String :=
  Text.record "TransitConfig"
    [("library", settings.library.describe), ("credentials", settings.credentials.describe),
      ("agent", settings.agent.describe), ("feeder", settings.feeder.describe),
      ("logging", settings.logging.describe)]

end MonitorFeed
