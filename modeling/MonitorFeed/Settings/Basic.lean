import MonitorFeed.Error
import MonitorFeed.Payload.Context
import MonitorFeed.Payload.Credentials
import MonitorFeed.Settings.LogFormat
import MonitorFeed.Text.Blank

/-!
The configuration of a client. Every section but the account may be missing, and so may every member
of those sections: a missing section is one of which every member is missing.
-/

namespace MonitorFeed

/-- Where the library is. -/
structure LibrarySettings where
  path : String
deriving BEq

/-- Who delivers. -/
structure AgentSettings where
  appType : String
  agentId : String
  version : String
deriving BEq

/-- How the feeder runs. -/
structure FeederSettings where
  intervalSeconds : UInt64
  inventoryEvery : UInt64
  metricsFile : Option String
  inventoryFile : Option String
  maxCycles : Option UInt64
deriving BEq

/-- What is logged, and how. -/
structure LoggingSettings where
  level : String
  format : LogFormat
deriving BEq

structure Settings where
  library : LibrarySettings
  credentials : Credentials
  agent : AgentSettings
  feeder : FeederSettings
  logging : LoggingSettings
deriving BEq

namespace LibrarySettings

/-- The library's file name, looked up by the loader. -/
def defaultPath : String := "libtransit.so"

def standard : LibrarySettings := ⟨defaultPath⟩

def schema : Schema LibrarySettings :=
  .record "LibraryConfig"
    (.cons "path" (.fallback defaultPath) .path .nil)
    { build := fun (path, ()) => ⟨path⟩
      split := fun settings => (settings.path, ())
      build_split := fun _ => rfl
      split_build := fun _ => rfl }

end LibrarySettings

namespace AgentSettings

def defaultAppType : String := "VEMA"

/-- The name of the host, if it has one. -/
def defaultId (hostname : Option String) : String := hostname.getD "transit-agent"

def defaultVersion : String := "0.2.0"

def standard (hostname : Option String) : AgentSettings :=
  ⟨defaultAppType, defaultId hostname, defaultVersion⟩

def schema (hostname : Option String) : Schema AgentSettings :=
  .record "AgentConfig"
    (.cons "app_type" (.fallback defaultAppType) .text <|
     .cons "agent_id" (.fallback (defaultId hostname)) .text <|
     .cons "version" (.fallback defaultVersion) .text .nil)
    { build := fun (appType, agentId, version, ()) => ⟨appType, agentId, version⟩
      split := fun settings => (settings.appType, settings.agentId, settings.version, ())
      build_split := fun _ => rfl
      split_build := fun _ => rfl }

/-- The header of a delivery with what was drawn for it. -/
def context (settings : AgentSettings) (draw : Draw) : Context :=
  ⟨settings.appType, settings.agentId, draw.token, draw.time, settings.version⟩

end AgentSettings

namespace FeederSettings

def defaultInterval : UInt64 := 60

def defaultInventoryEvery : UInt64 := 10

def standard : FeederSettings := ⟨defaultInterval, defaultInventoryEvery, none, none, none⟩

def schema : Schema FeederSettings :=
  .record "FeederConfig"
    (.cons "interval_secs" (.fallback defaultInterval) .natural <|
     .cons "inventory_every" (.fallback defaultInventoryEvery) .natural <|
     .cons "metrics_file" (.fallback none) (.optional .path) <|
     .cons "inventory_file" (.fallback none) (.optional .path) <|
     .cons "max_cycles" (.fallback none) (.optional .natural) .nil)
    { build := fun (intervalSeconds, inventoryEvery, metricsFile, inventoryFile, maxCycles, ()) =>
        ⟨intervalSeconds, inventoryEvery, metricsFile, inventoryFile, maxCycles⟩
      split := fun settings =>
        (settings.intervalSeconds, settings.inventoryEvery, settings.metricsFile,
          settings.inventoryFile, settings.maxCycles, ())
      build_split := fun _ => rfl
      split_build := fun _ => rfl }

end FeederSettings

namespace LoggingSettings

def defaultLevel : String := "info"

def standard : LoggingSettings := ⟨defaultLevel, .text⟩

def schema : Schema LoggingSettings :=
  .record "LoggingConfig"
    (.cons "level" (.fallback defaultLevel) .text <|
     .cons "format" (.fallback .text) (.choice inferInstance) .nil)
    { build := fun (level, format, ()) => ⟨level, format⟩
      split := fun settings => (settings.level, settings.format, ())
      build_split := fun _ => rfl
      split_build := fun _ => rfl }

end LoggingSettings

namespace Settings

def schema (hostname : Option String) : Schema Settings :=
  .record "TransitConfig"
    (.cons "library" (.fallback .standard) LibrarySettings.schema <|
     .cons "credentials" .required Document.schema <|
     .cons "agent" (.fallback (.standard hostname)) (AgentSettings.schema hostname) <|
     .cons "feeder" (.fallback .standard) FeederSettings.schema <|
     .cons "logging" (.fallback .standard) LoggingSettings.schema .nil)
    { build := fun (library, credentials, agent, feeder, logging, ()) =>
        ⟨library, credentials, agent, feeder, logging⟩
      split := fun settings =>
        (settings.library, settings.credentials, settings.agent, settings.feeder,
          settings.logging, ())
      build_split := fun _ => rfl
      split_build := fun _ => rfl }

/-- What makes a configuration unfit for use. -/
inductive Flaw where
  | blankUser
  | noInterval
  | noInventoryCycle
deriving Repr, DecidableEq

def Flaw.message : Flaw → String
  | .blankUser => "credentials.user must not be empty"
  | .noInterval => "feeder.interval_secs must be greater than 0"
  | .noInventoryCycle => "feeder.inventory_every must be greater than 0"

/-- The first flaw of a configuration. -/
def flaw? (settings : Settings) : Option Flaw :=
  if (Text.trim settings.credentials.user.toList).isEmpty then some .blankUser
  else if settings.feeder.intervalSeconds = 0 then some .noInterval
  else if settings.feeder.inventoryEvery = 0 then some .noInventoryCycle
  else none

/-- Accepts a configuration without flaws. -/
def validate (settings : Settings) : Except ClientError Unit :=
  match settings.flaw? with
  | some flaw => .error (.configInvalid flaw.message)
  | none => .ok ()

end Settings

end MonitorFeed
