import MonitorFeed.Json5.Reader
import MonitorFeed.Settings.Basic
import MonitorFeed.Path
import MonitorFeed.Storage

/-!
Reading a configuration: from its text, from a file, and with what the command line overrides.
-/

namespace MonitorFeed

/-- Reads a JSON5 text as a value of a schema. -/
def Schema.parseConfig {α : Type} (schema : Schema α) (text : String) : Except DocumentError α :=
  (schema.readJson5 text).mapError fun cause => .config cause.message

/-- Reads a JSON5 file as a value of a schema. -/
def Schema.loadConfig {α : Type} (schema : Schema α) (storage : Storage) (path : String) :
    Except DocumentError α := do
  let text ← (storage.readText path).mapError .io
  schema.parseConfig text

namespace Settings

/-- A fault of a configuration document, told apart from other faults of documents. -/
def documentFault : DocumentError → ClientError
  | .config text => .configParse text
  | error => .ofDocument error

/-- Reads and validates a configuration. -/
def parse (hostname : Option String) (text : String) : Except ClientError Settings := do
  let settings ← ((schema hostname).parseConfig text).mapError documentFault
  settings.validate
  return settings

/-- The files of the feeder as seen from a directory. -/
def relativeTo (base : String) (settings : Settings) : Settings :=
  { settings with
    feeder :=
      { settings.feeder with
        metricsFile := settings.feeder.metricsFile.map (Path.join base)
        inventoryFile := settings.feeder.inventoryFile.map (Path.join base) } }

/-- Reads and validates a configuration file; the files it names are seen from its directory. -/
def load (hostname : Option String) (storage : Storage) (path : String) :
    Except ClientError Settings := do
  if storage.holds path = false then throw (.configNotFound path)
  let settings ← ((schema hostname).loadConfig storage path).mapError documentFault
  settings.validate
  match Path.parent? path with
  | some base => return settings.relativeTo base
  | none => return settings

end Settings

/-- What the command line says about the configuration. -/
structure Overrides where
  config : String
  logLevel : Option String
  library : Option String
deriving BEq, DecidableEq

namespace Overrides

/-- The file that is read when none is named. -/
def defaultConfig : String := "transit.json5"

/-- Sets what the command line names. -/
def apply (overrides : Overrides) (settings : Settings) : Settings :=
  { settings with
    logging := { settings.logging with level := overrides.logLevel.getD settings.logging.level }
    library := ⟨overrides.library.getD settings.library.path⟩ }

/-- Reads the configuration that the command line names and overrides it. -/
def load (overrides : Overrides) (hostname : Option String) (storage : Storage) :
    Except ClientError Settings :=
  (Settings.load hostname storage overrides.config).map overrides.apply

end Overrides

end MonitorFeed
