import MonitorFeed.Proofs.Result
import MonitorFeed.Proofs.Text.Utf8
import MonitorFeed.Settings.Load

/-!
Configurations that are loaded from files. A file that can be read is judged as its text is; what it
says is then seen from its directory, and what the command line says goes before it.
-/

namespace MonitorFeed

namespace Path

variable {base file path : String}

theorem join_of_isAbsolute (absolute : isAbsolute file = true) : join base file = file := by
  simp [join, absolute]

theorem join_empty (file : String) : join "" file = file := by
  simp [join]

/-- A file that is named in another, as the directory of that other one has it. -/
def beside (path file : String) : String :=
  match parent? path with
  | some base => join base file
  | none => file

theorem beside_of_parent (found : parent? path = some base) : beside path file = join base file := by
  rw [beside, found]

/-- A path that does not depend on a directory stays as it is. -/
theorem beside_eq_self (free : isAbsolute file = true ∨ parent? path = some "") :
    beside path file = file := by
  rcases free with absolute | single
  · rw [beside]
    split
    · exact join_of_isAbsolute absolute
    · rfl
  · rw [beside_of_parent single, join_empty]

end Path

namespace Storage

variable {storage : Storage} {path text : String}

theorem holds_of_readText (read : storage.readText path = .ok text) : storage.holds path = true := by
  unfold readText at read
  unfold holds
  split at read
  · cases read
  · cases read
  · cases read
  · rename_i octets found
    rw [found]

end Storage

namespace Settings

variable {hostname : Option String} {storage : Storage} {path text : String}

/-- The files of the feeder, as the file of the configuration has them. -/
def seenFrom (path : String) (settings : Settings) : Settings :=
  { settings with
    feeder :=
      { settings.feeder with
        metricsFile := settings.feeder.metricsFile.map (Path.beside path)
        inventoryFile := settings.feeder.inventoryFile.map (Path.beside path) } }

theorem seenFrom_eq (path : String) (settings : Settings) :
    settings.seenFrom path =
      match Path.parent? path with
      | some base => settings.relativeTo base
      | none => settings := by
  have alike {base : String → String} (same : Path.beside path = base) :
      settings.seenFrom path =
        { settings with
          feeder :=
            { settings.feeder with
              metricsFile := settings.feeder.metricsFile.map base
              inventoryFile := settings.feeder.inventoryFile.map base } } := by
    rw [seenFrom, same]
  cases found : Path.parent? path with
  | some base => exact alike (funext fun file => Path.beside_of_parent found)
  | none =>
    have same : Path.beside path = id := by
      funext file
      rw [Path.beside, found, id]
    rw [alike same, Option.map_id, id, id]

/-- A text is refused for how it is written or for what it says, never for the file it is in. -/
theorem fault_of_parse {fault : ClientError} (refused : parse hostname text = .error fault) :
    ∃ message, fault = .configParse message ∨ fault = .configInvalid message := by
  rw [parse, Schema.parseConfig] at refused
  cases read : (schema hostname).readJson5 text with
  | error cause =>
    rw [read] at refused
    exact ⟨_, .inl (Except.error.inj refused).symm⟩
  | ok settings =>
    rw [read] at refused
    have judged : (settings.validate >>= fun _ => .ok settings) = .error fault := refused
    rw [validate] at judged
    cases found : settings.flaw? with
    | some flaw =>
      rw [found] at judged
      exact ⟨_, .inr (Except.error.inj judged).symm⟩
    | none =>
      rw [found] at judged
      cases judged

theorem load_of_not_holds (lost : storage.holds path = false) :
    load hostname storage path = .error (.configNotFound path) := by
  rw [load, if_pos lost]
  rfl

theorem load_of_unreadable (there : storage.holds path = true) {fault : IoFault}
    (unreadable : storage.readText path = .error fault) :
    load hostname storage path = .error (.io fault) := by
  have found : ¬storage.holds path = false := by simp [there]
  rw [load, if_neg found, Schema.loadConfig, unreadable]
  rfl

/-- A file that can be read is judged as its text is. -/
theorem load_of_readText (read : storage.readText path = .ok text) :
    load hostname storage path = (parse hostname text).map (seenFrom path) := by
  have found : ¬storage.holds path = false := by simp [Storage.holds_of_readText read]
  have document : (schema hostname).loadConfig storage path = (schema hostname).parseConfig text := by
    rw [Schema.loadConfig, read]
    rfl
  rw [load, if_neg found, document, parse]
  cases ((schema hostname).parseConfig text).mapError documentFault with
  | error fault => rfl
  | ok settings =>
    simp only [pure, Except.pure, bind, Except.bind]
    cases settings.validate with
    | error fault => rfl
    | ok _ =>
      simp only [Except.map, seenFrom_eq]
      cases Path.parent? path <;> rfl

end Settings

namespace Overrides

variable {overrides : Overrides} {hostname : Option String} {storage : Storage} {text : String}

theorem load_of_not_holds (lost : storage.holds overrides.config = false) :
    overrides.load hostname storage = .error (.configNotFound overrides.config) := by
  rw [load, Settings.load_of_not_holds lost]
  rfl

theorem load_of_unreadable (there : storage.holds overrides.config = true) {fault : IoFault}
    (unreadable : storage.readText overrides.config = .error fault) :
    overrides.load hostname storage = .error (.io fault) := by
  rw [load, Settings.load_of_unreadable there unreadable]
  rfl

/-- A text as the file of a configuration and the command line have it. -/
theorem load_of_readText (read : storage.readText overrides.config = .ok text) :
    overrides.load hostname storage =
      (Settings.parse hostname text).map fun settings =>
        overrides.apply (settings.seenFrom overrides.config) := by
  rw [load, Settings.load_of_readText read]
  cases Settings.parse hostname text <;> rfl

/-- A text that is refused is not refused for its file. -/
theorem fault_of_load {fault : ClientError} (read : storage.readText overrides.config = .ok text)
    (refused : overrides.load hostname storage = .error fault) :
    ∃ message, fault = .configParse message ∨ fault = .configInvalid message := by
  rw [load_of_readText read] at refused
  cases judged : Settings.parse hostname text with
  | error other =>
    rw [judged] at refused
    obtain rfl := Except.error.inj refused
    exact Settings.fault_of_parse judged
  | ok settings =>
    rw [judged] at refused
    cases refused

/-- What becomes of a configuration that is loaded: its file is not there, or cannot be read as a text,
or is judged as its text is. -/
theorem load_cases (overrides : Overrides) (hostname : Option String) (storage : Storage) :
    (storage.holds overrides.config = false ∧
      overrides.load hostname storage = .error (.configNotFound overrides.config)) ∨
    (storage.holds overrides.config = true ∧ ∃ fault,
      storage.readText overrides.config = .error fault ∧
      overrides.load hostname storage = .error (.io fault)) ∨
    ∃ text, storage.readText overrides.config = .ok text := by
  cases there : storage.holds overrides.config with
  | false => exact .inl ⟨rfl, load_of_not_holds there⟩
  | true =>
    cases read : storage.readText overrides.config with
    | error fault => exact .inr (.inl ⟨rfl, fault, rfl, load_of_unreadable there read⟩)
    | ok text => exact .inr (.inr ⟨text, rfl⟩)

theorem exists_configNotFound_iff :
    (∃ named, overrides.load hostname storage = .error (.configNotFound named)) ↔
      storage.holds overrides.config = false := by
  constructor
  · rintro ⟨named, lost⟩
    rcases load_cases overrides hostname storage with ⟨gone, -⟩ | ⟨-, fault, -, failed⟩ | ⟨text, read⟩
    · exact gone
    · cases failed.symm.trans lost
    · obtain ⟨message, same | same⟩ := fault_of_load read lost <;> cases same
  · intro gone
    exact ⟨_, load_of_not_holds gone⟩

theorem exists_io_iff :
    (∃ fault, overrides.load hostname storage = .error (.io fault)) ↔
      storage.holds overrides.config = true ∧
        ∀ text, storage.readText overrides.config ≠ .ok text := by
  have kinds := load_cases overrides hostname storage
  constructor
  · rintro ⟨fault, failed⟩
    rcases kinds with ⟨-, lost⟩ | ⟨there, other, unreadable, -⟩ | ⟨text, read⟩
    · cases lost.symm.trans failed
    · exact ⟨there, fun text read => by cases unreadable.symm.trans read⟩
    · obtain ⟨message, same | same⟩ := fault_of_load read failed <;> cases same
  · rintro ⟨there, unreadable⟩
    rcases kinds with ⟨gone, -⟩ | ⟨-, fault, -, failed⟩ | ⟨text, read⟩
    · cases gone.symm.trans there
    · exact ⟨fault, failed⟩
    · exact absurd read (unreadable text)

theorem load_eq_error_iff (read : storage.readText overrides.config = .ok text)
    {fault : ClientError} :
    overrides.load hostname storage = .error fault ↔
      Settings.parse hostname text = .error fault := by
  rw [load_of_readText read]
  cases Settings.parse hostname text <;> simp [Except.map]

theorem load_eq_ok_iff (read : storage.readText overrides.config = .ok text) {settings : Settings} :
    overrides.load hostname storage = .ok settings ↔
      ∃ parsed, Settings.parse hostname text = .ok parsed ∧
        settings = overrides.apply (parsed.seenFrom overrides.config) := by
  rw [load_of_readText read, map_eq_ok_iff]
  simp only [eq_comm (a := settings)]

/-- Loading a configuration is parsing the text of its file. A path that leads nowhere is a
configuration that is not found, and a file that cannot be read as a text is a fault of input.
Otherwise loading fails exactly if parsing does, with the same fault, and comes to what parsing comes
to but for two things: the files of the feeder are seen from the directory of the configuration,
where only a relative path and a directory with a name make a difference, and what the command line
says of the level and of the library goes before what the text says. -/
theorem load_refines_parse (overrides : Overrides) (hostname : Option String) (storage : Storage) :
    let path := overrides.config
    let loaded := overrides.load hostname storage
    ((∃ named, loaded = .error (.configNotFound named)) ↔ storage.holds path = false) ∧
    (storage.holds path = false → loaded = .error (.configNotFound path)) ∧
    ((∃ fault, loaded = .error (.io fault)) ↔
      storage.holds path = true ∧ ∀ text, storage.readText path ≠ .ok text) ∧
    (∀ text, storage.readText path = .ok text →
      (∀ fault, loaded = .error fault ↔ Settings.parse hostname text = .error fault) ∧
      ∀ settings, loaded = .ok settings ↔ ∃ parsed, Settings.parse hostname text = .ok parsed ∧
        settings =
          { credentials := parsed.credentials
            agent := parsed.agent
            feeder :=
              { parsed.feeder with
                metricsFile := parsed.feeder.metricsFile.map (Path.beside path)
                inventoryFile := parsed.feeder.inventoryFile.map (Path.beside path) }
            logging :=
              { parsed.logging with level := overrides.logLevel.getD parsed.logging.level }
            library := ⟨overrides.library.getD parsed.library.path⟩ }) ∧
    ∀ file,
      (∀ base, Path.parent? path = some base → Path.beside path file = Path.join base file) ∧
      (Path.isAbsolute file = true ∨ Path.parent? path = some "" → Path.beside path file = file) := by
  intro path loaded
  exact ⟨exists_configNotFound_iff, load_of_not_holds, exists_io_iff,
    fun text read => ⟨fun fault => load_eq_error_iff read, fun settings => load_eq_ok_iff read⟩,
    fun file => ⟨fun base => Path.beside_of_parent, Path.beside_eq_self⟩⟩

/-- A configuration that names a file. -/
def briefConfig : String :=
  "\x7bcredentials:\x7buser:'u',password:'p'\x7d,feeder:\x7bmetrics_file:'m.json'\x7d\x7d"

/-- A storage with one configuration in it. -/
def oneConfig : Storage := fun path =>
  if path = "conf/transit.json5" then .file (Text.Utf8.encode briefConfig.toList)
  else .missing .notFound

set_option maxRecDepth 4000 in
theorem load_refines_parse_oneConfig :
    oneConfig.readText "conf/transit.json5" = .ok briefConfig ∧
      load ⟨"conf/transit.json5", some "debug", none⟩ none oneConfig =
        .ok ⟨⟨"libtransit.so"⟩, ⟨"u", "p"⟩, .standard none,
          ⟨60, 10, some "conf/m.json", none, none⟩, ⟨"debug", .text⟩⟩ := by
  have read : oneConfig.readText "conf/transit.json5" = .ok briefConfig := by
    simp [Storage.readText, oneConfig]
  have judged : Settings.parse none briefConfig =
      .ok ⟨⟨"libtransit.so"⟩, ⟨"u", "p"⟩, .standard none, ⟨60, 10, some "m.json", none, none⟩,
        .standard⟩ := rfl
  obtain ⟨-, -, -, texts, -⟩ :=
    load_refines_parse ⟨"conf/transit.json5", some "debug", none⟩ none oneConfig
  obtain ⟨-, loaded⟩ := texts briefConfig read
  exact ⟨read, (loaded _).mpr ⟨_, judged, rfl⟩⟩

end Overrides

end MonitorFeed
