import MonitorFeed.Proofs.Json5.RoundTrip
import MonitorFeed.Proofs.Settings.Fitness

/-!
Configurations that are written as JSON and read as JSON5. What comes back is the configuration
itself, judged as it was before it was written.
-/

namespace MonitorFeed

open Json5

namespace Settings

/-- The strings and paths of a configuration. -/
def texts (settings : Settings) : List String :=
  [settings.library.path, settings.credentials.user, settings.credentials.password,
    settings.agent.appType, settings.agent.agentId, settings.agent.version,
    settings.logging.level] ++
  settings.feeder.metricsFile.toList ++ settings.feeder.inventoryFile.toList

/-- The numbers of a configuration. -/
def counts (settings : Settings) : List UInt64 :=
  [settings.feeder.intervalSeconds, settings.feeder.inventoryEvery] ++
  settings.feeder.maxCycles.toList

/-- A configuration whose text means the same in JSON5: no string holds a line end that only JSON
allows there, and doubles hold every number. -/
structure Portable (settings : Settings) : Prop where
  texts : ∀ text ∈ settings.texts, Unbroken text
  counts : ∀ count ∈ settings.counts, count.toNat ≤ Decimal.wholeLimit

section Documents

variable {settings : Settings}

private theorem Portable.text (portable : settings.Portable) {text : String}
    (held : text ∈ settings.texts) : (Schema.text.toJson text).Portable :=
  .string (portable.texts text held)

private theorem Portable.path (portable : settings.Portable) {path : String}
    (held : path ∈ settings.texts) : (Schema.path.toJson path).Portable :=
  .string (portable.texts path held)

private theorem Portable.count (portable : settings.Portable) {count : UInt64}
    (held : count ∈ settings.counts) : (Schema.natural.toJson count).Portable :=
  .integer (portable.counts count held)

open Schema Members in
/-- The document of a portable configuration is portable, section by section. -/
theorem Portable.toJson (portable : settings.Portable) (hostname : Option String) :
    ((schema hostname).toJson settings).Portable := by
  have library : (LibrarySettings.schema.toJson settings.library).Portable :=
    portable_record (by decide) <|
      portable_cons (portable.path (by simp [Settings.texts])) portable_nil
  have credentials : ((Document.schema : Schema Credentials).toJson settings.credentials).Portable :=
    portable_record (by decide) <|
      portable_cons (portable.text (by simp [Settings.texts])) <|
      portable_cons (portable.text (by simp [Settings.texts])) portable_nil
  have agent : ((AgentSettings.schema hostname).toJson settings.agent).Portable :=
    portable_record (show ∀ name ∈ ["app_type", "agent_id", "version"], Unbroken name by decide) <|
      portable_cons (portable.text (by simp [Settings.texts])) <|
      portable_cons (portable.text (by simp [Settings.texts])) <|
      portable_cons (portable.text (by simp [Settings.texts])) portable_nil
  have feeder : (FeederSettings.schema.toJson settings.feeder).Portable :=
    portable_record (by decide) <|
      portable_cons (portable.count (by simp [Settings.counts])) <|
      portable_cons (portable.count (by simp [Settings.counts])) <|
      portable_cons (portable_optional fun _ (held : _ = some _) =>
        portable.path (by simp [Settings.texts, held])) <|
      portable_cons (portable_optional fun _ (held : _ = some _) =>
        portable.path (by simp [Settings.texts, held])) <|
      portable_cons (portable_optional fun _ (held : _ = some _) =>
        portable.count (by simp [Settings.counts, held])) portable_nil
  have logging : (LoggingSettings.schema.toJson settings.logging).Portable :=
    portable_record (by decide) <|
      portable_cons (portable.text (by simp [Settings.texts])) <|
      portable_cons (.string (by cases settings.logging.format <;> decide)) portable_nil
  have names : ∀ name ∈ ["library", "credentials", "agent", "feeder", "logging"],
      Unbroken name := by
    decide
  exact portable_record names <| portable_cons library <| portable_cons credentials <|
    portable_cons agent <| portable_cons feeder <| portable_cons logging portable_nil

end Documents

/-- The defaults of a reader do not matter for what is written, since every member is. -/
theorem toJson_hostname (settings : Settings) (hostname other : Option String) :
    (schema other).toJson settings = (schema hostname).toJson settings := rfl

theorem isRegular_schema (hostname : Option String) : (schema hostname).isRegular = true :=
  rfl

/-- A configuration has no doubles to lose. -/
theorem settle_schema (hostname : Option String) (settings : Settings) :
    (schema hostname).settle settings = settings := by
  apply Schema.settle_of_finite
  simp [schema, LibrarySettings.schema, Document.schema, AgentSettings.schema,
    FeederSettings.schema, LoggingSettings.schema, Schema.doubles, Members.doubles]

/-- A configuration that is written and read again is the same configuration, absent members
included; what validation makes of it, reading makes of its text. -/
theorem parse_write {settings : Settings} (portable : settings.Portable)
    (hostname other : Option String) :
    parse hostname ((schema other).write settings) = settings.validate.map fun _ => settings := by
  have read : (schema hostname).readJson5 ((schema other).write settings) = .ok settings := by
    have written := (schema hostname).written_toJson settings
    rw [Schema.write, toJson_hostname settings hostname other,
      Schema.readJson5_written (isRegular_schema hostname) written (portable.toJson hostname),
      settle_schema]
  have judged : parse hostname ((schema other).write settings) =
      (settings.validate >>= fun _ => .ok settings) := by
    rw [parse, Schema.parseConfig, read]
    rfl
  rw [judged]
  cases settings.validate <;> rfl

/-- A configuration with escapes of every kind, the largest number that is safe, and options that
are absent. -/
def awkward (user : String) : Settings where
  library := ⟨"/opt/\"lib\"\\transit.so"⟩
  credentials := ⟨user, "\x00\n\x1f"⟩
  agent := ⟨"VEMA", "é/", ""⟩
  feeder := ⟨9007199254740992, 1, none, some "inventory.json", none⟩
  logging := ⟨"info", .json⟩

/-- Absent options are written as nulls and come back absent; a user without a name is refused from
the text as well. -/
theorem parse_write_awkward :
    FeederSettings.schema.toJson (awkward "a\tb").feeder = .object
      [("interval_secs", .integer 9007199254740992), ("inventory_every", .integer 1),
        ("metrics_file", .null), ("inventory_file", .string "inventory.json"),
        ("max_cycles", .null)] ∧
    parse none ((schema none).write (awkward "a\tb")) = .ok (awkward "a\tb") ∧
    parse none ((schema none).write (awkward " ")) =
      .error (.configInvalid Flaw.blankUser.message) := by
  have counts (user : String) :
      ∀ count ∈ (awkward user).counts, count.toNat ≤ Decimal.wholeLimit := by
    simp [Settings.counts, awkward, Decimal.wholeLimit]
  refine ⟨rfl, ?_, ?_⟩
  · rw [parse_write ⟨by decide, counts _⟩ none none]
    rfl
  · rw [parse_write ⟨by decide, counts _⟩ none none]
    rfl

end Settings

end MonitorFeed
