import MonitorFeed.Proofs.Result
import MonitorFeed.Settings.Load
import Mathlib.Data.List.TakeWhile

/-!
Configurations that are fit for use, and every way to come by one. Validation accepts the fit ones
only, and nothing that is done to a configuration after it has been read touches what makes it fit.
-/

namespace MonitorFeed

namespace Text

/-- Trimming leaves nothing of white space only. -/
theorem trim_eq_nil_iff {text : List Char} : trim text = [] ↔ ∀ c ∈ text, isBlank c = true := by
  rw [trim, List.reverse_eq_nil_iff, List.dropWhile_eq_nil_iff]
  simp only [List.mem_reverse]
  constructor
  · intro blank
    -- The first character that is kept would not be blank.
    have empty : text.dropWhile isBlank = [] := by
      by_contra kept
      have first := List.head_dropWhile_not isBlank kept
      rw [blank _ (List.head_mem kept)] at first
      cases first
    exact List.dropWhile_eq_nil_iff.mp empty
  · intro blank c kept
    exact blank c ((List.dropWhile_suffix isBlank).mem kept)

end Text

namespace Settings

/-- What the use of a configuration rests on: the user has a name, time passes between two cycles,
and the inventory comes round. -/
structure Fit (settings : Settings) : Prop where
  named : ∃ c ∈ settings.credentials.user.toList, Text.isBlank c = false
  pauses : 1 ≤ settings.feeder.intervalSeconds.toNat
  recurs : 1 ≤ settings.feeder.inventoryEvery.toNat

private theorem trim_isEmpty_iff {text : List Char} :
    (Text.trim text).isEmpty = true ↔ ¬ ∃ c ∈ text, Text.isBlank c = false := by
  rw [List.isEmpty_iff, Text.trim_eq_nil_iff]
  simp

private theorem toNat_pos_iff {count : UInt64} : 1 ≤ count.toNat ↔ count ≠ 0 := by
  rw [Nat.one_le_iff_ne_zero, ne_eq, ne_eq, ← UInt64.toNat_inj]
  rfl

/-- A configuration is without flaws just when it is fit. -/
theorem flaw?_eq_none_iff {settings : Settings} : settings.flaw? = none ↔ settings.Fit := by
  unfold flaw?
  constructor
  · intro none
    split_ifs at none with blank idle never
    exact ⟨not_not.mp (fun unnamed => blank (trim_isEmpty_iff.mpr unnamed)),
      toNat_pos_iff.mpr idle, toNat_pos_iff.mpr never⟩
  · rintro ⟨named, pauses, recurs⟩
    rw [if_neg (fun blank => trim_isEmpty_iff.mp blank named), if_neg (toNat_pos_iff.mp pauses),
      if_neg (toNat_pos_iff.mp recurs)]

theorem validate_eq_ok_iff {settings : Settings} :
    settings.validate = .ok () ↔ settings.Fit := by
  rw [← flaw?_eq_none_iff, validate]
  cases settings.flaw? <;> simp

/-- Validation fails with the message of the first flaw. -/
theorem validate_eq_error_iff {settings : Settings} {fault : ClientError} :
    settings.validate = .error fault ↔
      ∃ flaw, settings.flaw? = some flaw ∧ fault = .configInvalid flaw.message := by
  rw [validate]
  cases settings.flaw? with
  | none => simp
  | some flaw => simp [eq_comm]

namespace Fit

variable {settings : Settings}

theorem relativeTo (fit : settings.Fit) (base : String) : (settings.relativeTo base).Fit :=
  ⟨fit.named, fit.pauses, fit.recurs⟩

theorem apply (fit : settings.Fit) (overrides : Overrides) : (overrides.apply settings).Fit :=
  ⟨fit.named, fit.pauses, fit.recurs⟩

end Fit

/-- The ways to come by a configuration: from its text, from a file, or as the command line says. -/
inductive Loaded (hostname : Option String) : Settings → Prop where
  | parsed {text : String} {settings : Settings} (read : parse hostname text = .ok settings) :
      Loaded hostname settings
  | loaded {storage : Storage} {path : String} {settings : Settings}
      (read : load hostname storage path = .ok settings) : Loaded hostname settings
  | named {overrides : Overrides} {storage : Storage} {settings : Settings}
      (read : overrides.load hostname storage = .ok settings) : Loaded hostname settings

/-- A configuration that parses has been validated. -/
theorem fit_of_parse {hostname : Option String} {text : String} {settings : Settings}
    (read : parse hostname text = .ok settings) : settings.Fit := by
  obtain ⟨given, -, read⟩ := bind_eq_ok_iff.mp read
  obtain ⟨_, valid, read⟩ := bind_eq_ok_iff.mp read
  obtain rfl := Except.ok.inj read
  exact validate_eq_ok_iff.mp valid

/-- A configuration file is validated before the paths in it are seen from its directory. -/
theorem fit_of_load {hostname : Option String} {storage : Storage} {path : String}
    {settings : Settings} (read : load hostname storage path = .ok settings) : settings.Fit := by
  rw [load] at read
  split_ifs at read
  · cases read
  obtain ⟨given, -, read⟩ := bind_eq_ok_iff.mp read
  obtain ⟨_, valid, read⟩ := bind_eq_ok_iff.mp read
  have fit : given.Fit := validate_eq_ok_iff.mp valid
  split at read
  · obtain rfl := Except.ok.inj read
    exact fit.relativeTo _
  · obtain rfl := Except.ok.inj read
    exact fit

/-- What the command line overrides does not matter for use. -/
theorem fit_of_overrides {overrides : Overrides} {hostname : Option String} {storage : Storage}
    {settings : Settings} (read : overrides.load hostname storage = .ok settings) :
    settings.Fit := by
  rw [Overrides.load] at read
  obtain ⟨given, found, rfl⟩ := map_eq_ok_iff.mp read
  exact (fit_of_load found).apply overrides

theorem Loaded.fit {hostname : Option String} {settings : Settings}
    (loaded : Loaded hostname settings) : settings.Fit := by
  cases loaded with
  | parsed read => exact fit_of_parse read
  | loaded read => exact fit_of_load read
  | named read => exact fit_of_overrides read

end Settings

/-- Overrides one after the other. -/
def Overrides.applyAll (sequence : List Overrides) (settings : Settings) : Settings :=
  sequence.foldl (fun settings overrides => overrides.apply settings) settings

/-- No sequence of overrides takes away what makes a configuration fit. -/
theorem Settings.Fit.applyAll {settings : Settings} (fit : settings.Fit)
    (sequence : List Overrides) : (Overrides.applyAll sequence settings).Fit := by
  induction sequence generalizing settings with
  | nil => exact fit
  | cons overrides rest ih => exact ih (fit.apply overrides)

end MonitorFeed
