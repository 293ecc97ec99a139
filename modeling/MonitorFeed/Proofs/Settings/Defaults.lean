import MonitorFeed.Proofs.Json5.Defaults
import MonitorFeed.Settings.Load

/-!
Configurations with and without what they leave to the defaults. A section without members means what
a missing one means, so no member has to be written for its default, and none that is written is
overridden by one.
-/

namespace MonitorFeed

open Json5

section Coherence

open Members.Coherent

theorem LibrarySettings.coherent_schema : schema.Coherent :=
  of_bare_eq_none rfl trivial trivial

theorem AgentSettings.coherent_schema (hostname : Option String) : (schema hostname).Coherent :=
  of_bare_eq_none rfl trivial <| of_bare_eq_none rfl trivial <| of_bare_eq_none rfl trivial trivial

/-- An option that is null is absent, which is the default of every option. -/
theorem FeederSettings.coherent_schema : schema.Coherent := by
  refine of_bare_eq_none rfl trivial <| of_bare_eq_none rfl trivial ⟨?_, trivial, ?_, trivial, ?_,
    trivial, trivial⟩
  all_goals
    rintro value bare ⟨⟩ ⟨⟩
    rfl

theorem LoggingSettings.coherent_schema : schema.Coherent :=
  of_bare_eq_none rfl trivial <| of_bare_eq_none rfl trivial trivial

theorem Credentials.coherent_schema : (Document.schema : Schema Credentials).Coherent :=
  of_bare_eq_none rfl trivial <| of_bare_eq_none rfl trivial trivial

/-- The default of every section is what its members are by default. -/
theorem Settings.coherent_schema (hostname : Option String) : (schema hostname).Coherent := by
  refine ⟨?library, LibrarySettings.coherent_schema, ?credentials, Credentials.coherent_schema,
    ?agent, AgentSettings.coherent_schema hostname, ?feeder, FeederSettings.coherent_schema,
    ?logging, LoggingSettings.coherent_schema, trivial⟩
  case credentials =>
    rintro value bare ⟨⟩
  all_goals
    rintro value bare ⟨⟩ ⟨⟩
    rfl

end Coherence

namespace Settings

/-- The sections that may be missing, with all their members spelled out. -/
def sections (hostname : Option String) : List (String × Node) :=
  [("library", (LibrarySettings.schema.toJson .standard).node),
    ("agent", ((AgentSettings.schema hostname).toJson (.standard hostname)).node),
    ("feeder", (FeederSettings.schema.toJson .standard).node),
    ("logging", (LoggingSettings.schema.toJson .standard).node)]

section Sections

variable {hostname : Option String} {name : String} {full : Node} {key : List Piece}
  {before after : List (List Piece × Node)}

theorem ofNode_library : LibrarySettings.schema.ofNode
    (LibrarySettings.schema.toJson .standard).node = .ok .standard := rfl

/-- The name of the host may be any text. -/
theorem ofNode_agent (hostname : Option String) : (AgentSettings.schema hostname).ofNode
    ((AgentSettings.schema hostname).toJson (.standard hostname)).node =
      .ok (.standard hostname) := by
  have written : ((AgentSettings.schema hostname).toJson (.standard hostname)).node = .object
      [(piecesOf "app_type", .text (piecesOf AgentSettings.defaultAppType)),
        (piecesOf "agent_id", .text (piecesOf (AgentSettings.defaultId hostname))),
        (piecesOf "version", .text (piecesOf AgentSettings.defaultVersion))] := rfl
  have read (value : String) : Schema.text.ofNode (.text (piecesOf value)) = .ok value :=
    textOf_piecesOf value
  rw [written, ← toOption_eq_some_iff, AgentSettings.schema, Schema.toOption_ofNode_object]
  have nothing : Members.nil.reading [] = some () := rfl
  simp [Members.reading_cons, valuesOf, entriesBut, spells, textOf_piecesOf, Schema.member, read,
    nothing, AgentSettings.standard]

theorem ofNode_feeder : FeederSettings.schema.ofNode
    (FeederSettings.schema.toJson .standard).node = .ok .standard := rfl

theorem ofNode_logging : LoggingSettings.schema.ofNode
    (LoggingSettings.schema.toJson .standard).node = .ok .standard := rfl

/-- A missing section may be written without members as well as with all of them. -/
theorem writesOut_section (optional : (name, full) ∈ sections hostname)
    (named : textOf key = .ok name)
    (missing : ∀ entry ∈ before ++ after, textOf entry.1 ≠ .ok name) :
    (schema hostname).WritesOut (.object (before ++ after))
        (.object (before ++ (key, .object []) :: after)) ∧
      (schema hostname).WritesOut (.object (before ++ after))
        (.object (before ++ (key, full) :: after)) := by
  simp only [sections, List.mem_cons, Prod.mk.injEq, List.not_mem_nil, or_false] at optional
  rcases optional with ⟨rfl, rfl⟩ | ⟨rfl, rfl⟩ | ⟨rfl, rfl⟩ | ⟨rfl, rfl⟩
  · exact Schema.WritesOut.bare_and_full .head rfl rfl ofNode_library named missing
  · exact Schema.WritesOut.bare_and_full (.tail (by decide) <| .tail (by decide) .head) rfl rfl
      (ofNode_agent hostname) named missing
  · exact Schema.WritesOut.bare_and_full
      (.tail (by decide) <| .tail (by decide) <| .tail (by decide) .head) rfl rfl ofNode_feeder
      named missing
  · exact Schema.WritesOut.bare_and_full
      (.tail (by decide) <| .tail (by decide) <| .tail (by decide) <| .tail (by decide) .head) rfl
      rfl ofNode_logging named missing

end Sections

section Parsing

variable {hostname : Option String} {text longer : String} {node written : Node}
  {settings : Settings}

/-- A configuration is accepted if its document is read as one without flaws. -/
theorem parse_eq_ok_iff (document : Node.ofText text = .ok node) :
    parse hostname text = .ok settings ↔
      (schema hostname).ofNode node = .ok settings ∧ settings.validate = .ok () := by
  have read : (schema hostname).readJson5 text = (schema hostname).ofNode node := by
    rw [Schema.readJson5, document]
    rfl
  rw [parse, Schema.parseConfig, read, bind_eq_ok_iff]
  cases (schema hostname).ofNode node with
  | error fault =>
    constructor
    · rintro ⟨_, ⟨⟩, -⟩
    · rintro ⟨⟨⟩, -⟩
  | ok value =>
    constructor
    · rintro ⟨_, ⟨⟩, judged⟩
      obtain ⟨_, judged, ⟨⟩⟩ := bind_eq_ok_iff.mp judged
      exact ⟨rfl, judged⟩
    · rintro ⟨⟨⟩, judged⟩
      exact ⟨_, rfl, bind_eq_ok_iff.mpr ⟨(), judged, rfl⟩⟩

/-- A text is read by its characters, which evaluate faster once they are listed. -/
private theorem ofText_of_scan {chars : List Char} (spelled : text.toList = chars)
    (scanned : scanDocument chars = .ok node) : Node.ofText text = .ok node := by
  rw [Node.ofText, spelled, scanned]
  rfl

/-- Documents that are read alike are accepted alike. -/
theorem parse_iff_of_alike (document : Node.ofText text = .ok node)
    (other : Node.ofText longer = .ok written)
    (alike : ((schema hostname).ofNode written).toOption = ((schema hostname).ofNode node).toOption) :
    parse hostname longer = .ok settings ↔ parse hostname text = .ok settings := by
  rw [parse_eq_ok_iff document, parse_eq_ok_iff other, ← toOption_eq_some_iff, alike,
    toOption_eq_some_iff]

/-- What a configuration does not say may be written out for its default, section by section and
member by member, and the configuration stays what it is. In particular a missing section, one
without members and one with all of them are interchangeable next to anything else. What it does say
is never overridden: each member that is written, at any depth, is what it is read as. -/
theorem parse_spelled_out (hostname : Option String) :
    (∀ text longer node written, Node.ofText text = .ok node → Node.ofText longer = .ok written →
      (schema hostname).SpellsOut node written →
        ∀ settings, parse hostname longer = .ok settings ↔ parse hostname text = .ok settings) ∧
    (∀ name full key before after absent empty spelled, (name, full) ∈ sections hostname →
      textOf key = .ok name → (∀ entry ∈ before ++ after, textOf entry.1 ≠ .ok name) →
      Node.ofText absent = .ok (.object (before ++ after)) →
      Node.ofText empty = .ok (.object (before ++ (key, .object []) :: after)) →
      Node.ofText spelled = .ok (.object (before ++ (key, full) :: after)) →
        ∀ settings,
          (parse hostname empty = .ok settings ↔ parse hostname absent = .ok settings) ∧
          (parse hostname spelled = .ok settings ↔ parse hostname absent = .ok settings)) ∧
    ∀ text node settings, Node.ofText text = .ok node → parse hostname text = .ok settings →
      ∀ (γ : Type) (target : Schema γ) (part : Node) (get : Settings → γ),
        (schema hostname).Reaches node target part get →
          target.ofNode part = .ok (get settings) := by
  have coherent := coherent_schema hostname
  refine ⟨?steps, ?sections, ?kept⟩
  case steps =>
    intro text longer node written document other steps settings
    exact parse_iff_of_alike document other (steps.toOption_ofNode coherent)
  case sections =>
    intro name full key before after absent empty spelled optional named missing without bare whole
      settings
    obtain ⟨emptied, filled⟩ := writesOut_section optional named missing
    exact ⟨parse_iff_of_alike without bare (emptied.toOption_ofNode coherent),
      parse_iff_of_alike without whole (filled.toOption_ofNode coherent)⟩
  case kept =>
    intro text node settings document accepted γ target part get reached
    exact reached.ofNode ((parse_eq_ok_iff document).mp accepted).1

end Parsing

/-- A configuration that says little but for what it starts with. -/
def terse (start : String) : String :=
  "\x7b" ++ start ++ "credentials:\x7buser:'u',password:'p'\x7d,feeder:\x7binterval_secs:30\x7d\x7d"

/-- The same with a section and two members written out. -/
def verbose : String :=
  "\x7blibrary:\x7b\x7d,credentials:\x7buser:'u',password:'p'\x7d," ++
    "feeder:\x7bmax_cycles:null,interval_secs:30,inventory_every:1e1\x7d\x7d"

/-- What both configurations say. -/
def account : List Piece × Node :=
  (piecesOf "credentials", .object
    [(piecesOf "user", .text (piecesOf "u")), (piecesOf "password", .text (piecesOf "p"))])

def interval : List Piece × Node :=
  (piecesOf "interval_secs", .number ['3', '0'])

def feederOf (entries : List (List Piece × Node)) : List Piece × Node :=
  (piecesOf "feeder", .object entries)

set_option maxRecDepth 4000 in
theorem parse_spelled_out_terse :
    parse none (terse "") =
      .ok ⟨.standard, ⟨"u", "p"⟩, .standard none, ⟨30, 10, none, none, none⟩, .standard⟩ ∧
    parse none verbose =
      .ok ⟨.standard, ⟨"u", "p"⟩, .standard none, ⟨30, 10, none, none, none⟩, .standard⟩ ∧
    parse none (terse "library:\x7bpath:'libtransit.so'\x7d,") =
      .ok ⟨.standard, ⟨"u", "p"⟩, .standard none, ⟨30, 10, none, none, none⟩, .standard⟩ ∧
    Schema.natural.ofNode (.number ['3', '0']) = .ok 30 := by
  obtain ⟨steps, written, kept⟩ := parse_spelled_out none
  have document : Node.ofText (terse "") = .ok (.object [account, feederOf [interval]]) :=
    ofText_of_scan (by simp only [terse, String.toList_append, String.reduceToList]; rfl) rfl
  have accepted : parse none (terse "") =
      .ok ⟨.standard, ⟨"u", "p"⟩, .standard none, ⟨30, 10, none, none, none⟩, .standard⟩ :=
    (parse_eq_ok_iff document).mpr ⟨rfl, rfl⟩
  have fresh : ∀ entry ∈ [] ++ [account, feederOf [interval]], textOf entry.1 ≠ .ok "library" := by
    simp [account, feederOf, textOf_piecesOf]
  refine ⟨accepted, ?verbose, ?whole, ?interval⟩
  case verbose =>
    have library : (schema none).WritesOut (.object ([] ++ [account, feederOf [interval]]))
        (.object ([] ++ (piecesOf "library", .object []) :: [account, feederOf [interval]])) :=
      .member .head (textOf_piecesOf _) fresh ⟨_, rfl, .inl rfl⟩
    have cycles : FeederSettings.schema.WritesOut (.object ([] ++ [interval]))
        (.object ([] ++ (piecesOf "max_cycles", .null) :: [interval])) :=
      .member (.tail (by decide) <| .tail (by decide) <| .tail (by decide) <| .tail (by decide) .head)
        (textOf_piecesOf _) (by simp [interval, textOf_piecesOf]) ⟨_, rfl, .inl rfl⟩
    have inventory : FeederSettings.schema.WritesOut
        (.object ([(piecesOf "max_cycles", .null), interval] ++ []))
        (.object ([(piecesOf "max_cycles", .null), interval] ++
          (piecesOf "inventory_every", .number ['1', 'e', '1']) :: [])) :=
      .member (.tail (by decide) .head) (textOf_piecesOf _) (by simp [interval, textOf_piecesOf])
        ⟨_, rfl, .inr rfl⟩
    have within {node other : Node} (inner : FeederSettings.schema.WritesOut node other) :
        (schema none).WritesOut
          (.object ([(piecesOf "library", .object []), account] ++ (piecesOf "feeder", node) :: []))
          (.object ([(piecesOf "library", .object []), account] ++ (piecesOf "feeder", other) :: [])) :=
      .within (.tail (by decide) <| .tail (by decide) <| .tail (by decide) .head)
        (textOf_piecesOf _) inner
    have out := ((Relation.ReflTransGen.single library).tail (within cycles)).tail (within inventory)
    have longer : Node.ofText verbose = .ok (.object
        ([(piecesOf "library", .object []), account] ++ [(piecesOf "feeder",
          .object [(piecesOf "max_cycles", .null), interval,
            (piecesOf "inventory_every", .number ['1', 'e', '1'])])])) :=
      ofText_of_scan (by delta verbose; simp only [String.toList_append, String.reduceToList]; rfl) rfl
    exact (steps _ _ _ _ document longer out _).mpr accepted
  case whole =>
    have bare : Node.ofText (terse "library:\x7b\x7d,") = .ok (.object
        ([] ++ (piecesOf "library", .object []) :: [account, feederOf [interval]])) :=
      ofText_of_scan (by simp only [terse, String.toList_append, String.reduceToList]; rfl) rfl
    have whole : Node.ofText (terse "library:\x7bpath:'libtransit.so'\x7d,") = .ok (.object
        ([] ++ (piecesOf "library", (LibrarySettings.schema.toJson .standard).node) ::
          [account, feederOf [interval]])) :=
      ofText_of_scan (by simp only [terse, String.toList_append, String.reduceToList]; rfl) rfl
    obtain ⟨-, same⟩ := written "library" _ _ _ _ _ _ _ (.head _) (textOf_piecesOf _) fresh document
      bare whole _
    exact same.mpr accepted
  case interval =>
    exact kept _ _ _ document accepted UInt64 .natural _ (·.feeder.intervalSeconds)
      (.member (.tail (by decide) <| .tail (by decide) <| .tail (by decide) .head)
        (textOf_piecesOf _) (.tail _ (.head _)) <|
        .member .head (textOf_piecesOf _) (.head _) .here)

end Settings

end MonitorFeed
