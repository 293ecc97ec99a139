import MonitorFeed.Payload.Credentials
import MonitorFeed.Payload.Descriptor
import MonitorFeed.Payload.Inventory
import MonitorFeed.Proofs.Schema.RoundTrip

/-!
Every payload comes back from the text that carries it, whatever its strings, integers, instants,
lists and tables hold, and in whatever order the entries of its tables are written.
-/

namespace MonitorFeed

namespace Document

variable {α : Type} [Document α]

/-- A text that may carry a value. -/
def Carries (text : String) (value : α) : Prop :=
  ∃ document, (schema : Schema α).Written value document ∧
    text = String.ofList document.compact

/-- The value with every double left out that is not finite. -/
def settle (value : α) : α :=
  (schema : Schema α).settle value

/-- The doubles in a value, at any depth. -/
def doubles (value : α) : List Float :=
  (schema : Schema α).doubles value

theorem carries_encode (value : α) : Carries (encode value) value :=
  ⟨_, Schema.written_toJson _ value, rfl⟩

theorem decode_of_carries (regular : (schema : Schema α).isRegular = true) {text : String}
    {value : α} (carries : Carries text value)
    (back : ∀ x ∈ doubles value, Decimal.isFinite x = true → ReadsBack x) :
    decode text = .ok (settle value) := by
  obtain ⟨document, written, rfl⟩ := carries
  exact Schema.read_written regular written back

/-- Of a typed value, only a double that is not finite is lost. -/
theorem settle_typedValue (value : TypedValue) :
    settle value = { value with double := value.double.filter Decimal.isFinite } := by
  have kept {β : Type} (option : Option β) :
      (option.filter fun _ => true).map (fun content => content) = option := by
    cases option <;> rfl
  have settled : settle value =
      { kind := value.kind
        boolean := (value.boolean.filter fun _ => true).map fun content => content
        double := (value.double.filter Decimal.isFinite).map fun content => content
        integer := (value.integer.filter fun _ => true).map fun content => content
        text := (value.text.filter fun _ => true).map fun content => content
        time := (value.time.filter fun _ => true).map fun content => content } := rfl
  simp only [settled, kept, Option.map_id']

end Document

/-- The types of the values that cross the boundary to the library, and of all that they hold. -/
inductive Payload where
  | credentials
  | context
  | resource
  | report
  | inventory
  | descriptor
  | typedValue
  | interval
  | threshold
  | series
  | service
  | listedService
  | listedResource
  | groupMember
  | group
  | valueKind
  | sampleRole
  | resourceKind
  | status
  | groupKind
  | timestamp

namespace Payload

/-- The values of a payload type. -/
def Value : Payload → Type
  | .credentials => Credentials
  | .context => Context
  | .resource => Resource
  | .report => Report
  | .inventory => Inventory
  | .descriptor => MetricDescriptor
  | .typedValue => TypedValue
  | .interval => Interval
  | .threshold => Threshold
  | .series => Series
  | .service => Service
  | .listedService => ListedService
  | .listedResource => ListedResource
  | .groupMember => GroupMember
  | .group => Group
  | .valueKind => ValueKind
  | .sampleRole => SampleRole
  | .resourceKind => ResourceKind
  | .status => Status
  | .groupKind => GroupKind
  | .timestamp => Timestamp

instance : (payload : Payload) → Document payload.Value
  | .credentials => inferInstanceAs (Document Credentials)
  | .context => inferInstanceAs (Document Context)
  | .resource => inferInstanceAs (Document Resource)
  | .report => inferInstanceAs (Document Report)
  | .inventory => inferInstanceAs (Document Inventory)
  | .descriptor => inferInstanceAs (Document MetricDescriptor)
  | .typedValue => inferInstanceAs (Document TypedValue)
  | .interval => inferInstanceAs (Document Interval)
  | .threshold => inferInstanceAs (Document Threshold)
  | .series => inferInstanceAs (Document Series)
  | .service => inferInstanceAs (Document Service)
  | .listedService => inferInstanceAs (Document ListedService)
  | .listedResource => inferInstanceAs (Document ListedResource)
  | .groupMember => inferInstanceAs (Document GroupMember)
  | .group => inferInstanceAs (Document Group)
  | .valueKind => inferInstanceAs (Document ValueKind)
  | .sampleRole => inferInstanceAs (Document SampleRole)
  | .resourceKind => inferInstanceAs (Document ResourceKind)
  | .status => inferInstanceAs (Document Status)
  | .groupKind => inferInstanceAs (Document GroupKind)
  | .timestamp => inferInstanceAs (Document Timestamp)

theorem isRegular_schema (payload : Payload) :
    (Document.schema : Schema payload.Value).isRegular = true := by
  cases payload <;> rfl

/-- A payload comes back from the text that it is encoded as, and from every other text that may
carry it. It comes back settled, which changes nothing in a payload whose doubles are finite. -/
theorem decode_encode (payload : Payload) (value : payload.Value)
    (back : ∀ x ∈ Document.doubles value, Decimal.isFinite x = true → ReadsBack x) :
    Document.Carries (Document.encode value) value ∧
      Document.decode (Document.encode value) = .ok (Document.settle value) ∧
      (∀ text, Document.Carries text value →
        Document.decode text = .ok (Document.settle value)) ∧
      ((∀ x ∈ Document.doubles value, Decimal.isFinite x = true) →
        Document.settle value = value) := by
  have decoded {text : String} (carries : Document.Carries text value) :
      Document.decode text = .ok (Document.settle value) :=
    Document.decode_of_carries payload.isRegular_schema carries back
  have carried := Document.carries_encode value
  refine ⟨carried, decoded carried, ?_, ?_⟩
  · intro text carries
    exact decoded carries
  · intro finite
    exact Schema.settle_of_finite _ value finite

/-- A measurement with two tags, a finite double, and a limit that is not a number. -/
def loadSeries : Series :=
  { Series.sample "load" (.ofDouble 1.5) Timestamp.epoch with
    tags := Table.ofList [("zone", "east"), ("core", "0")]
    thresholds := [⟨.warning, "load_wn", .ofDouble (0 / 0)⟩] }

theorem decode_encode_loadSeries :
    (∀ x ∈ Document.doubles loadSeries, Decimal.isFinite x = true → ReadsBack x) ∧
      Document.decode (Document.encode loadSeries) = .ok (Document.settle loadSeries) := by
  have back : ∀ x ∈ Document.doubles loadSeries, Decimal.isFinite x = true → ReadsBack x := by
    have doubles : Document.doubles loadSeries = [1.5, 0 / 0] := rfl
    rw [doubles, List.forall_mem_cons, List.forall_mem_singleton]
    refine ⟨fun _ => rfl, ?_⟩
    intro finite
    cases finite
  obtain ⟨-, decoded, -, -⟩ := decode_encode .series loadSeries back
  exact ⟨back, decoded⟩

end Payload

end MonitorFeed
