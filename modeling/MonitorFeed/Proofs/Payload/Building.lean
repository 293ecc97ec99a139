import MonitorFeed.Proofs.Payload.Finite
import MonitorFeed.Proofs.Table
import Mathlib.Algebra.GroupWithZero.Nat

/-!
Measurements, services and resources under construction. What replaces keeps the last step, what is
keyed keeps the last step of each key, and what is added stays in the order of the steps.
-/

namespace MonitorFeed

variable {α β γ : Type}

/-- What the last of the steps that set something sets. -/
def latest (sets : α → Option β) (steps : List α) : Option β :=
  (steps.filterMap sets).getLast?

/-- A step before others counts only where none of them sets anything. -/
theorem latest_cons (sets : α → Option β) (step : α) (steps : List α) :
    latest sets (step :: steps) = (latest sets steps).or (sets step) := by
  unfold latest
  cases set : sets step with
  | none => rw [List.filterMap_cons_none set, Option.or_none]
  | some value =>
    rw [List.filterMap_cons_some set, List.getLast?_cons]
    cases (steps.filterMap sets).getLast? <;> rfl

/-- What the last of the steps sets, or what stood there before them. -/
theorem latest_cons_or (sets : α → Option β) (step : α) (steps : List α) (before : Option β) :
    (latest sets (step :: steps)).or before = (latest sets steps).or ((sets step).or before) := by
  rw [latest_cons, Option.or_assoc]

/-- Two neighbours that commute may change places anywhere in a sequence. -/
private theorem foldl_swap {apply : γ → α → γ} {first second : α}
    (commute : ∀ value, apply (apply value first) second = apply (apply value second) first)
    (value : γ) (before after : List α) :
    (before ++ first :: second :: after).foldl apply value =
      (before ++ second :: first :: after).foldl apply value := by
  simp only [List.foldl_append, List.foldl_cons, commute]

theorem Table.insert_comm (table : Table α) {key other : String} (different : key ≠ other)
    (value content : α) :
    (table.insert key value).insert other content =
      (table.insert other content).insert key value := by
  refine Table.ext_get? fun asked => ?_
  simp only [Table.get?_insert]
  by_cases same : other = asked
  · rw [if_pos same, if_neg (same ▸ different), if_pos same]
  · rw [if_neg same, if_neg same]

namespace Series

namespace Step

/-- The unit that a step sets. -/
def unit? : Step → Option String
  | .unit name => some name
  | .tag _ _ => none
  | .thresholds _ _ => none

/-- The value that a step sets for a tag. -/
def tag? (key : String) : Step → Option String
  | .unit _ => none
  | .tag name value => if name = key then some value else none
  | .thresholds _ _ => none

/-- The warning and the critical limit that a step sets. -/
def limits? : Step → Option (TypedValue × TypedValue)
  | .unit _ => none
  | .tag _ _ => none
  | .thresholds warning critical => some (warning, critical)

/-- What a step writes to. -/
inductive Place where
  | unit
  | tag (key : String)
  | thresholds

def place : Step → Place
  | .unit _ => .unit
  | .tag key _ => .tag key
  | .thresholds _ _ => .thresholds

end Step

variable (series : Series) (steps : List Step)

theorem apply_unit (step : Step) : (series.apply step).unit = step.unit?.or series.unit := by
  cases step <;> rfl

theorem apply_tags (step : Step) (key : String) :
    (series.apply step).tags.get? key = (step.tag? key).or (series.tags.get? key) := by
  cases step with
  | unit unit => rfl
  | tag name value =>
    rw [show (series.apply (.tag name value)).tags = series.tags.insert name value from rfl,
      Table.get?_insert, Step.tag?]
    split <;> rfl
  | thresholds warning critical => rfl

/-- The last unit stays, and the last value of each tag; the last limits stand alone, labelled after
the metric. Nothing else changes. -/
theorem build_eq :
    series.build steps =
      { series with
        unit := (latest Step.unit? steps).or series.unit
        tags := (series.build steps).tags
        thresholds := match latest Step.limits? steps with
          | none => series.thresholds
          | some (warning, critical) =>
            [⟨.warning, series.metric ++ "_wn", warning⟩,
              ⟨.critical, series.metric ++ "_cr", critical⟩] } := by
  induction steps generalizing series with
  | nil => rfl
  | cons step rest ih =>
    rw [show series.build (step :: rest) = (series.apply step).build rest from rfl, ih,
      latest_cons_or, latest_cons, apply_unit]
    -- Only limits that a later step does not replace depend on what this step is.
    cases latest Step.limits? rest <;> cases step <;> rfl

theorem build_tags (key : String) :
    (series.build steps).tags.get? key =
      (latest (Step.tag? key) steps).or (series.tags.get? key) := by
  induction steps generalizing series with
  | nil => rfl
  | cons step rest ih =>
    rw [show series.build (step :: rest) = (series.apply step).build rest from rfl, ih, apply_tags,
      latest_cons_or]

theorem apply_comm {first second : Step} (apart : first.place ≠ second.place) :
    (series.apply first).apply second = (series.apply second).apply first := by
  cases first <;> cases second <;> first | rfl | exact absurd rfl apart | skip
  rename_i key value other content
  have different : key ≠ other := fun same => apart (congrArg Step.Place.tag same)
  have commuted := series.tags.insert_comm different value content
  simp only [apply, withTag, commuted]

end Series

namespace Service

namespace Step

/-- The output that a step sets. -/
def output? : Step → Option String
  | .output text => some text
  | .metric _ => none

/-- The measurement that a step adds. -/
def metric? : Step → Option Series
  | .output _ => none
  | .metric added => some added

/-- What a step writes to. -/
inductive Place where
  | output
  | metrics

def place : Step → Place
  | .output _ => .output
  | .metric _ => .metrics

end Step

variable (service : Service) (steps : List Step)

/-- The last output stays, and all measurements do, in the order of the steps. -/
theorem build_eq :
    service.build steps =
      { service with
        lastOutput := (latest Step.output? steps).or service.lastOutput
        metrics := service.metrics ++ steps.filterMap Step.metric? } := by
  induction steps generalizing service with
  | nil =>
    rw [List.filterMap_nil, List.append_nil]
    rfl
  | cons step rest ih =>
    rw [show service.build (step :: rest) = (service.apply step).build rest from rfl, ih,
      latest_cons_or]
    cases step with
    | output output => rfl
    | metric metric =>
      have added : Step.metric? (.metric metric) = some metric := rfl
      rw [List.filterMap_cons_some added]
      simp only [apply, withMetric, Step.output?, Option.none_or, List.append_assoc,
        List.singleton_append]

theorem apply_comm {first second : Step} (apart : first.place ≠ second.place) :
    (service.apply first).apply second = (service.apply second).apply first := by
  cases first <;> cases second <;> first | rfl | exact absurd rfl apart

/-- A service as it is made: what it is started with, and its changes. -/
structure Course where
  name : String
  owner : String
  status : Status
  now : Timestamp
  steps : List Step

/-- The service that a course ends with. -/
def Course.made (course : Course) : Service :=
  (checked course.name course.owner course.status course.now).build course.steps

theorem Course.metrics_made (course : Course) :
    course.made.metrics = course.steps.filterMap Step.metric? := by
  rw [Course.made, build_eq]
  rfl

end Service

namespace Resource

namespace Step

/-- The service that a step adds. -/
def service? : Step → Option Service
  | .service added => some added
  | .property _ _ => none

/-- The value that a step sets for a property. -/
def property? (key : String) : Step → Option TypedValue
  | .service _ => none
  | .property name value => if name = key then some value else none

/-- What a step writes to. -/
inductive Place where
  | services
  | property (key : String)

def place : Step → Place
  | .service _ => .services
  | .property key _ => .property key

end Step

variable (resource : Resource) (steps : List Step)

theorem apply_properties (step : Step) (key : String) :
    (resource.apply step).properties.get? key =
      (step.property? key).or (resource.properties.get? key) := by
  cases step with
  | service service => rfl
  | property name value =>
    rw [show (resource.apply (.property name value)).properties =
      resource.properties.insert name value from rfl, Table.get?_insert, Step.property?]
    split <;> rfl

/-- All services stay, in the order of the steps, and nothing else changes but the properties. -/
theorem build_eq :
    resource.build steps =
      { resource with
        properties := (resource.build steps).properties
        services := resource.services ++ steps.filterMap Step.service? } := by
  induction steps generalizing resource with
  | nil =>
    rw [List.filterMap_nil, List.append_nil]
    rfl
  | cons step rest ih =>
    rw [show resource.build (step :: rest) = (resource.apply step).build rest from rfl, ih]
    cases step with
    | service service =>
      have added : Step.service? (.service service) = some service := rfl
      rw [List.filterMap_cons_some added]
      simp only [apply, withService, List.append_assoc, List.singleton_append]
    | property name value => rfl

theorem build_properties (key : String) :
    (resource.build steps).properties.get? key =
      (latest (Step.property? key) steps).or (resource.properties.get? key) := by
  induction steps generalizing resource with
  | nil => rfl
  | cons step rest ih =>
    rw [show resource.build (step :: rest) = (resource.apply step).build rest from rfl, ih,
      apply_properties, latest_cons_or]

theorem apply_comm {first second : Step} (apart : first.place ≠ second.place) :
    (resource.apply first).apply second = (resource.apply second).apply first := by
  cases first <;> cases second <;> first | rfl | exact absurd rfl apart | skip
  rename_i key value other content
  have different : key ≠ other := fun same => apart (congrArg Step.Place.property same)
  have commuted := resource.properties.insert_comm different value content
  simp only [apply, withProperty, commuted]

/-- A step of a resource whose services are made by steps of their own. -/
inductive Stage where
  | service (course : Service.Course)
  | property (key : String) (value : TypedValue)

namespace Stage

/-- The step of the resource alone. -/
def step : Stage → Step
  | .service course => .service course.made
  | .property key value => .property key value

/-- The steps that add a measurement to a service. -/
def metrics : Stage → List Series
  | .service course => course.steps.filterMap Service.Step.metric?
  | .property _ _ => []

end Stage

theorem metricCount_eq_sum :
    resource.metricCount = (resource.services.map fun service => service.metrics.length).sum := by
  rw [metricCount, List.sum, List.foldr_map]

theorem metricCount_finite : resource.finite.metricCount = resource.metricCount := by
  have lengths (service : Service) : service.finite.metrics.length = service.metrics.length :=
    List.length_map _
  simp only [metricCount_eq_sum, finite, List.map_map, Function.comp_def, lengths]

/-- Every step that adds a measurement to a service counts once. -/
theorem metricCount_build (stages : List Stage) (empty : resource.services = []) :
    (resource.build (stages.map Stage.step)).metricCount =
      (stages.map fun stage => stage.metrics.length).sum := by
  rw [metricCount_eq_sum, build_eq, empty, List.nil_append]
  induction stages with
  | nil => rfl
  | cons stage rest ih =>
    cases stage with
    | service course =>
      have added : Step.service? (Stage.step (.service course)) = some course.made := rfl
      rw [List.map_cons, List.filterMap_cons_some added, List.map_cons, List.sum_cons, ih,
        Service.Course.metrics_made]
      rfl
    | property key value =>
      have kept : Step.service? (Stage.step (.property key value)) = none := rfl
      rw [List.map_cons, List.filterMap_cons_none kept, ih, List.map_cons, List.sum_cons]
      exact (Nat.zero_add _).symm

/-- Reading back what a resource is written as does not change the number of measurements. -/
theorem metricCount_decode {text : String} {resource : Resource}
    (carries : Document.Carries text resource)
    (back : ∀ x ∈ Document.doubles resource, Decimal.isFinite x = true → ReadsBack x) :
    ∃ decoded : Resource, Document.decode text = .ok decoded ∧
      decoded.metricCount = resource.metricCount := by
  have regular : (Document.schema : Schema Resource).isRegular = true :=
    Payload.isRegular_schema .resource
  refine ⟨_, Document.decode_of_carries regular carries back, ?_⟩
  rw [Document.settle_resource, metricCount_finite]

end Resource

namespace Payload

/-- What is built is fixed by the last step of each field and key and by what is added, in order.
Neighbouring steps with different places commute, and the measurements of a resource are counted
step by step, before it is encoded as after it is decoded. -/
theorem build_last_and_added :
    (∀ (metric : String) (value : TypedValue) (now : Timestamp) (steps : List Series.Step),
      let built := (Series.sample metric value now).build steps
      built =
        { metric := metric, role := .sample, interval := .instant now, value := value
          tags := built.tags
          unit := latest Series.Step.unit? steps
          thresholds := match latest Series.Step.limits? steps with
            | none => []
            | some (warning, critical) =>
              [⟨.warning, metric ++ "_wn", warning⟩, ⟨.critical, metric ++ "_cr", critical⟩] } ∧
      ∀ key, built.tags.get? key = latest (Series.Step.tag? key) steps) ∧
    (∀ (name owner : String) (status : Status) (now : Timestamp) (steps : List Service.Step),
      (Service.checked name owner status now).build steps =
        { Service.checked name owner status now with
          lastOutput := latest Service.Step.output? steps
          metrics := steps.filterMap Service.Step.metric? }) ∧
    (∀ (name : String) (kind : ResourceKind) (status : Status) (now : Timestamp)
        (steps : List Resource.Step),
      let built := (Resource.checked name kind status now).build steps
      built =
        { Resource.checked name kind status now with
          properties := built.properties
          services := steps.filterMap Resource.Step.service? } ∧
      ∀ key, built.properties.get? key = latest (Resource.Step.property? key) steps) ∧
    (∀ (series : Series) (before after : List Series.Step) (first second : Series.Step),
      first.place ≠ second.place →
        series.build (before ++ first :: second :: after) =
          series.build (before ++ second :: first :: after)) ∧
    (∀ (service : Service) (before after : List Service.Step) (first second : Service.Step),
      first.place ≠ second.place →
        service.build (before ++ first :: second :: after) =
          service.build (before ++ second :: first :: after)) ∧
    (∀ (resource : Resource) (before after : List Resource.Step) (first second : Resource.Step),
      first.place ≠ second.place →
        resource.build (before ++ first :: second :: after) =
          resource.build (before ++ second :: first :: after)) ∧
    (∀ (name : String) (kind : ResourceKind) (status : Status) (now : Timestamp)
        (stages : List Resource.Stage),
      ((Resource.checked name kind status now).build (stages.map Resource.Stage.step)).metricCount =
        (stages.map fun stage => stage.metrics.length).sum) ∧
    (∀ resource : Resource,
      (∀ x ∈ Document.doubles resource, Decimal.isFinite x = true → ReadsBack x) →
        Document.Carries (Document.encode resource) resource ∧
        ∀ text, Document.Carries text resource →
          ∃ decoded : Resource, Document.decode text = .ok decoded ∧
            decoded.metricCount = resource.metricCount) := by
  refine ⟨?series, ?service, ?resource, ?seriesSwap, ?serviceSwap, ?resourceSwap, ?count, ?decoded⟩
  case series =>
    intro metric value now steps built
    have shape := Series.build_eq (Series.sample metric value now) steps
    have unset : (Series.sample metric value now).unit = none := rfl
    rw [unset, Option.or_none] at shape
    refine ⟨shape, fun key => ?_⟩
    have tagged := Series.build_tags (Series.sample metric value now) steps key
    rw [tagged]
    exact Option.or_none
  case service =>
    intro name owner status now steps
    rw [Service.build_eq]
    simp only [Service.checked, Option.or_none, List.nil_append]
  case resource =>
    intro name kind status now steps built
    have shape := Resource.build_eq (Resource.checked name kind status now) steps
    refine ⟨shape, fun key => ?_⟩
    have kept := Resource.build_properties (Resource.checked name kind status now) steps key
    rw [kept]
    exact Option.or_none
  case seriesSwap =>
    intro series before after first second apart
    exact foldl_swap (fun value => value.apply_comm apart) series before after
  case serviceSwap =>
    intro service before after first second apart
    exact foldl_swap (fun value => value.apply_comm apart) service before after
  case resourceSwap =>
    intro resource before after first second apart
    exact foldl_swap (fun value => value.apply_comm apart) resource before after
  case count =>
    intro name kind status now stages
    exact Resource.metricCount_build (Resource.checked name kind status now) stages rfl
  case decoded =>
    intro resource back
    exact ⟨Document.carries_encode resource, fun text carries =>
      Resource.metricCount_decode carries back⟩

/-- A host with two services, one of which has a metric that is tagged twice under one name. -/
def diskStages : List Resource.Stage :=
  [.property "rack" (.ofInteger 7),
    .service ⟨"disk", "host01", .serviceOk, Timestamp.epoch,
      [.metric ((Series.sample "used" (.ofDouble 1.5) Timestamp.epoch).build
          [.tag "core" "0", .unit "%", .tag "core" "1", .thresholds (.ofInteger 70) (.ofInteger 90)]),
        .output "fine",
        .metric (Series.sample "free" (.ofInteger 90) Timestamp.epoch)]⟩,
    .service ⟨"procs", "host01", .serviceOk, Timestamp.epoch, []⟩]

def diskHost : Resource :=
  (Resource.checked "host01" .host .hostUp Timestamp.epoch).build (diskStages.map Resource.Stage.step)

theorem build_last_and_added_disk :
    diskHost.metricCount = 2 ∧
      (Series.Step.tag "core" "0").place ≠ (Series.Step.unit "%").place ∧
      (Series.sample "used" (.ofDouble 1.5) Timestamp.epoch).build [.tag "core" "0", .unit "%"] =
        (Series.sample "used" (.ofDouble 1.5) Timestamp.epoch).build [.unit "%", .tag "core" "0"] ∧
      (∀ x ∈ Document.doubles diskHost, Decimal.isFinite x = true → ReadsBack x) ∧
      ∃ decoded : Resource, Document.decode (Document.encode diskHost) = .ok decoded ∧
        decoded.metricCount = diskHost.metricCount := by
  obtain ⟨-, -, -, swapped, -, -, counted, kept⟩ := build_last_and_added
  have apart : (Series.Step.tag "core" "0").place ≠ (Series.Step.unit "%").place := by
    intro same
    cases same
  have back : ∀ x ∈ Document.doubles diskHost, Decimal.isFinite x = true → ReadsBack x := by
    have doubles : Document.doubles diskHost = [1.5] := rfl
    rw [doubles, List.forall_mem_singleton]
    exact fun _ => rfl
  obtain ⟨carried, decoded⟩ := kept diskHost back
  exact ⟨counted _ _ _ _ diskStages, apart, swapped _ [] [] _ _ apart, back, decoded _ carried⟩

end Payload

end MonitorFeed
