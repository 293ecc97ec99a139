import MonitorFeed.Proofs.Payload.RoundTrip

/-!
What is settled of a resource, field by field: a double that is not finite is absent from the typed
value that holds it, and nothing else changes at any depth.
-/

namespace MonitorFeed

/-- The value without a double that is not finite. -/
def TypedValue.finite (value : TypedValue) : TypedValue :=
  { value with double := value.double.filter Decimal.isFinite }

/-- The limit with a finite value. -/
def Threshold.finite (threshold : Threshold) : Threshold :=
  { threshold with value := threshold.value.finite }

/-- The measurement with finite values. -/
def Series.finite (series : Series) : Series :=
  { series with
    value := series.value.finite
    thresholds := series.thresholds.map Threshold.finite }

/-- The service with finite values in its properties and metrics. -/
def Service.finite (service : Service) : Service :=
  { service with
    properties := service.properties.map TypedValue.finite
    metrics := service.metrics.map Series.finite }

/-- The resource with finite values in its properties and services. -/
def Resource.finite (resource : Resource) : Resource :=
  { resource with
    properties := resource.properties.map TypedValue.finite
    services := resource.services.map Service.finite }

/-- A table whose values stay is the same table. -/
theorem Table.map_eq_self {α : Type} (table : Table α) : (table.map fun value => value) = table :=
  Table.ext (List.map_id _)

namespace Document

/-- An optional value that holds no double is settled as it is. -/
private theorem settle_option {α : Type} (value : Option α) :
    ((value.filter fun _ => true).map fun content => content) = value := by
  cases value <;> rfl

theorem settle_interval (interval : Interval) : settle interval = interval := by
  have settled : settle interval =
      { finish := interval.finish
        start := (interval.start.filter fun _ => true).map fun content => content } := rfl
  rw [settled, settle_option]

theorem settle_threshold (threshold : Threshold) : settle threshold = threshold.finite := by
  have settled : settle threshold = { threshold with value := settle threshold.value } := rfl
  rw [settled, settle_typedValue]
  rfl

theorem settle_series (series : Series) : settle series = series.finite := by
  have settled : settle series =
      { series with
        interval := settle series.interval
        value := settle series.value
        tags := series.tags.map fun value => value
        unit := (series.unit.filter fun _ => true).map fun content => content
        thresholds := series.thresholds.map settle } := rfl
  have limits : (settle : Threshold → Threshold) = Threshold.finite := funext settle_threshold
  rw [settled, settle_interval, settle_typedValue, Table.map_eq_self, settle_option, limits]
  rfl

theorem settle_service (service : Service) : settle service = service.finite := by
  have settled : settle service =
      { service with
        owner := (service.owner.filter fun _ => true).map fun content => content
        nextCheck := (service.nextCheck.filter fun _ => true).map fun content => content
        lastOutput := (service.lastOutput.filter fun _ => true).map fun content => content
        properties := service.properties.map settle
        metrics := service.metrics.map settle } := rfl
  have values : (settle : TypedValue → TypedValue) = TypedValue.finite :=
    funext settle_typedValue
  have metrics : (settle : Series → Series) = Series.finite := funext settle_series
  rw [settled, settle_option, settle_option, settle_option, values, metrics]
  rfl

/-- Of a resource, only doubles that are not finite are lost. -/
theorem settle_resource (resource : Resource) : settle resource = resource.finite := by
  have settled : settle resource =
      { resource with
        owner := (resource.owner.filter fun _ => true).map fun content => content
        nextCheck := (resource.nextCheck.filter fun _ => true).map fun content => content
        lastOutput := (resource.lastOutput.filter fun _ => true).map fun content => content
        properties := resource.properties.map settle
        services := resource.services.map settle } := rfl
  have values : (settle : TypedValue → TypedValue) = TypedValue.finite :=
    funext settle_typedValue
  have services : (settle : Service → Service) = Service.finite := funext settle_service
  rw [settled, settle_option, settle_option, settle_option, values, services]
  rfl

end Document

end MonitorFeed
