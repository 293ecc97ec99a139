import MonitorFeed.Payload.Value

/-!
Measurements of a named metric.
-/

namespace MonitorFeed

/-- The role of a sample. -/
inductive SampleRole where
  | sample
  | critical
  | warning
  | least
  | greatest
deriving BEq, DecidableEq

instance : Choice SampleRole where
  all := [.sample, .critical, .warning, .least, .greatest]
  name
    | .sample => "Value"
    | .critical => "Critical"
    | .warning => "Warning"
    | .least => "Min"
    | .greatest => "Max"
  distinct := by intro role; cases role <;> decide

instance : Document SampleRole where
  schema := .choice inferInstance

/-- The time that a sample covers. -/
structure Interval where
  finish : Timestamp
  start : Option Timestamp
deriving BEq

namespace Interval

instance : Document Interval where
  schema := .record "TimeInterval"
    (.cons "endTime" .required .instant <|
     .cons "startTime" .sparse (.optional .instant) .nil)
    { build := fun (finish, start, ()) => ⟨finish, start⟩
      split := fun interval => (interval.finish, interval.start, ())
      build_split := fun _ => rfl
      split_build := fun _ => rfl }

/-- The interval of no length at an instant. -/
def instant (time : Timestamp) : Interval :=
  ⟨time, some time⟩

end Interval

/-- A limit of a metric, under a label. -/
structure Threshold where
  role : SampleRole
  label : String
  value : TypedValue
deriving BEq

instance : Document Threshold where
  schema := .record "ThresholdValue"
    (.cons "sampleType" .required (.choice inferInstance) <|
     .cons "label" .required .text <|
     .cons "value" .required Document.schema .nil)
    { build := fun (role, label, value, ()) => ⟨role, label, value⟩
      split := fun threshold => (threshold.role, threshold.label, threshold.value, ())
      build_split := fun _ => rfl
      split_build := fun _ => rfl }

/-- One measurement of a metric. -/
structure Series where
  metric : String
  role : SampleRole
  interval : Interval
  value : TypedValue
  tags : Table String
  unit : Option String
  thresholds : List Threshold
deriving BEq

namespace Series

instance : Document Series where
  schema := .record "TimeSeries"
    (.cons "metricName" .required .text <|
     .cons "sampleType" (.fallback .sample) (.choice inferInstance) <|
     .cons "interval" .required Document.schema <|
     .cons "value" .required Document.schema <|
     .cons "tags" .sparse (.table .text) <|
     .cons "unit" .sparse (.optional .text) <|
     .cons "thresholds" .sparse (.list Document.schema) .nil)
    { build := fun (metric, role, interval, value, tags, unit, thresholds, ()) =>
        ⟨metric, role, interval, value, tags, unit, thresholds⟩
      split := fun series =>
        (series.metric, series.role, series.interval, series.value, series.tags, series.unit,
          series.thresholds, ())
      build_split := fun _ => rfl
      split_build := fun _ => rfl }

/-- A sample taken at an instant. -/
def sample (metric : String) (value : TypedValue) (now : Timestamp) : Series where
  metric := metric
  role := .sample
  interval := .instant now
  value := value
  tags := Table.empty
  unit := none
  thresholds := []

def withUnit (series : Series) (unit : String) : Series :=
  { series with unit := some unit }

def withTag (series : Series) (key value : String) : Series :=
  { series with tags := series.tags.insert key value }

/-- Sets the two limits of the metric, in place of any earlier ones. -/
def withThresholds (series : Series) (warning critical : TypedValue) : Series :=
  { series with
    thresholds :=
      [⟨.warning, series.metric ++ "_wn", warning⟩, ⟨.critical, series.metric ++ "_cr", critical⟩] }

/-- A change to a sample under construction. -/
inductive Step where
  | unit (unit : String)
  | tag (key value : String)
  | thresholds (warning critical : TypedValue)

def apply (series : Series) : Step → Series
  | .unit unit => series.withUnit unit
  | .tag key value => series.withTag key value
  | .thresholds warning critical => series.withThresholds warning critical

/-- The sample after a number of changes. -/
def build (series : Series) (steps : List Step) : Series :=
  steps.foldl apply series

end Series

end MonitorFeed
