import MonitorFeed.Payload.Series

/-!
Descriptions of the metrics that the pipeline knows.
-/

namespace MonitorFeed

structure MetricDescriptor where
  name : String
  displayName : Option String
  description : Option String
  kind : Option String
  unit : Option String
  valueKind : Option ValueKind
  computation : Option String
  metricKind : Option String
  thresholds : List Threshold
  labels : Table String
deriving BEq

namespace MetricDescriptor

instance : Document MetricDescriptor where
  schema := .record "MetricDescriptor"
    (.cons "name" .required .text <|
     .cons "displayName" .sparse (.optional .text) <|
     .cons "description" .sparse (.optional .text) <|
     .cons "type" .sparse (.optional .text) <|
     .cons "unit" .sparse (.optional .text) <|
     .cons "valueType" .sparse (.optional (.choice inferInstance)) <|
     .cons "computeType" .sparse (.optional .text) <|
     .cons "metricKind" .sparse (.optional .text) <|
     .cons "thresholds" .sparse (.list Document.schema) <|
     .cons "labels" .sparse (.table .text) .nil)
    { build := fun (name, displayName, description, kind, unit, valueKind, computation, metricKind,
          thresholds, labels, ()) =>
        ⟨name, displayName, description, kind, unit, valueKind, computation, metricKind,
          thresholds, labels⟩
      split := fun metric =>
        (metric.name, metric.displayName, metric.description, metric.kind, metric.unit,
          metric.valueKind, metric.computation, metric.metricKind, metric.thresholds,
          metric.labels, ())
      build_split := fun _ => rfl
      split_build := fun _ => rfl }

/-- A metric of which only the name is known. -/
def named (name : String) : MetricDescriptor :=
  ⟨name, none, none, none, none, none, none, none, [], Table.empty⟩

/-- The name to show: the display name if there is one. -/
def label (metric : MetricDescriptor) : String :=
  metric.displayName.getD metric.name

end MetricDescriptor

end MonitorFeed
