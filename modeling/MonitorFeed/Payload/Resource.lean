import MonitorFeed.Payload.Context
import MonitorFeed.Payload.Series

/-!
Monitored resources with their services, and the report that delivers them.
-/

namespace MonitorFeed

/-- The kind of a monitored entity. -/
inductive ResourceKind where
  | host
  | hypervisor
  | machine
  | virtualMachine
  | cloudApp
  | cloudFunction
  | loadBalancer
  | storage
  | network
  | networkDevice
  | service
deriving BEq, DecidableEq

instance : Choice ResourceKind where
  all := [.host, .hypervisor, .machine, .virtualMachine, .cloudApp, .cloudFunction, .loadBalancer,
    .storage, .network, .networkDevice, .service]
  name
    | .host => "host"
    | .hypervisor => "hypervisor"
    | .machine => "instance"
    | .virtualMachine => "virtual-machine"
    | .cloudApp => "cloud-app"
    | .cloudFunction => "cloud-function"
    | .loadBalancer => "load-balancer"
    | .storage => "storage"
    | .network => "network"
    | .networkDevice => "network-device"
    | .service => "service"
  distinct := by intro value; cases value <;> decide

instance : Document ResourceKind where
  schema := .choice inferInstance

/-- The state of a host or a service. -/
inductive Status where
  | hostUp
  | hostDown
  | hostUnreachable
  | hostScheduledDown
  | hostUnscheduledDown
  | hostPending
  | serviceOk
  | serviceWarning
  | serviceUnscheduledCritical
  | servicePending
  | serviceScheduledCritical
  | serviceUnknown
deriving BEq, DecidableEq

instance : Choice Status where
  all := [.hostUp, .hostDown, .hostUnreachable, .hostScheduledDown, .hostUnscheduledDown,
    .hostPending, .serviceOk, .serviceWarning, .serviceUnscheduledCritical, .servicePending,
    .serviceScheduledCritical, .serviceUnknown]
  name
    | .hostUp => "HOST_UP"
    | .hostDown => "HOST_DOWN"
    | .hostUnreachable => "HOST_UNREACHABLE"
    | .hostScheduledDown => "HOST_SCHEDULED_DOWN"
    | .hostUnscheduledDown => "HOST_UNSCHEDULED_DOWN"
    | .hostPending => "HOST_PENDING"
    | .serviceOk => "SERVICE_OK"
    | .serviceWarning => "SERVICE_WARNING"
    | .serviceUnscheduledCritical => "SERVICE_UNSCHEDULED_CRITICAL"
    | .servicePending => "SERVICE_PENDING"
    | .serviceScheduledCritical => "SERVICE_SCHEDULED_CRITICAL"
    | .serviceUnknown => "SERVICE_UNKNOWN"
  distinct := by intro value; cases value <;> decide

instance : Document Status where
  schema := .choice inferInstance

/-- A service of a monitored resource. -/
structure Service where
  name : String
  kind : ResourceKind
  owner : Option String
  status : Status
  lastCheck : Timestamp
  nextCheck : Option Timestamp
  lastOutput : Option String
  properties : Table TypedValue
  metrics : List Series
deriving BEq

namespace Service

instance : Document Service where
  schema := .record "MonitoredService"
    (.cons "name" .required .text <|
     .cons "type" .required (.choice inferInstance) <|
     .cons "owner" .sparse (.optional .text) <|
     .cons "status" .required (.choice inferInstance) <|
     .cons "lastCheckTime" .required .instant <|
     .cons "nextCheckTime" .sparse (.optional .instant) <|
     .cons "lastPlugInOutput" .sparse (.optional .text) <|
     .cons "properties" .sparse (.table Document.schema) <|
     .cons "metrics" .sparse (.list Document.schema) .nil)
    { build := fun (name, kind, owner, status, lastCheck, nextCheck, lastOutput, properties,
          metrics, ()) =>
        ⟨name, kind, owner, status, lastCheck, nextCheck, lastOutput, properties, metrics⟩
      split := fun service =>
        (service.name, service.kind, service.owner, service.status, service.lastCheck,
          service.nextCheck, service.lastOutput, service.properties, service.metrics, ())
      build_split := fun _ => rfl
      split_build := fun _ => rfl }

/-- A service of an owner, checked now. -/
def checked (name owner : String) (status : Status) (now : Timestamp) : Service where
  name := name
  kind := .service
  owner := some owner
  status := status
  lastCheck := now
  nextCheck := none
  lastOutput := none
  properties := Table.empty
  metrics := []

def withMetric (service : Service) (metric : Series) : Service :=
  { service with metrics := service.metrics ++ [metric] }

def withOutput (service : Service) (output : String) : Service :=
  { service with lastOutput := some output }

/-- A change to a service under construction. -/
inductive Step where
  | output (output : String)
  | metric (metric : Series)

def apply (service : Service) : Step → Service
  | .output output => service.withOutput output
  | .metric metric => service.withMetric metric

/-- The service after a number of changes. -/
def build (service : Service) (steps : List Step) : Service :=
  steps.foldl apply service

end Service

/-- A host, or the like, with its services. -/
structure Resource where
  name : String
  kind : ResourceKind
  owner : Option String
  status : Status
  lastCheck : Timestamp
  nextCheck : Option Timestamp
  lastOutput : Option String
  properties : Table TypedValue
  services : List Service
deriving BEq

namespace Resource

instance : Document Resource where
  schema := .record "MonitoredResource"
    (.cons "name" .required .text <|
     .cons "type" .required (.choice inferInstance) <|
     .cons "owner" .sparse (.optional .text) <|
     .cons "status" .required (.choice inferInstance) <|
     .cons "lastCheckTime" .required .instant <|
     .cons "nextCheckTime" .sparse (.optional .instant) <|
     .cons "lastPlugInOutput" .sparse (.optional .text) <|
     .cons "properties" .sparse (.table Document.schema) <|
     .cons "services" .sparse (.list Document.schema) .nil)
    { build := fun (name, kind, owner, status, lastCheck, nextCheck, lastOutput, properties,
          services, ()) =>
        ⟨name, kind, owner, status, lastCheck, nextCheck, lastOutput, properties, services⟩
      split := fun resource =>
        (resource.name, resource.kind, resource.owner, resource.status, resource.lastCheck,
          resource.nextCheck, resource.lastOutput, resource.properties, resource.services, ())
      build_split := fun _ => rfl
      split_build := fun _ => rfl }

/-- A resource without services, checked now. -/
def checked (name : String) (kind : ResourceKind) (status : Status) (now : Timestamp) :
    Resource where
  name := name
  kind := kind
  owner := none
  status := status
  lastCheck := now
  nextCheck := none
  lastOutput := none
  properties := Table.empty
  services := []

def withService (resource : Resource) (service : Service) : Resource :=
  { resource with services := resource.services ++ [service] }

def withProperty (resource : Resource) (key : String) (value : TypedValue) : Resource :=
  { resource with properties := resource.properties.insert key value }

/-- A change to a resource under construction. -/
inductive Step where
  | service (service : Service)
  | property (key : String) (value : TypedValue)

def apply (resource : Resource) : Step → Resource
  | .service service => resource.withService service
  | .property key value => resource.withProperty key value

/-- The resource after a number of changes. -/
def build (resource : Resource) (steps : List Step) : Resource :=
  steps.foldl apply resource

/-- Number of measurements of all services. -/
def metricCount (resource : Resource) : Nat :=
  resource.services.foldr (fun service count => service.metrics.length + count) 0

end Resource

/-- What delivers monitored resources and their measurements. -/
structure Report where
  context : Option Context
  resources : List Resource
deriving BEq

namespace Report

instance : Document Report where
  schema := .record "ResourcesWithMetrics"
    (.cons "context" .sparse (.optional Document.schema) <|
     .cons "resources" .sparse (.list Document.schema) .nil)
    { build := fun (context, resources, ()) => ⟨context, resources⟩
      split := fun report => (report.context, report.resources, ())
      build_split := fun _ => rfl
      split_build := fun _ => rfl }

/-- A report that nobody has stamped. -/
def ofResources (resources : List Resource) : Report :=
  ⟨none, resources⟩

def withContext (report : Report) (context : Context) : Report :=
  { report with context := some context }

end Report

end MonitorFeed
