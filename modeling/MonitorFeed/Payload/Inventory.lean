import MonitorFeed.Payload.Resource

/-!
The inventory: which resources and services there are, and how they are grouped.
-/

namespace MonitorFeed

/-- A service that the inventory lists. -/
structure ListedService where
  name : String
  kind : ResourceKind
  owner : Option String
  category : Option String
  description : Option String
  properties : Table TypedValue
deriving BEq

namespace ListedService

instance : Document ListedService where
  schema := .record "InventoryService"
    (.cons "name" .required .text <|
     .cons "type" .required (.choice inferInstance) <|
     .cons "owner" .sparse (.optional .text) <|
     .cons "category" .sparse (.optional .text) <|
     .cons "description" .sparse (.optional .text) <|
     .cons "properties" .sparse (.table Document.schema) .nil)
    { build := fun (name, kind, owner, category, description, properties, ()) =>
        ⟨name, kind, owner, category, description, properties⟩
      split := fun service =>
        (service.name, service.kind, service.owner, service.category, service.description,
          service.properties, ())
      build_split := fun _ => rfl
      split_build := fun _ => rfl }

/-- A service of an owner. -/
def owned (name : String) (kind : ResourceKind) (owner : String) : ListedService :=
  ⟨name, kind, some owner, none, none, Table.empty⟩

end ListedService

/-- A resource that the inventory lists. -/
structure ListedResource where
  name : String
  kind : ResourceKind
  owner : Option String
  category : Option String
  description : Option String
  device : Option String
  properties : Table TypedValue
  services : List ListedService
deriving BEq

namespace ListedResource

instance : Document ListedResource where
  schema := .record "InventoryResource"
    (.cons "name" .required .text <|
     .cons "type" .required (.choice inferInstance) <|
     .cons "owner" .sparse (.optional .text) <|
     .cons "category" .sparse (.optional .text) <|
     .cons "description" .sparse (.optional .text) <|
     .cons "device" .sparse (.optional .text) <|
     .cons "properties" .sparse (.table Document.schema) <|
     .cons "services" .sparse (.list Document.schema) .nil)
    { build := fun (name, kind, owner, category, description, device, properties, services, ()) =>
        ⟨name, kind, owner, category, description, device, properties, services⟩
      split := fun resource =>
        (resource.name, resource.kind, resource.owner, resource.category, resource.description,
          resource.device, resource.properties, resource.services, ())
      build_split := fun _ => rfl
      split_build := fun _ => rfl }

/-- A resource without services. -/
def named (name : String) (kind : ResourceKind) : ListedResource :=
  ⟨name, kind, none, none, none, none, Table.empty, []⟩

/-- Adds a service that the resource owns. -/
def withService (resource : ListedResource) (name : String) (kind : ResourceKind) :
    ListedResource :=
  { resource with services := resource.services ++ [.owned name kind resource.name] }

end ListedResource

/-- What a group gathers. -/
inductive GroupKind where
  | hosts
  | services
  | custom
deriving BEq, DecidableEq

instance : Choice GroupKind where
  all := [.hosts, .services, .custom]
  name
    | .hosts => "HostGroup"
    | .services => "ServiceGroup"
    | .custom => "CustomGroup"
  distinct := by intro value; cases value <;> decide

instance : Document GroupKind where
  schema := .choice inferInstance

/-- A resource named as a member of a group. -/
structure GroupMember where
  name : String
  kind : ResourceKind
  owner : Option String
deriving BEq

instance : Document GroupMember where
  schema := .record "MonitoredResourceRef"
    (.cons "name" .required .text <|
     .cons "type" .required (.choice inferInstance) <|
     .cons "owner" .sparse (.optional .text) .nil)
    { build := fun (name, kind, owner, ()) => ⟨name, kind, owner⟩
      split := fun member => (member.name, member.kind, member.owner, ())
      build_split := fun _ => rfl
      split_build := fun _ => rfl }

/-- A named group of resources. -/
structure Group where
  name : String
  kind : GroupKind
  description : Option String
  members : List GroupMember
deriving BEq

namespace Group

instance : Document Group where
  schema := .record "ResourceGroup"
    (.cons "groupName" .required .text <|
     .cons "type" .required (.choice inferInstance) <|
     .cons "description" .sparse (.optional .text) <|
     .cons "resources" .sparse (.list Document.schema) .nil)
    { build := fun (name, kind, description, members, ()) => ⟨name, kind, description, members⟩
      split := fun group => (group.name, group.kind, group.description, group.members, ())
      build_split := fun _ => rfl
      split_build := fun _ => rfl }

/-- A group without members. -/
def named (name : String) (kind : GroupKind) : Group :=
  ⟨name, kind, none, []⟩

def withMember (group : Group) (name : String) (kind : ResourceKind) : Group :=
  { group with members := group.members ++ [⟨name, kind, none⟩] }

end Group

/-- What replaces the listing that the pipeline holds. -/
structure Inventory where
  context : Option Context
  resources : List ListedResource
  groups : List Group
deriving BEq

namespace Inventory

instance : Document Inventory where
  schema := .record "Inventory"
    (.cons "context" .sparse (.optional Document.schema) <|
     .cons "resources" .sparse (.list Document.schema) <|
     .cons "groups" .sparse (.list Document.schema) .nil)
    { build := fun (context, resources, groups, ()) => ⟨context, resources, groups⟩
      split := fun inventory => (inventory.context, inventory.resources, inventory.groups, ())
      build_split := fun _ => rfl
      split_build := fun _ => rfl }

/-- An inventory without groups that nobody has stamped. -/
def ofResources (resources : List ListedResource) : Inventory :=
  ⟨none, resources, []⟩

def withGroup (inventory : Inventory) (group : Group) : Inventory :=
  { inventory with groups := inventory.groups ++ [group] }

def withContext (inventory : Inventory) (context : Context) : Inventory :=
  { inventory with context := some context }

end Inventory

end MonitorFeed
