import MonitorFeed.Table
import MonitorFeed.Timestamp

/-!
Descriptions of documents. A schema says how the values of a type are laid out in a document: which
members a record has, which may be absent, and what an absent one means. Readers and writers are
recursions over the schema, so every type has them once it is described.
-/

namespace MonitorFeed

/-- A type of named alternatives, each told apart by its name. -/
class Choice (α : Type) where
  all : List α
  name : α → String
  distinct : ∀ value, all.find? (name · == name value) = some value

namespace Choice

variable {α : Type}

/-- The alternative of a name. -/
def find? [Choice α] (given : String) : Option α :=
  (all : List α).find? (name · == given)

/-- All names, in the order of the alternatives. -/
def names (α : Type) [Choice α] : List String :=
  (all : List α).map name

theorem find?_name [Choice α] (value : α) : find? (name value) = some value :=
  distinct value

end Choice

/-- A whole and its parts, each determined by the other. -/
structure View (whole parts : Type) where
  build : parts → whole
  split : whole → parts
  build_split : ∀ value, build (split value) = value
  split_build : ∀ value, split (build value) = value

/-- Whether a member has to be there. A required one has; one with a fallback may be absent and is
always written; a sparse one is left out exactly when there is nothing to say. -/
inductive Presence (α : Type) where
  | required
  | fallback (value : α)
  | sparse

mutual
/-- How the values of a type are laid out in a document. -/
inductive Schema : Type → Type 1 where
  | text : Schema String
  | path : Schema String
  | flag : Schema Bool
  | integer : Schema Int64
  | natural : Schema UInt64
  | real : Schema Float
  | instant : Schema Timestamp
  | choice {α : Type} (kind : Choice α) : Schema α
  | optional {α : Type} (content : Schema α) : Schema (Option α)
  | list {α : Type} (item : Schema α) : Schema (List α)
  | table {α : Type} (entry : Schema α) : Schema (Table α)
  | record {α β σ : Type} (label : String) (members : Members β σ) (view : View α β) : Schema α

/-- The members of a record: the type of their values, and of the places that hold them while they
are being read. -/
inductive Members : Type → Type → Type 1 where
  | nil : Members Unit Unit
  | cons {α β σ : Type} (name : String) (presence : Presence α) (content : Schema α)
      (rest : Members β σ) : Members (α × β) (Option α × σ)
end

/-- What a sparse member means when it is absent. -/
def Schema.blank? : {α : Type} → Schema α → Option α
  | _, .optional _ => some none
  | _, .list _ => some []
  | _, .table _ => some Table.empty
  | _, _ => none

/-- Whether there is nothing to say. -/
def Schema.isBlank : {α : Type} → Schema α → α → Bool
  | _, .optional _, value => value.isNone
  | _, .list _, value => value.isEmpty
  | _, .table _, value => value.isEmpty
  | _, _, _ => false

/-- A value that is left out is the one that its absence means. -/
theorem Schema.blank?_of_isBlank {α : Type} (schema : Schema α) (value : α)
    (blank : schema.isBlank value = true) : schema.blank? = some value := by
  cases schema with
  | optional content =>
    cases value with
    | none => rfl
    | some value => cases blank
  | list item =>
    cases value with
    | nil => rfl
    | cons head rest => cases blank
  | table entry =>
    obtain ⟨entries, ordered⟩ := value
    cases entries with
    | nil => rfl
    | cons head rest => cases blank
  | _ => cases blank

/-- What the absence of a member means, if it may be absent. -/
def Presence.absent? {α : Type} (presence : Presence α) (schema : Schema α) : Option α :=
  match presence with
  | .required => none
  | .fallback value => some value
  | .sparse => schema.blank?

/-- Whether a writer leaves a member out. -/
def Presence.omits {α : Type} (presence : Presence α) (schema : Schema α) (value : α) : Bool :=
  match presence with
  | .sparse => schema.isBlank value
  | _ => false

namespace Members

/-- The names of the members, in order. -/
def names : {β σ : Type} → Members β σ → List String
  | _, _, .nil => []
  | _, _, .cons name _ _ rest => name :: rest.names

/-- No member read yet. -/
def unread : {β σ : Type} → Members β σ → σ
  | _, _, .nil => ()
  | _, _, .cons _ _ _ rest => (none, rest.unread)

/-- The values of the members read, absent ones completed; the first member that is missing and may
not be is named. -/
def complete : {β σ : Type} → Members β σ → σ → Except String β
  | _, _, .nil, () => .ok ()
  | _, _, .cons name presence content rest, (slot, slots) =>
    match slot.or (presence.absent? content) with
    | none => .error name
    | some value => (rest.complete slots).map (value, ·)

end Members

end MonitorFeed
