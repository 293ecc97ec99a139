import MonitorFeed.Proofs.Table
import MonitorFeed.Schema.Reader
import MonitorFeed.Schema.Writer
import Mathlib.Data.List.Forall2

/-!
What a writer may write for a value, and what a reader can be expected to make of it. The entries of
a table have no order of their own, so a value has a document for every order of them.
-/

namespace MonitorFeed

section Related

variable {α β : Type} {related : α → β → Prop} {left : List α} {right : List β}

theorem exists_of_mem_right (each : List.Forall₂ related left right) {value : β}
    (member : value ∈ right) : ∃ other ∈ left, related other value := by
  induction each with
  | nil => cases member
  | cons head tail ih =>
    rcases List.mem_cons.mp member with rfl | member
    · exact ⟨_, List.mem_cons_self, head⟩
    · obtain ⟨other, member, same⟩ := ih member
      exact ⟨other, List.mem_cons_of_mem _ member, same⟩

theorem exists_of_mem_left (each : List.Forall₂ related left right) {value : α}
    (member : value ∈ left) : ∃ other ∈ right, related value other :=
  exists_of_mem_right each.flip member

/-- Entries that are related under the same keys have the same keys. -/
theorem map_fst_eq_of_forall₂ {related : String × α → String × β → Prop}
    {left : List (String × α)} {right : List (String × β)}
    (each : List.Forall₂ related left right)
    (same : ∀ {entry other}, related entry other → entry.1 = other.1) :
    left.map Prod.fst = right.map Prod.fst := by
  induction each with
  | nil => rfl
  | cons head _ ih => rw [List.map_cons, List.map_cons, same head, ih]

theorem exists_forall₂ (each : ∀ value ∈ left, ∃ image, related value image) :
    ∃ right, List.Forall₂ related left right := by
  induction left with
  | nil => exact ⟨[], .nil⟩
  | cons value left ih =>
    obtain ⟨⟨image, head⟩, others⟩ := List.forall_mem_cons.mp each
    obtain ⟨right, tail⟩ := ih others
    exact ⟨image :: right, .cons head tail⟩

theorem exists_of_getElem? (each : List.Forall₂ related left right) {index : Nat}
    {value : α} (held : left[index]? = some value) :
    ∃ other, right[index]? = some other ∧ related value other := by
  induction each generalizing index with
  | nil => cases held
  | cons head tail ih =>
    cases index with
    | zero =>
      obtain rfl := Option.some.inj held
      exact ⟨_, rfl, head⟩
    | succ index => exact ih held

end Related

mutual
/-- A document that may be written for a value: members stand in the order of the schema, and the
entries of a table in any order. -/
def Schema.Written : {α : Type} → Schema α → α → Json → Prop
  | _, .optional content, value, document =>
    match value with
    | none => document = .null
    | some value => content.Written value document
  | _, .list item, values, document =>
    ∃ items, document = .list items ∧
      List.Forall₂ (fun value written => item.Written value written) values items
  | _, .table entry, table, document =>
    ∃ (entries : List (String × _)) (members : List (String × Json)),
      entries.Perm table.entries ∧ document = .object members ∧
        List.Forall₂ (fun held member =>
          held.1 = member.1 ∧ entry.Written held.2 member.2) entries members
  | _, .record _ members view, value, document =>
    ∃ written, document = .object written ∧ members.Written (view.split value) written
  | _, schema, value, document => document = schema.toJson value

/-- Members that may be written for the values of a record. -/
def Members.Written : {β σ : Type} → Members β σ → β → List (String × Json) → Prop
  | _, _, .nil, (), written => written = []
  | _, _, .cons name presence content rest, (value, values), written =>
    if presence.omits content value then rest.Written values written
    else ∃ document others, written = (name, document) :: others ∧
      content.Written value document ∧ rest.Written values others
end

/-- Whether the values of a schema are doubles. -/
def Schema.isReal : {α : Type} → Schema α → Bool
  | _, .real => true
  | _, _ => false

/-- Whether the values of a schema may be absent. -/
def Schema.isOptional : {α : Type} → Schema α → Bool
  | _, .optional _ => true
  | _, _ => false

/-- Whether a value has a document of its own: a double that is not finite has none. -/
def Schema.isWritable : {α : Type} → Schema α → α → Bool
  | _, .real, value => Decimal.isFinite value
  | _, _, _ => true

mutual
/-- What comes back of a value that is written and read: an optional double that is not finite is
absent, and everything else is as it was. -/
def Schema.settle : {α : Type} → Schema α → α → α
  | _, .optional content, value =>
    (value.filter content.isWritable).map fun value => content.settle value
  | _, .list item, values => values.map fun value => item.settle value
  | _, .table entry, table => table.map fun value => entry.settle value
  | _, .record _ members view, value => view.build (members.settle (view.split value))
  | _, _, value => value

/-- What comes back of the values of a record. -/
def Members.settle : {β σ : Type} → Members β σ → β → β
  | _, _, .nil, () => ()
  | _, _, .cons _ _ content rest, (value, values) => (content.settle value, rest.settle values)
end

mutual
/-- The doubles in a value. -/
def Schema.doubles : {α : Type} → Schema α → α → List Float
  | _, .real, value => [value]
  | _, .optional content, value => value.toList.flatMap fun value => content.doubles value
  | _, .list item, values => values.flatMap fun value => item.doubles value
  | _, .table entry, table => table.entries.flatMap fun held => entry.doubles held.2
  | _, .record _ members view, value => members.doubles (view.split value)
  | _, _, _ => []

/-- The doubles in the values of a record. -/
def Members.doubles : {β σ : Type} → Members β σ → β → List Float
  | _, _, .nil, () => []
  | _, _, .cons _ _ content rest, (value, values) => content.doubles value ++ rest.doubles values
end

mutual
/-- A schema whose documents can be told apart: the members of a record have different names, an
optional value is not optional in turn, and doubles are optional. -/
def Schema.isRegular : {α : Type} → Schema α → Bool
  | _, .real => false
  | _, .optional content => content.isReal || (content.isRegular && !content.isOptional)
  | _, .list item => item.isRegular
  | _, .table entry => entry.isRegular
  | _, .record _ members _ => members.isRegular
  | _, _ => true

/-- Members that can be told apart. -/
def Members.isRegular : {β σ : Type} → Members β σ → Bool
  | _, _, .nil => true
  | _, _, .cons name _ content rest =>
    !rest.names.contains name && content.isRegular && rest.isRegular
end

theorem Schema.isRegular_optional {α : Type} {content : Schema α} :
    (Schema.optional content).isRegular = true ↔
      content.isReal = true ∨ content.isRegular = true ∧ content.isOptional = false := by
  simp [isRegular]

theorem Members.isRegular_cons {α β σ : Type} {name : String} {presence : Presence α}
    {content : Schema α} {rest : Members β σ} :
    (Members.cons name presence content rest).isRegular = true ↔
      name ∉ rest.names ∧ content.isRegular = true ∧ rest.isRegular = true := by
  simp [isRegular, and_assoc]

mutual
/-- The document of a value is one of those that may be written for it. -/
theorem Schema.written_toJson : {α : Type} → (schema : Schema α) → (value : α) →
    schema.Written value (schema.toJson value)
  | _, .optional content, none => rfl
  | _, .optional content, some value => content.written_toJson value
  | _, .list item, values => by
    refine ⟨_, rfl, ?_⟩
    rw [List.forall₂_map_right_iff, List.forall₂_same]
    intro value _
    exact item.written_toJson value
  | _, .table entry, table => by
    refine ⟨table.entries, _, .refl _, rfl, ?_⟩
    rw [List.forall₂_map_right_iff, List.forall₂_same]
    intro held _
    exact ⟨rfl, entry.written_toJson held.2⟩
  | _, .record _ members view, value => ⟨_, rfl, members.written_toJson (view.split value)⟩
  | _, .text, _ => rfl
  | _, .path, _ => rfl
  | _, .flag, _ => rfl
  | _, .integer, _ => rfl
  | _, .natural, _ => rfl
  | _, .real, _ => rfl
  | _, .instant, _ => rfl
  | _, .choice _, _ => rfl

/-- The members of a record that are written are those that may be. -/
theorem Members.written_toJson : {β σ : Type} → (members : Members β σ) → (values : β) →
    members.Written values (members.toJson values)
  | _, _, .nil, () => rfl
  | _, _, .cons name presence content rest, (value, values) => by
    rw [Members.Written, Members.toJson]
    by_cases omitted : presence.omits content value = true
    · simp only [omitted, ↓reduceIte]
      exact rest.written_toJson values
    · simp only [omitted, ↓reduceIte, Bool.false_eq_true]
      exact ⟨_, _, rfl, content.written_toJson value, rest.written_toJson values⟩
end

mutual
/-- A value whose doubles are all finite is settled as it is. -/
theorem Schema.settle_of_finite : {α : Type} → (schema : Schema α) → (value : α) →
    (∀ x ∈ schema.doubles value, Decimal.isFinite x = true) → schema.settle value = value
  | _, .optional content, none, _ => rfl
  | _, .optional content, some value, finite => by
    have inner : ∀ x ∈ content.doubles value, Decimal.isFinite x = true := by
      intro x member
      exact finite x (by simpa [Schema.doubles] using member)
    have writable : content.isWritable value = true := by
      cases content with
      | real => exact inner value (by simp [Schema.doubles])
      | _ => rfl
    simp only [Schema.settle, Option.filter_some, writable, ↓reduceIte, Option.map_some,
      content.settle_of_finite value inner]
  | _, .list item, values, finite => by
    have each : ∀ value ∈ values, item.settle value = value := by
      intro value member
      apply item.settle_of_finite
      intro x double
      exact finite x (List.mem_flatMap.mpr ⟨value, member, double⟩)
    simpa [Schema.settle] using List.map_congr_left each
  | _, .table entry, table, finite => by
    have each : ∀ held ∈ table.entries, (held.1, entry.settle held.2) = held := by
      intro held member
      have kept : entry.settle held.2 = held.2 := by
        apply entry.settle_of_finite
        intro x double
        exact finite x (List.mem_flatMap.mpr ⟨held, member, double⟩)
      rw [kept]
    apply Table.ext
    simpa [Schema.settle, Table.map] using List.map_congr_left each
  | _, .record _ members view, value, finite => by
    have kept := members.settle_of_finite (view.split value) finite
    simp only [Schema.settle, kept, view.build_split]
  | _, .text, _, _ => rfl
  | _, .path, _, _ => rfl
  | _, .flag, _, _ => rfl
  | _, .integer, _, _ => rfl
  | _, .natural, _, _ => rfl
  | _, .real, _, _ => rfl
  | _, .instant, _, _ => rfl
  | _, .choice _, _, _ => rfl

/-- Values of a record whose doubles are all finite are settled as they are. -/
theorem Members.settle_of_finite : {β σ : Type} → (members : Members β σ) → (values : β) →
    (∀ x ∈ members.doubles values, Decimal.isFinite x = true) → members.settle values = values
  | _, _, .nil, (), _ => rfl
  | _, _, .cons _ _ content rest, (value, values), finite => by
    have head := content.settle_of_finite value fun x member =>
      finite x (List.mem_append_left _ member)
    have tail := rest.settle_of_finite values fun x member =>
      finite x (List.mem_append_right _ member)
    simp only [Members.settle, head, tail]
end

end MonitorFeed
