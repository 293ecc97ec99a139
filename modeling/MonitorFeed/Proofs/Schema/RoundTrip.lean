import MonitorFeed.Proofs.Schema.Containers
import MonitorFeed.Proofs.Schema.Written

/-!
Reading what was written. The proof goes over the schema: one case for each way to lay out a value,
each resting on the reader of that layout and on the round trip of the parts.
-/

namespace MonitorFeed

open Json

/-- Every text that may be written for a value is read as what is settled of it, given that its
finite doubles come back from their own texts. -/
def Schema.RoundTrips {α : Type} (schema : Schema α) : Prop :=
  schema.isRegular = true → ∀ {value document}, schema.Written value document →
    (∀ x ∈ schema.doubles value, Decimal.isFinite x = true → ReadsBack x) →
    Takes schema.scan (schema.settle value) document

/-- The entries of an object, in any order, hold the values of a record: each value is read from an
entry of its name, or there is no such entry and that means the value. -/
def Members.Fills : {β σ : Type} → Members β σ → β → List (String × Json) → Prop
  | _, _, .nil, (), _ => True
  | _, _, .cons name presence content rest, (value, values), entries =>
    ((∃ document, (name, document) ∈ entries ∧ Takes content.scan value document) ∨
      (∀ entry ∈ entries, entry.1 ≠ name) ∧ presence.absent? content = some value) ∧
        rest.Fills values entries

/-- The members that may be written for the values of a record hold what is settled of them. -/
def Members.RoundTrips {β σ : Type} (members : Members β σ) : Prop :=
  members.isRegular = true → ∀ {values written}, members.Written values written →
    (∀ x ∈ members.doubles values, Decimal.isFinite x = true → ReadsBack x) →
    members.Fills (members.settle values) written

namespace Schema

variable {α : Type}

/-- Only an optional value is ever written as a null. -/
theorem isNull_of_written {content : Schema α} (regular : content.isRegular = true)
    (present : content.isOptional = false) {value : α} {document : Json}
    (written : content.Written value document) : document.isNull = false := by
  cases content with
  | real => cases regular
  | optional content => cases present
  | list item =>
    obtain ⟨items, rfl, -⟩ := written
    rfl
  | table entry =>
    obtain ⟨entries, members, -, rfl, -⟩ := written
    rfl
  | record label members view =>
    obtain ⟨members, rfl, -⟩ := written
    rfl
  | _ =>
    obtain rfl := written
    rfl

/-- What is regular holds its doubles under an optional value only, so every value of it is
writable. -/
theorem isWritable_of_isRegular {content : Schema α} (regular : content.isRegular = true)
    (value : α) : content.isWritable value = true := by
  cases content with
  | real => cases regular
  | _ => rfl

theorem settle_some {content : Schema α} (regular : content.isRegular = true) (value : α) :
    (Schema.optional content).settle (some value) = some (content.settle value) := by
  simp [settle, isWritable_of_isRegular regular]

private theorem takes_optional_real {x : Float} (document : Json)
    (written : document = Schema.real.toJson x)
    (back : Decimal.isFinite x = true → ReadsBack x) :
    Takes (readOptional readReal) (if Decimal.isFinite x then some x else none) document := by
  subst written
  by_cases finite : Decimal.isFinite x = true
  · simp only [toJson, finite, ↓reduceIte]
    exact takes_present (by simp [isNull, finite]) (takes_real finite (back finite))
  · simp only [toJson, finite, ↓reduceIte, Bool.false_eq_true]
    exact takes_absent

theorem RoundTrips.optional {content : Schema α} (inner : content.RoundTrips) :
    (Schema.optional content).RoundTrips := by
  intro regular value document written doubles
  cases value with
  | none =>
    obtain rfl : document = .null := written
    exact takes_absent
  | some value =>
    have written : content.Written value document := written
    have doubles : ∀ x ∈ content.doubles value, Decimal.isFinite x = true → ReadsBack x := by
      intro x member
      exact doubles x (by simpa [Schema.doubles] using member)
    by_cases real : content.isReal = true
    · cases content with
      | real =>
        have back := doubles value (by simp [Schema.doubles])
        have taken := takes_optional_real document written back
        have settled : (Schema.optional .real).settle (some value) =
            if Decimal.isFinite value then some value else none := by
          by_cases finite : Decimal.isFinite value = true <;> simp [settle, isWritable, finite]
        rw [settled]
        exact taken
      | _ => cases real
    · obtain ⟨solid, present⟩ := (isRegular_optional.mp regular).resolve_left real
      have null := isNull_of_written solid present written
      rw [settle_some solid]
      exact takes_present null (inner solid written doubles)

theorem RoundTrips.list {item : Schema α} (inner : item.RoundTrips) :
    (Schema.list item).RoundTrips := by
  intro regular values document written doubles
  obtain ⟨items, rfl, each⟩ := written
  have back : ∀ value ∈ values, ∀ x ∈ item.doubles value, Decimal.isFinite x = true →
      ReadsBack x := by
    intro value member x double
    exact doubles x (List.mem_flatMap.mpr ⟨value, member, double⟩)
  have taken : List.Forall₂ (Takes item.scan) (values.map item.settle) items := by
    rw [List.forall₂_map_left_iff]
    refine List.Forall₂.imp ?_ ((List.forall₂_and_left _ _).mpr ⟨back, each⟩)
    rintro value document ⟨doubles, written⟩
    exact inner regular written doubles
  exact takes_list taken

theorem RoundTrips.table {entry : Schema α} (inner : entry.RoundTrips) :
    (Schema.table entry).RoundTrips := by
  intro regular table document written doubles
  obtain ⟨entries, members, same, rfl, each⟩ := written
  have back : ∀ held ∈ entries, ∀ x ∈ entry.doubles held.2, Decimal.isFinite x = true →
      ReadsBack x := by
    intro held member x double
    exact doubles x (List.mem_flatMap.mpr ⟨held, same.mem_iff.mp member, double⟩)
  have taken : List.Forall₂ (fun held member => held.1 = member.1 ∧ Takes entry.scan held.2 member.2)
      (entries.map fun held => (held.1, entry.settle held.2)) members := by
    rw [List.forall₂_map_left_iff]
    refine List.Forall₂.imp ?_ ((List.forall₂_and_left _ _).mpr ⟨back, each⟩)
    rintro held member ⟨doubles, key, written⟩
    exact ⟨key, inner regular written doubles⟩
  have settled : Table.ofList (entries.map fun held => (held.1, entry.settle held.2)) =
      (Schema.table entry).settle table :=
    Table.ofList_of_perm (same.map _)
  rw [← settled]
  exact takes_table taken

/-- A blank value stays as it is. -/
theorem settle_of_isBlank {content : Schema α} {value : α} (blank : content.isBlank value = true) :
    content.settle value = value := by
  cases content with
  | optional content =>
    cases value with
    | none => rfl
    | some value => cases blank
  | list item =>
    cases value with
    | nil => rfl
    | cons head rest => cases blank
  | table entry =>
    obtain ⟨entries, ordered⟩ := value
    cases entries with
    | nil => rfl
    | cons head rest => cases blank
  | _ => cases blank

end Schema

/-- The absence of a member that is left out means what is settled of its value. -/
theorem Presence.absent?_of_omits {α : Type} {presence : Presence α} {content : Schema α}
    {value : α} (omitted : presence.omits content value = true) :
    presence.absent? content = some (content.settle value) := by
  cases presence with
  | required => cases omitted
  | fallback value => cases omitted
  | sparse =>
    have blank : content.isBlank value = true := omitted
    rw [content.settle_of_isBlank blank]
    exact content.blank?_of_isBlank value blank

namespace Members

variable {α β σ : Type}

/-- What is written for a record has the names of its members, in their order. -/
theorem sublist_names_of_written : {β σ : Type} → {members : Members β σ} → {values : β} →
    {written : List (String × Json)} → members.Written values written →
    (written.map Prod.fst).Sublist members.names
  | _, _, .nil, (), _, each => by
    obtain rfl := each
    exact .refl _
  | _, _, .cons name presence content rest, (value, values), _, each => by
    rw [Members.Written] at each
    split at each
    · exact (sublist_names_of_written each).cons name
    · obtain ⟨document, others, rfl, -, each⟩ := each
      exact (sublist_names_of_written each).cons_cons name

theorem mem_names_of_written {members : Members β σ} {values : β}
    {written : List (String × Json)} (each : members.Written values written) :
    ∀ member ∈ written, member.1 ∈ members.names :=
  fun _ found => (sublist_names_of_written each).subset (List.mem_map_of_mem found)

theorem nodup_names : {β σ : Type} → {members : Members β σ} → members.isRegular = true →
    members.names.Nodup
  | _, _, .nil, _ => List.nodup_nil
  | _, _, .cons _ _ _ _, regular => by
    obtain ⟨new, -, others⟩ := isRegular_cons.mp regular
    exact List.nodup_cons.mpr ⟨new, nodup_names others⟩

/-- Only the entries under the names of the members matter. -/
theorem Fills.congr : {β σ : Type} → {members : Members β σ} → {values : β} →
    {entries others : List (String × Json)} → members.Fills values entries →
    (∀ entry, entry.1 ∈ members.names → (entry ∈ others ↔ entry ∈ entries)) →
    members.Fills values others
  | _, _, .nil, (), _, _, _, _ => trivial
  | _, _, .cons name presence content rest, (value, values), entries, others, fills, same => by
    obtain ⟨own, later⟩ := fills
    refine ⟨?_, later.congr fun entry known => same entry (List.mem_cons_of_mem _ known)⟩
    rcases own with ⟨document, held, taken⟩ | ⟨missing, absent⟩
    · exact .inl ⟨document, (same (name, document) List.mem_cons_self).mpr held, taken⟩
    · refine .inr ⟨fun entry held own => ?_, absent⟩
      exact missing entry ((same entry (own ▸ List.mem_cons_self)).mp held) own

/-- An entry in front of those of the other members. -/
theorem Fills.cons_self {name : String} {presence : Presence α} {content : Schema α}
    {rest : Members β σ} {value : α} {values : β} {document : Json} {entries : List (String × Json)}
    (fills : rest.Fills values entries) (new : name ∉ rest.names)
    (taken : Takes content.scan value document) :
    (Members.cons name presence content rest).Fills (value, values) ((name, document) :: entries) := by
  refine ⟨.inl ⟨document, List.mem_cons_self, taken⟩, fills.congr fun entry among => ?_⟩
  have other : entry ≠ (name, document) := by
    rintro rfl
    exact new among
  simp [other]

/-- Entries that hold the values of a record, each once, are read as them in whatever order they
stand. -/
theorem Fills.folds : {β σ : Type} → {members : Members β σ} → members.isRegular = true →
    {values : β} → {entries : List (String × Json)} → members.Fills values entries →
    (entries.map Prod.fst).Nodup → (∀ entry ∈ entries, entry.1 ∈ members.names) →
    ∃ slots, Folds members.take members.unread entries slots ∧
      members.complete slots = .ok values
  | _, _, .nil, _, (), entries, _, _, known => by
    cases entries with
    | nil => exact ⟨(), .nil (), rfl⟩
    | cons entry entries => cases known entry List.mem_cons_self
  | _, _, .cons name presence content rest, regular, (value, values), entries, fills, distinct,
      known => by
    obtain ⟨new, -, regular⟩ := isRegular_cons.mp regular
    obtain ⟨own, later⟩ := fills
    rcases own with ⟨document, held, taken⟩ | ⟨missing, absent⟩
    · obtain ⟨before, after, rfl⟩ := List.append_of_mem held
      rw [List.map_append, List.map_cons] at distinct
      obtain ⟨alone, apart⟩ := List.nodup_cons.mp (List.nodup_middle.mp distinct)
      have others : ∀ entry ∈ before ++ after, entry.1 ≠ name := by
        intro entry member same
        rw [← List.map_append, ← same] at alone
        exact alone (List.mem_map.mpr ⟨entry, member, rfl⟩)
      have filled : rest.Fills values (before ++ after) := by
        refine later.congr fun entry among => ?_
        have other : entry ≠ (name, document) := by
          rintro rfl
          exact new among
        simp [other]
      have among : ∀ entry ∈ before ++ after, entry.1 ∈ rest.names := fun entry member =>
        (List.mem_cons.mp (known entry (by
          rcases List.mem_append.mp member with first | second
          · exact List.mem_append_left _ first
          · exact List.mem_append_right _ (List.mem_cons_of_mem _ second)))).resolve_left
          (others entry member)
      obtain ⟨slots, folds, complete⟩ := filled.folds regular
        (by rw [List.map_append]; exact apart) among
      obtain ⟨middle, first, second⟩ := folds.exists_of_append
      obtain ⟨different, differing⟩ := List.forall_mem_append.mp others
      refine ⟨(some value, slots), (folds_take_of_ne first different none).append
        (.cons (fun rest closes => ?_) (folds_take_of_ne second differing (some value))), ?_⟩
      · exact take_self (taken rest closes)
      · simp only [Members.complete, Option.some_or, complete]
        rfl
    · have among : ∀ entry ∈ entries, entry.1 ∈ rest.names := fun entry member =>
        (List.mem_cons.mp (known entry member)).resolve_left (missing entry member)
      obtain ⟨slots, folds, complete⟩ := later.folds regular distinct among
      refine ⟨(none, slots), folds_take_of_ne folds missing none, ?_⟩
      simp only [Members.complete, Option.none_or, absent, complete]
      rfl

theorem RoundTrips.cons {name : String} {presence : Presence α} {content : Schema α}
    {rest : Members β σ} (head : content.RoundTrips) (tail : rest.RoundTrips) :
    (Members.cons name presence content rest).RoundTrips := by
  rintro regular ⟨value, values⟩ written each doubles
  obtain ⟨new, regular, others⟩ := isRegular_cons.mp regular
  obtain ⟨back, later⟩ := List.forall_mem_append.mp doubles
  rw [Members.Written] at each
  split at each
  · rename_i omitted
    refine ⟨.inr ⟨?_, Presence.absent?_of_omits omitted⟩, tail others each later⟩
    rintro member found rfl
    exact new (mem_names_of_written each member found)
  · obtain ⟨document, following, rfl, first, each⟩ := each
    exact (tail others each later).cons_self new (head regular first back)

end Members

theorem Schema.RoundTrips.record {α β σ : Type} {members : Members β σ} (label : String)
    (view : View α β) (inner : members.RoundTrips) :
    (Schema.record label members view).RoundTrips := by
  intro regular value document written doubles
  obtain ⟨written, rfl, each⟩ := written
  have fills := inner regular each doubles
  obtain ⟨slots, folds, complete⟩ := fills.folds regular
    ((Members.sublist_names_of_written each).nodup (Members.nodup_names regular))
    (Members.mem_names_of_written each)
  exact takes_record folds complete

mutual
/-- A value of a regular schema comes back from any text that may be written for it. -/
theorem Schema.roundTrips : {α : Type} → (schema : Schema α) → schema.RoundTrips
  | _, .text => fun _ _ _ written _ => written ▸ takes_text _ _
  | _, .path => fun _ _ _ written _ => written ▸ takes_text _ _
  | _, .flag => fun _ _ _ written _ => written ▸ takes_flag _
  | _, .integer => fun _ _ _ written _ => written ▸ takes_integer _
  | _, .natural => fun _ _ _ written _ => written ▸ takes_natural _
  | _, .real => fun regular => by cases regular
  | _, .instant => fun _ _ _ written _ => written ▸ takes_instant _
  | _, .choice kind => fun _ _ _ written _ => written ▸ takes_choice kind _
  | _, .optional content => .optional content.roundTrips
  | _, .list item => .list item.roundTrips
  | _, .table entry => .table entry.roundTrips
  | _, .record label members view => .record label view members.roundTrips

theorem Members.roundTrips : {β σ : Type} → (members : Members β σ) → members.RoundTrips
  | _, _, .nil => fun _ _ _ _ _ => trivial
  | _, _, .cons _ _ content rest => .cons content.roundTrips rest.roundTrips
end

/-- A text that may be written for a value of a regular schema holds the settled value and nothing
else. -/
theorem Schema.read_written {α : Type} {schema : Schema α} (regular : schema.isRegular = true)
    {value : α} {document : Json} (written : schema.Written value document)
    (doubles : ∀ x ∈ schema.doubles value, Decimal.isFinite x = true → ReadsBack x) :
    schema.read (String.ofList document.compact) = .ok (schema.settle value) :=
  (schema.roundTrips regular written doubles).readWhole

end MonitorFeed
