import MonitorFeed.Proofs.Json.Finite
import MonitorFeed.Proofs.Schema.Extent
import MonitorFeed.Proofs.Table

/-!
What is read holds no double that is not finite, if none of the fallbacks of its schema does: such a
double has no number in a text, and every other place of a value is filled by a reader.
-/

namespace MonitorFeed

open Json

/-- Every double in a value is finite. -/
def Schema.IsFinite {α : Type} (schema : Schema α) (value : α) : Prop :=
  ∀ x ∈ schema.doubles value, Decimal.isFinite x = true

/-- Every double in the values of a record is finite. -/
def Members.IsFinite {β σ : Type} (members : Members β σ) (values : β) : Prop :=
  ∀ x ∈ members.doubles values, Decimal.isFinite x = true

/-- Whether every double in a fallback is finite. -/
def Presence.isFinite {α : Type} (presence : Presence α) (content : Schema α) : Bool :=
  match presence with
  | .fallback value => (content.doubles value).all Decimal.isFinite
  | .required | .sparse => true

mutual
/-- Whether every double in the fallbacks of a schema is finite. -/
def Schema.hasFiniteFallbacks : {α : Type} → Schema α → Bool
  | _, .optional content => content.hasFiniteFallbacks
  | _, .list item => item.hasFiniteFallbacks
  | _, .table entry => entry.hasFiniteFallbacks
  | _, .record _ members _ => members.hasFiniteFallbacks
  | _, _ => true

/-- Whether every double in the fallbacks of members is finite. -/
def Members.hasFiniteFallbacks : {β σ : Type} → Members β σ → Bool
  | _, _, .nil => true
  | _, _, .cons _ presence content rest =>
    presence.isFinite content && content.hasFiniteFallbacks && rest.hasFiniteFallbacks
end

/-- The values that are in their places so far hold finite doubles only. -/
def Members.HoldsFinite : {β σ : Type} → Members β σ → σ → Prop
  | _, _, .nil, () => True
  | _, _, .cons _ _ content rest, (slot, slots) =>
    (∀ value ∈ slot, content.IsFinite value) ∧ rest.HoldsFinite slots

theorem Members.hasFiniteFallbacks_cons {α β σ : Type} {name : String} {presence : Presence α}
    {content : Schema α} {rest : Members β σ} :
    (Members.cons name presence content rest).hasFiniteFallbacks = true ↔
      presence.isFinite content = true ∧ content.hasFiniteFallbacks = true ∧
        rest.hasFiniteFallbacks = true := by
  simp [hasFiniteFallbacks, and_assoc]

theorem Members.holdsFinite_cons {α β σ : Type} {name : String} {presence : Presence α}
    {content : Schema α} {rest : Members β σ} {slot : Option α} {slots : σ} :
    (Members.cons name presence content rest).HoldsFinite (slot, slots) ↔
      (∀ value ∈ slot, content.IsFinite value) ∧ rest.HoldsFinite slots := Iff.rfl

theorem Members.isFinite_cons {α β σ : Type} {name : String} {presence : Presence α}
    {content : Schema α} {rest : Members β σ} {value : α} {values : β} :
    (Members.cons name presence content rest).IsFinite (value, values) ↔
      content.IsFinite value ∧ rest.IsFinite values :=
  List.forall_mem_append

section Places

variable {α : Type}

theorem doubles_of_blank? {schema : Schema α} {value : α} (blank : schema.blank? = some value) :
    schema.doubles value = [] := by
  cases schema <;> cases blank <;> rfl

/-- What stands for an absent member holds finite doubles only. -/
theorem Presence.finite_of_absent? {presence : Presence α} {content : Schema α} {value : α}
    (sound : presence.isFinite content = true) (absent : presence.absent? content = some value) :
    content.IsFinite value := by
  cases presence with
  | required => cases absent
  | fallback other =>
    obtain rfl := Option.some.inj absent
    exact List.all_eq_true.mp sound
  | sparse =>
    intro x member
    rw [doubles_of_blank? absent] at member
    cases member

namespace Members

theorem holdsFinite_unread {β σ : Type} (members : Members β σ) :
    members.HoldsFinite members.unread := by
  cases members with
  | nil => trivial
  | cons name presence content rest =>
    exact Members.holdsFinite_cons.mpr
      ⟨fun value held => absurd held (Option.not_mem_none value), rest.holdsFinite_unread⟩

/-- Places that hold finite doubles are completed to values that do. -/
theorem finite_of_complete : {β σ : Type} → (members : Members β σ) →
    members.hasFiniteFallbacks = true → {slots : σ} → members.HoldsFinite slots → {values : β} →
    members.complete slots = .ok values → members.IsFinite values
  | _, _, .nil, _, (), _, (), _ => List.forall_mem_nil _
  | _, _, .cons name presence content rest, sound, (slot, slots), holds, values, done => by
    obtain ⟨fallback, -, others⟩ := hasFiniteFallbacks_cons.mp sound
    obtain ⟨head, tail⟩ := holdsFinite_cons.mp holds
    rw [complete] at done
    split at done
    · cases done
    · rename_i value held
      obtain ⟨later, completed, rfl⟩ := map_eq_ok_iff.mp done
      refine isFinite_cons.mpr ⟨?_, rest.finite_of_complete others tail completed⟩
      rcases Option.or_eq_some_iff.mp held with present | ⟨-, absent⟩
      · exact head value present
      · exact Presence.finite_of_absent? fallback absent

end Members

end Places

/-- What each step keeps, a whole run of steps keeps. -/
private theorem holds_of_foldlM {σ β : Type} {step : σ → β → Option σ} {holds : σ → Prop}
    (keeps : ∀ state entry next, holds state → step state entry = some next → holds next)
    {entries : List β} {state last : σ} (held : holds state)
    (run : entries.foldlM step state = some last) : holds last := by
  induction entries generalizing state with
  | nil =>
    obtain rfl := Option.some.inj run
    exact held
  | cons entry rest ih =>
    obtain ⟨next, taken, run⟩ := Option.bind_eq_some_iff.mp run
    exact ih (keeps state entry next held taken) run

/-- The number that a token spells is that of a finite double. -/
theorem finite_of_number? {token : Token} {number : Number}
    (spelled : token.number? = some number) : Decimal.isFinite number.toFloat = true := by
  have scanned := agrees_scanNumber token [] Closes.nil
  rw [spelled, Option.map_some, toOption_eq_some_iff] at scanned
  exact finite_scanNumber scanned

mutual
/-- What the reader of a schema makes of a node holds finite doubles only. -/
theorem Schema.finite_of_verdict : {α : Type} → (schema : Schema α) →
    schema.hasFiniteFallbacks = true → {node : Node} → {value : α} →
    schema.verdict node = some value → schema.IsFinite value
  | _, .real, _, node, value, read => by
    obtain ⟨number, spelled, rfl⟩ := Option.map_eq_some_iff.mp read
    cases node with
    | number token => exact List.forall_mem_singleton.mpr (finite_of_number? spelled)
    | _ => cases spelled
  | _, .optional content, sound, node, value, read => by
    rw [Schema.verdict] at read
    split at read
    · obtain rfl := Option.some.inj read
      exact List.forall_mem_nil _
    · obtain ⟨inner, taken, rfl⟩ := Option.map_eq_some_iff.mp read
      intro x member
      exact content.finite_of_verdict sound taken x (by simpa [Schema.doubles] using member)
  | _, .list item, sound, node, values, read => by
    obtain ⟨nodes, -, taken⟩ := Option.bind_eq_some_iff.mp read
    intro x member
    obtain ⟨value, held, double⟩ := List.mem_flatMap.mp member
    obtain ⟨inner, -, same⟩ := exists_of_mem_right (mapM_eq_some_iff.mp taken) held
    exact item.finite_of_verdict sound same x double
  | _, .table entry, sound, node, table, read => by
    obtain ⟨entries, -, each⟩ := Option.bind_eq_some_iff.mp read
    obtain ⟨values, taken, rfl⟩ := Option.map_eq_some_iff.mp each
    intro x member
    obtain ⟨held, stands, double⟩ := List.mem_flatMap.mp member
    obtain ⟨source, -, same⟩ :=
      exists_of_mem_right (mapM_eq_some_iff.mp taken) (Table.mem_of_mem_ofList stands)
    obtain ⟨value, verdict, rfl⟩ := Option.map_eq_some_iff.mp same
    exact entry.finite_of_verdict sound verdict x double
  | _, .record _ members view, sound, node, value, read => by
    have built {values} (finite : members.IsFinite values) :
        members.IsFinite (view.split (view.build values)) := by
      rwa [view.split_build]
    cases node with
    | object written =>
      obtain ⟨entries, -, read⟩ := Option.bind_eq_some_iff.mp read
      obtain ⟨slots, filled, read⟩ := Option.bind_eq_some_iff.mp read
      obtain ⟨values, completed, rfl⟩ := Option.map_eq_some_iff.mp read
      have held := holds_of_foldlM (members.holdsFinite_put sound) members.holdsFinite_unread filled
      exact built (members.finite_of_complete sound held (toOption_eq_some_iff.mp completed))
    | list items =>
      obtain ⟨values, taken, rfl⟩ := Option.map_eq_some_iff.mp read
      exact built (members.finite_of_row sound taken)
    | _ => cases read
  | _, .text, _, _, _, _ => List.forall_mem_nil _
  | _, .path, _, _, _, _ => List.forall_mem_nil _
  | _, .flag, _, _, _, _ => List.forall_mem_nil _
  | _, .integer, _, _, _, _ => List.forall_mem_nil _
  | _, .natural, _, _, _, _ => List.forall_mem_nil _
  | _, .instant, _, _, _, _ => List.forall_mem_nil _
  | _, .choice _, _, _, _, _ => List.forall_mem_nil _

theorem Members.holdsFinite_put : {β σ : Type} → (members : Members β σ) →
    members.hasFiniteFallbacks = true → ∀ (slots : σ) (entry : String × Node) (next : σ),
    members.HoldsFinite slots → members.put slots entry = some next → members.HoldsFinite next
  | _, _, .nil, _, (), _, (), _, _ => trivial
  | _, _, .cons name _ content rest, sound, (slot, slots), entry, next, holds, put => by
    obtain ⟨-, inner, others⟩ := Members.hasFiniteFallbacks_cons.mp sound
    obtain ⟨head, tail⟩ := Members.holdsFinite_cons.mp holds
    rw [Members.put] at put
    split at put
    · split at put
      · cases put
      · obtain ⟨value, read, rfl⟩ := Option.map_eq_some_iff.mp put
        refine Members.holdsFinite_cons.mpr ⟨fun held same => ?_, tail⟩
        obtain rfl := Option.some.inj same
        exact content.finite_of_verdict inner read
    · obtain ⟨later, filled, rfl⟩ := Option.map_eq_some_iff.mp put
      exact Members.holdsFinite_cons.mpr
        ⟨head, rest.holdsFinite_put others slots entry later tail filled⟩

theorem Members.finite_of_row : {β σ : Type} → (members : Members β σ) →
    members.hasFiniteFallbacks = true → {items : List Node} → {values : β} →
    members.row items = some values → members.IsFinite values
  | _, _, .nil, _, _, (), _ => List.forall_mem_nil _
  | _, _, .cons _ presence content rest, sound, [], values, row => by
    obtain ⟨fallback, -, others⟩ := Members.hasFiniteFallbacks_cons.mp sound
    obtain ⟨value, absent, onward⟩ := Option.bind_eq_some_iff.mp row
    obtain ⟨values, later, rfl⟩ := Option.map_eq_some_iff.mp onward
    exact Members.isFinite_cons.mpr
      ⟨Presence.finite_of_absent? fallback absent, rest.finite_of_row others later⟩
  | _, _, .cons _ presence content rest, sound, item :: items, values, row => by
    obtain ⟨-, inner, others⟩ := Members.hasFiniteFallbacks_cons.mp sound
    obtain ⟨value, read, onward⟩ := Option.bind_eq_some_iff.mp row
    obtain ⟨values, later, rfl⟩ := Option.map_eq_some_iff.mp onward
    exact Members.isFinite_cons.mpr
      ⟨content.finite_of_verdict inner read, rest.finite_of_row others later⟩
end

section Texts

variable {α : Type} {schema : Schema α} {text : String}

/-- A value that is read holds finite doubles only. -/
theorem Schema.finite_of_read (sound : schema.hasFiniteFallbacks = true) {value : α}
    (read : schema.read text = .ok value) : schema.IsFinite value := by
  obtain ⟨node, -, verdict⟩ := Schema.read_eq_ok_iff.mp read
  exact schema.finite_of_verdict sound verdict

/-- The values of a list that is read hold finite doubles only. -/
theorem Schema.finite_of_readMany (sound : schema.hasFiniteFallbacks = true) {values : List α}
    (read : schema.readMany text = .ok values) : (Schema.list schema).IsFinite values := by
  obtain ⟨values?, whole, rfl⟩ := map_eq_ok_iff.mp read
  have sound : (Schema.optional (.list schema)).hasFiniteFallbacks = true := sound
  have finite : (Schema.optional (.list schema)).IsFinite values? :=
    Schema.finite_of_read sound whole
  cases values? with
  | none => exact List.forall_mem_nil _
  | some values =>
    intro x member
    exact finite x (List.mem_flatMap.mpr ⟨values, List.mem_singleton_self _, member⟩)

end Texts

end MonitorFeed
