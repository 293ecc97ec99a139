import MonitorFeed.Proofs.Schema.Accept
import Mathlib.Logic.Relation

/-!
The order of members. Members of different names may change places, at any depth of a document: what
a schema makes of it stays the same.
-/

namespace MonitorFeed

open Json

namespace Json

/-- Two neighbouring members of different names change places, somewhere in a document. -/
inductive Node.Swaps : Node → Node → Prop where
  | here (before after : List (List Piece × Node)) {first second : List Piece × Node}
      (different : Piece.string? first.1 ≠ Piece.string? second.1) :
      Node.Swaps (.object (before ++ first :: second :: after))
        (.object (before ++ second :: first :: after))
  | item (before after : List Node) {inner other : Node} (swaps : Node.Swaps inner other) :
      Node.Swaps (.list (before ++ inner :: after)) (.list (before ++ other :: after))
  | member (before after : List (List Piece × Node)) (key : List Piece) {inner other : Node}
      (swaps : Node.Swaps inner other) :
      Node.Swaps (.object (before ++ (key, inner) :: after))
        (.object (before ++ (key, other) :: after))

/-- Members of different names have changed places, any number of times. -/
def Node.Rearranged : Node → Node → Prop :=
  Relation.ReflTransGen Node.Swaps

/-- Nodes that are the same or differ by one change of places. -/
abbrev Node.Near : Node → Node → Prop :=
  Relation.ReflGen Node.Swaps

/-- Under every name the entries hold the same nodes in the same order, up to changes inside. -/
def Alike (entries others : List (String × Node)) : Prop :=
  ∀ name, List.Forall₂ Node.Near (named name entries) (named name others)

theorem near_refl (nodes : List Node) : List.Forall₂ Node.Near nodes nodes :=
  List.forall₂_same.mpr fun _ _ => .refl

theorem named_append (name : String) (left right : List (String × Node)) :
    named name (left ++ right) = named name left ++ named name right := by
  rw [named, List.filter_append, List.map_append, ← named, ← named]

theorem alike_swap (before after : List (String × Node)) {first second : String × Node}
    (different : first.1 ≠ second.1) :
    Alike (before ++ first :: second :: after) (before ++ second :: first :: after) := by
  intro name
  have same : named name (first :: second :: after) = named name (second :: first :: after) := by
    by_cases own : first.1 = name
    · have other : second.1 ≠ name := fun same => different (own.trans same.symm)
      rw [named_cons_of_eq own, named_cons_of_ne other, named_cons_of_ne other,
        named_cons_of_eq own]
    · by_cases other : second.1 = name
      · rw [named_cons_of_ne own, named_cons_of_eq other, named_cons_of_eq other,
          named_cons_of_ne own]
      · rw [named_cons_of_ne own, named_cons_of_ne other, named_cons_of_ne other,
          named_cons_of_ne own]
  rw [named_append, named_append, same]
  exact near_refl _

theorem alike_member (before after : List (String × Node)) (key : String) {inner other : Node}
    (swaps : inner.Swaps other) :
    Alike (before ++ (key, inner) :: after) (before ++ (key, other) :: after) := by
  intro name
  rw [named_append, named_append]
  refine List.rel_append (near_refl _) ?_
  by_cases own : key = name
  · rw [named_cons_of_eq own, named_cons_of_eq own]
    exact .cons (.single swaps) (near_refl _)
  · rw [named_cons_of_ne own, named_cons_of_ne own]
    exact near_refl _

/-- A change of places does not change which nodes stand under a name. -/
theorem Node.Swaps.members? {node other : Node} (swaps : node.Swaps other) :
    Option.Rel Alike node.members? other.members? := by
  cases swaps with
  | @here before after first second different =>
    obtain ⟨firstKey, firstNode⟩ := first
    obtain ⟨secondKey, secondNode⟩ := second
    simp only [Node.members?, decodeMembers_append, decodeMembers_cons]
    cases decodeMembers before with
    | none => exact .none
    | some before =>
      cases first : Piece.string? firstKey with
      | none =>
        cases Piece.string? secondKey <;> exact .none
      | some firstName =>
        cases second : Piece.string? secondKey with
        | none => exact .none
        | some secondName =>
          cases decodeMembers after with
          | none => exact .none
          | some after =>
            refine .some (alike_swap before after ?_)
            rintro rfl
            exact different (first.trans second.symm)
  | item before after swaps => exact .none
  | member before after key swaps =>
    simp only [Node.members?, decodeMembers_append, decodeMembers_cons]
    cases decodeMembers before with
    | none => exact .none
    | some before =>
      cases Piece.string? key with
      | none => exact .none
      | some name =>
        cases decodeMembers after with
        | none => exact .none
        | some after => exact .some (alike_member before after name swaps)

/-- A node that has changed stands under the name that it stood under before. -/
theorem Node.Swaps.holds {node other : Node} (swaps : node.Swaps other) {name : String}
    {inner : Node} (holds : other.Holds name inner) :
    ∃ outer, node.Holds name outer ∧ outer.Near inner := by
  cases swaps with
  | @here before after first second different =>
    obtain ⟨_, key, ⟨rfl⟩, member, named⟩ := holds
    refine ⟨inner, ⟨_, key, rfl, ?_, named⟩, .refl⟩
    exact ((List.Perm.swap second first after).append_left before).mem_iff.mpr member
  | item before after swaps =>
    obtain ⟨_, key, same, -⟩ := holds
    cases same
  | @member before after key changed other swaps =>
    obtain ⟨_, given, ⟨rfl⟩, member, named⟩ := holds
    rcases List.mem_append.mp member with member | member
    · exact ⟨inner, ⟨_, given, rfl, List.mem_append_left _ member, named⟩, .refl⟩
    rcases List.mem_cons.mp member with same | member
    · obtain ⟨rfl, rfl⟩ := Prod.mk.inj same
      exact ⟨changed, ⟨_, given, rfl, List.mem_append_right _ List.mem_cons_self, named⟩,
        .single swaps⟩
    · exact ⟨inner, ⟨_, given, rfl,
        List.mem_append_right _ (List.mem_cons_of_mem _ member), named⟩, .refl⟩

end Json

section Parts

variable {α : Type}

/-- A part that takes near nodes alike does so wherever there is one at most. -/
theorem single?_near {accept : Node → Option α} (absent : Option α) {nodes others : List Node}
    (each : List.Forall₂ Node.Near nodes others)
    (same : ∀ {node other : Node}, node.Near other → accept node = accept other) :
    single? absent accept nodes = single? absent accept others := by
  cases each with
  | nil => rfl
  | cons head tail =>
    cases tail with
    | nil => exact same head
    | cons => rfl

theorem forall_mem_near_iff {accepted : Node → Prop} {nodes others : List Node}
    (each : List.Forall₂ Node.Near nodes others)
    (same : ∀ {node other : Node}, node.Near other → (accepted node ↔ accepted other)) :
    (∀ node ∈ nodes, accepted node) ↔ ∀ node ∈ others, accepted node := by
  induction each with
  | nil => exact .rfl
  | cons head tail ih => rw [List.forall_mem_cons, List.forall_mem_cons, same head, ih]

/-- A table is made alike of entries that are alike. -/
theorem accept_table_alike {entry : Schema α} {node other : Node}
    (found : Option.Rel Alike node.members? other.members?)
    (same : ∀ {node other : Node}, node.Near other → entry.accept node = entry.accept other) :
    (Schema.table entry).accept node = (Schema.table entry).accept other := by
  refine Option.ext fun table => ?_
  rw [accept_table, accept_table]
  generalize node.members? = left, other.members? = right at found
  cases found with
  | none => exact .rfl
  | @some entries others alike =>
    have accepted : (∀ held ∈ entries, ∃ value, entry.accept held.2 = some value) ↔
        ∀ held ∈ others, ∃ value, entry.accept held.2 = some value := by
      have under (name : String) :
          (∀ node ∈ named name entries, ∃ value, entry.accept node = some value) ↔
            ∀ node ∈ named name others, ∃ value, entry.accept node = some value :=
        forall_mem_near_iff (alike name) fun near => by rw [same near]
      simp only [mem_named] at under
      exact ⟨fun each held member => (under held.1).mp (fun node member => each _ member) _ member,
        fun each held member => (under held.1).mpr (fun node member => each _ member) _ member⟩
    have last (key : String) : Option.Rel (fun last value => entry.accept last = some value)
          (named key entries).getLast? (table.get? key) ↔
        Option.Rel (fun last value => entry.accept last = some value)
          (named key others).getLast? (table.get? key) := by
      have near := rel_getLast? (alike key)
      generalize (named key entries).getLast? = node, (named key others).getLast? = other,
        table.get? key = value at near
      cases near with
      | none => exact .rfl
      | some near =>
        refine ⟨fun made => ?_, fun made => ?_⟩ <;> cases made with
        | some accepted => exact .some (by simpa [same near] using accepted)
    simp only [Option.some.injEq, exists_eq_left', accepted, last]

end Parts

mutual
/-- What a schema makes of a node stays the same when members change places. -/
theorem Schema.accept_swaps : {α : Type} → (schema : Schema α) → {node other : Node} →
    node.Swaps other → schema.accept node = schema.accept other
  | _, .text, _, _, swaps => by cases swaps <;> rfl
  | _, .path, _, _, swaps => by cases swaps <;> rfl
  | _, .flag, _, _, swaps => by cases swaps <;> rfl
  | _, .integer, _, _, swaps => by cases swaps <;> rfl
  | _, .natural, _, _, swaps => by cases swaps <;> rfl
  | _, .real, _, _, swaps => by cases swaps <;> rfl
  | _, .instant, _, _, swaps => by cases swaps <;> rfl
  | _, .choice kind, _, _, swaps => by cases swaps <;> rfl
  | _, .optional content, node, other, swaps => by
    have inner := content.accept_swaps swaps
    have null : node.isNull = other.isNull := by cases swaps <;> rfl
    rw [Schema.accept, Schema.accept, inner, null]
  | _, .list item, _, _, swaps => by
    cases swaps with
    | here before after different => rfl
    | item before after swaps =>
      have inner := item.accept_swaps swaps
      simp only [Schema.accept, Node.items?, Option.bind_some, List.mapM_append, List.mapM_cons,
        inner]
    | member before after key swaps => rfl
  | _, .table entry, node, other, swaps => by
    refine accept_table_alike swaps.members? fun near => ?_
    cases near with
    | refl => rfl
    | single swaps => exact entry.accept_swaps swaps
  | _, .record label members view, node, other, swaps => by
    have inner {entries others} (alike : Alike entries others) := members.accept_alike alike
    rw [Schema.accept, Schema.accept]
    have found := swaps.members?
    generalize node.members? = entries, other.members? = others at found
    cases found with
    | none => rfl
    | some alike => rw [Option.bind_some, Option.bind_some, inner alike]

theorem Members.accept_alike : {β σ : Type} → (members : Members β σ) →
    {entries others : List (String × Node)} → Alike entries others →
    members.accept entries = members.accept others
  | _, _, .nil, _, _, _ => rfl
  | _, _, .cons name presence content rest, entries, others, alike => by
    have near {node other : Node} (near : node.Near other) :
        content.accept node = content.accept other := by
      cases near with
      | refl => rfl
      | single swaps => exact content.accept_swaps swaps
    have later := rest.accept_alike alike
    rw [Members.accept, Members.accept, later, single?_near _ (alike name) near]
end

mutual
/-- A node keeps its shape when members change places. -/
theorem Schema.shaped_swaps : {α : Type} → (schema : Schema α) → {node other : Node} →
    node.Swaps other → schema.Shaped node → schema.Shaped other
  | _, .text, _, _, _, _ => trivial
  | _, .path, _, _, _, _ => trivial
  | _, .flag, _, _, _, _ => trivial
  | _, .integer, _, _, _, _ => trivial
  | _, .natural, _, _, _, _ => trivial
  | _, .real, _, _, _, _ => trivial
  | _, .instant, _, _, _, _ => trivial
  | _, .choice kind, _, _, swaps, shaped => by
    intro members same
    cases swaps with
    | here before after different => exact shaped _ rfl
    | item before after swaps => cases same
    | member before after key swaps => exact shaped _ rfl
  | _, .optional content, _, _, swaps, shaped => content.shaped_swaps swaps shaped
  | _, .list item, _, _, swaps, shaped => by
    intro items same
    cases swaps with
    | here before after different => cases same
    | @item before after inner other swaps =>
      cases same
      have each := shaped _ rfl
      intro node member
      rcases List.mem_append.mp member with member | member
      · exact each node (List.mem_append_left _ member)
      rcases List.mem_cons.mp member with rfl | member
      · exact item.shaped_swaps swaps
          (each inner (List.mem_append_right _ List.mem_cons_self))
      · exact each node (List.mem_append_right _ (List.mem_cons_of_mem _ member))
    | member before after key swaps => cases same
  | _, .table entry, _, _, swaps, shaped => by
    intro name inner holds
    obtain ⟨outer, holds, near⟩ := swaps.holds holds
    cases near with
    | refl => exact shaped name inner holds
    | single swaps => exact entry.shaped_swaps swaps (shaped name outer holds)
  | _, .record label members view, _, _, swaps, shaped => by
    obtain ⟨plain, each⟩ := shaped
    refine ⟨fun items same => ?_, fun name inner holds => ?_⟩
    · cases swaps with
      | here before after different => cases same
      | item before after swaps => exact plain _ rfl
      | member before after key swaps => cases same
    · obtain ⟨outer, holds, near⟩ := swaps.holds holds
      obtain ⟨known, shaped⟩ := each name outer holds
      cases near with
      | refl => exact ⟨known, shaped⟩
      | single swaps => exact ⟨known, members.shaped_swaps swaps shaped⟩

theorem Members.shaped_swaps : {β σ : Type} → (members : Members β σ) → {name : String} →
    {node other : Node} → node.Swaps other → members.Shaped name node → members.Shaped name other
  | _, _, .nil, _, _, _, _, _ => trivial
  | _, _, .cons _ _ content rest, _, _, _, swaps, shaped => by
    obtain ⟨own, others⟩ := shaped
    exact ⟨fun same => content.shaped_swaps swaps (own same), rest.shaped_swaps swaps others⟩
end

/-- However often members of different names have changed places, a schema makes the same of a
node. -/
theorem Schema.accept_rearranged {α : Type} {schema : Schema α} {node other : Node}
    (rearranged : node.Rearranged other) (shaped : schema.Shaped node) :
    schema.Shaped other ∧ schema.accept other = schema.accept node := by
  induction rearranged with
  | refl => exact ⟨shaped, rfl⟩
  | tail before swaps ih =>
    obtain ⟨shaped, same⟩ := ih
    exact ⟨schema.shaped_swaps swaps shaped, (schema.accept_swaps swaps).symm.trans same⟩

end MonitorFeed
