import MonitorFeed.Proofs.Json5.Record
import Mathlib.Logic.Relation

/-!
Members that are written out. Where the parts of a record agree on what an absence means, a document
says the same with and without the members that say no more than it; and what a document does say is
what its reader takes from it.
-/

namespace MonitorFeed

open Json5

/-- The member of a record with its name, its position, and what it is of the values of the record. -/
inductive Members.At : {β σ α : Type} → Members β σ → String → Nat → Presence α → Schema α →
    (β → α) → Prop where
  | head {α β σ : Type} {name : String} {presence : Presence α} {content : Schema α}
      {rest : Members β σ} : (Members.cons name presence content rest).At name 0 presence content (·.1)
  | tail {α γ β σ : Type} {given name : String} {index : Nat} {presence : Presence α}
      {content : Schema α} {get : β → α} {first : Presence γ} {other : Schema γ} {rest : Members β σ}
      (different : given ≠ name) (found : rest.At given index presence content get) :
      (Members.cons name first other rest).At given (index + 1) presence content fun values =>
        get values.2

/-- The document of a type that says nothing: an object without members, or a null. -/
def Schema.bare? : {α : Type} → Schema α → Option Node
  | _, .record _ _ _ => some (.object [])
  | _, .optional _ => some .null
  | _, _ => none

/-- A node says of a member what its absence means. It is the one that says nothing, or spells the
value out. -/
def Presence.Restates {α : Type} (presence : Presence α) (content : Schema α) (node : Node) : Prop :=
  ∃ value, presence.absent? content = some value ∧
    (content.bare? = some node ∨ content.ofNode node = .ok value)

/-- One missing member is written out: a member of an object, wherever it is put, or the next item of
a list in its place; or the like is done to what stands for a member. -/
inductive Schema.WritesOut : {α : Type} → Schema α → Node → Node → Prop where
  | member {α β σ γ : Type} {label : String} {members : Members β σ} {view : View α β}
      {name : String} {index : Nat} {presence : Presence γ} {content : Schema γ} {get : β → γ}
      {before after : List (List Piece × Node)} {key : List Piece} {written : Node}
      (found : members.At name index presence content get) (named : textOf key = .ok name)
      (missing : ∀ entry ∈ before ++ after, textOf entry.1 ≠ .ok name)
      (restated : presence.Restates content written) :
      (Schema.record label members view).WritesOut (.object (before ++ after))
        (.object (before ++ (key, written) :: after))
  | within {α β σ γ : Type} {label : String} {members : Members β σ} {view : View α β}
      {name : String} {index : Nat} {presence : Presence γ} {content : Schema γ} {get : β → γ}
      {before after : List (List Piece × Node)} {key : List Piece} {node other : Node}
      (found : members.At name index presence content get) (named : textOf key = .ok name)
      (inner : content.WritesOut node other) :
      (Schema.record label members view).WritesOut (.object (before ++ (key, node) :: after))
        (.object (before ++ (key, other) :: after))
  | item {α β σ γ : Type} {label : String} {members : Members β σ} {view : View α β}
      {name : String} {presence : Presence γ} {content : Schema γ} {get : β → γ}
      {items : List Node} {written : Node}
      (found : members.At name items.length presence content get)
      (restated : presence.Restates content written) :
      (Schema.record label members view).WritesOut (.list items) (.list (items ++ [written]))
  | withinItem {α β σ γ : Type} {label : String} {members : Members β σ} {view : View α β}
      {name : String} {presence : Presence γ} {content : Schema γ} {get : β → γ}
      {before after : List Node} {node other : Node}
      (found : members.At name before.length presence content get)
      (inner : content.WritesOut node other) :
      (Schema.record label members view).WritesOut (.list (before ++ node :: after))
        (.list (before ++ other :: after))

/-- Any number of missing members are written out, one after the other. -/
def Schema.SpellsOut {α : Type} (schema : Schema α) : Node → Node → Prop :=
  Relation.ReflTransGen schema.WritesOut

mutual
/-- What says nothing is read as what its absence means, for every member at every depth. -/
def Schema.Coherent : {α : Type} → Schema α → Prop
  | _, .record _ members _ => members.Coherent
  | _, _ => True

def Members.Coherent : {β σ : Type} → Members β σ → Prop
  | _, _, .nil => True
  | _, _, .cons _ presence content rest =>
    (∀ value bare, presence.absent? content = some value → content.bare? = some bare →
      content.ofNode bare = .ok value) ∧ content.Coherent ∧ rest.Coherent
end

/-- A type that always says something leaves nothing to agree on. -/
theorem Members.Coherent.of_bare_eq_none {α β σ : Type} {name : String} {presence : Presence α}
    {content : Schema α} {rest : Members β σ} (never : content.bare? = none)
    (inner : content.Coherent) (later : rest.Coherent) :
    (Members.cons name presence content rest).Coherent := by
  refine ⟨fun value bare _ silent => ?_, inner, later⟩
  rw [never] at silent
  cases silent

/-- A part of a document, with the type that it is read as and its place in the value of the whole. -/
inductive Schema.Reaches : {α γ : Type} → Schema α → Node → Schema γ → Node → (α → γ) → Prop where
  | here {α : Type} {schema : Schema α} {node : Node} : schema.Reaches node schema node id
  | member {α β σ γ δ : Type} {label : String} {members : Members β σ} {view : View α β}
      {name : String} {index : Nat} {presence : Presence γ} {content : Schema γ} {get : β → γ}
      {entries : List (List Piece × Node)} {key : List Piece} {node part : Node}
      {target : Schema δ} {further : γ → δ}
      (found : members.At name index presence content get) (named : textOf key = .ok name)
      (held : (key, node) ∈ entries) (inner : content.Reaches node target part further) :
      (Schema.record label members view).Reaches (.object entries) target part fun value =>
        further (get (view.split value))
  | item {α β σ γ δ : Type} {label : String} {members : Members β σ} {view : View α β}
      {name : String} {index : Nat} {presence : Presence γ} {content : Schema γ} {get : β → γ}
      {items : List Node} {node part : Node} {target : Schema δ} {further : γ → δ}
      (found : members.At name index presence content get) (held : items[index]? = some node)
      (inner : content.Reaches node target part further) :
      (Schema.record label members view).Reaches (.list items) target part fun value =>
        further (get (view.split value))

namespace Members

variable {α β σ : Type} {members : Members β σ} {name : String} {index : Nat}
  {presence : Presence α} {content : Schema α} {get : β → α}

theorem Coherent.bare_of_at (coherent : members.Coherent)
    (found : members.At name index presence content get) {value : α} {bare : Node}
    (absent : presence.absent? content = some value) (silent : content.bare? = some bare) :
    content.ofNode bare = .ok value := by
  induction found with
  | head => exact coherent.1 value bare absent silent
  | tail _ _ ih => exact ih coherent.2.2 absent silent

theorem Coherent.content_of_at (coherent : members.Coherent)
    (found : members.At name index presence content get) : content.Coherent := by
  induction found with
  | head => exact coherent.2.1
  | tail _ _ ih => exact ih coherent.2.2

/-- What restates an absence is read as what it means. -/
theorem Coherent.ofNode_of_restates (coherent : members.Coherent)
    (found : members.At name index presence content get) {node : Node}
    (restated : presence.Restates content node) :
    ∃ value, presence.absent? content = some value ∧ content.ofNode node = .ok value := by
  obtain ⟨value, absent, bare | read⟩ := restated
  · exact ⟨value, absent, coherent.bare_of_at found absent bare⟩
  · exact ⟨value, absent, read⟩

section Objects

variable {key : List Piece} {node other : Node} {before after entries : List (List Piece × Node)}

/-- A key of one name spells no other. -/
private theorem not_spells {given : String} (different : given ≠ name)
    (named : textOf key = .ok given) : ¬ spells name key = true := by
  rw [spells_iff, named]
  exact fun same => different (Except.ok.inj same)

/-- A member that is read as what its absence means makes no difference. -/
theorem reading_insert (found : members.At name index presence content get)
    (named : textOf key = .ok name) {value : α} (absent : presence.absent? content = some value)
    (read : content.ofNode node = .ok value)
    (missing : ∀ entry ∈ before ++ after, textOf entry.1 ≠ .ok name) :
    members.reading (before ++ (key, node) :: after) = members.reading (before ++ after) := by
  induction found generalizing before after with
  | @head _ _ _ name =>
    have same := spells_iff.mpr named
    have alone : valuesOf name (before ++ (key, node) :: after) = [node] := by
      have none : valuesOf name before = [] ∧ valuesOf name after = [] := by
        rw [← List.append_eq_nil_iff, ← valuesOf_append]
        exact valuesOf_eq_nil missing
      rw [valuesOf_append, valuesOf_cons_self same, none.1, none.2]
      rfl
    rw [reading_cons, reading_cons, alone, valuesOf_eq_nil missing, entriesBut_append,
      entriesBut_cons_self same, ← entriesBut_append]
    simp only [Schema.member, read, absent, toOption_ok]
  | tail different _ ih =>
    have other := not_spells different named
    rw [reading_cons, reading_cons, valuesOf_append, valuesOf_cons_of_not other, ← valuesOf_append,
      entriesBut_append, entriesBut_cons_of_not other, ih named absent read, ← entriesBut_append]
    rw [← entriesBut_append]
    exact fun entry held => missing entry (mem_entriesBut.mp held).1

/-- Values that are read alike make the same of a record. -/
theorem reading_change (found : members.At name index presence content get)
    (named : textOf key = .ok name)
    (alike : (content.ofNode other).toOption = (content.ofNode node).toOption) :
    members.reading (before ++ (key, other) :: after) =
      members.reading (before ++ (key, node) :: after) := by
  induction found generalizing before after with
  | @head _ _ _ name =>
    have same := spells_iff.mpr named
    rw [reading_cons, reading_cons, entriesBut_append, entriesBut_append, entriesBut_cons_self same,
      entriesBut_cons_self same, valuesOf_append, valuesOf_append, valuesOf_cons_self same,
      valuesOf_cons_self same]
    match valuesOf name before, valuesOf name after with
    | [], [] => simp only [List.nil_append, Schema.member, alike]
    | [], _ :: _ => rfl
    | [_], _ => rfl
    | _ :: _ :: _, _ => rfl
  | tail different _ ih =>
    have strange := not_spells different named
    rw [reading_cons, reading_cons, valuesOf_append, valuesOf_append, valuesOf_cons_of_not strange,
      valuesOf_cons_of_not strange, entriesBut_append, entriesBut_append,
      entriesBut_cons_of_not strange, entriesBut_cons_of_not strange, ih named alike]

/-- A member is what the entry of its name is read as. -/
theorem ofNode_of_reading (found : members.At name index presence content get)
    (named : textOf key = .ok name) (held : (key, node) ∈ entries) {values : β}
    (read : members.reading entries = some values) :
    content.ofNode node = .ok (get values) := by
  induction found generalizing entries with
  | @head _ _ _ name =>
    rw [reading_cons, Option.bind_eq_some_iff] at read
    obtain ⟨value, read, rest⟩ := read
    obtain ⟨_, -, rfl⟩ := Option.map_eq_some_iff.mp rest
    have under : node ∈ valuesOf name entries :=
      List.mem_map_of_mem (List.mem_filter.mpr ⟨held, spells_iff.mpr named⟩)
    match listed : valuesOf name entries with
    | [] => rw [listed] at under; cases under
    | [only] =>
      rw [listed, List.mem_singleton] at under
      rw [listed] at read
      exact under ▸ toOption_eq_some_iff.mp read
    | _ :: _ :: _ => rw [listed] at read; cases read
  | tail different _ ih =>
    rw [reading_cons, Option.bind_eq_some_iff] at read
    obtain ⟨_, -, rest⟩ := read
    obtain ⟨_, read, rfl⟩ := Option.map_eq_some_iff.mp rest
    exact ih named (mem_entriesBut.mpr ⟨held, not_spells different named⟩) read

end Objects

section Rows

variable {wanted : String} {count : Nat} {node other : Node} {before after items : List Node}

/-- The next item of a list makes no difference if it is read as what its absence means. -/
theorem ofRow_append (found : members.At name items.length presence content get) {value : α}
    (absent : presence.absent? content = some value) (read : content.ofNode node = .ok value) :
    (members.ofRow wanted count (items ++ [node])).toOption =
      (members.ofRow wanted count items).toOption := by
  generalize length : items.length = index at found
  induction found generalizing items count with
  | head =>
    obtain rfl := List.eq_nil_of_length_eq_zero length
    rw [List.nil_append, toOption_ofRow_cons, toOption_ofRow_nil, read, absent]
    rfl
  | tail _ _ ih =>
    obtain ⟨item, items, rfl⟩ := List.exists_cons_of_length_eq_add_one length
    rw [List.cons_append, toOption_ofRow_cons, toOption_ofRow_cons,
      ih absent read (Nat.succ.inj length)]

theorem ofRow_change (found : members.At name before.length presence content get)
    (alike : (content.ofNode other).toOption = (content.ofNode node).toOption) :
    (members.ofRow wanted count (before ++ other :: after)).toOption =
      (members.ofRow wanted count (before ++ node :: after)).toOption := by
  generalize length : before.length = index at found
  induction found generalizing before count with
  | head =>
    obtain rfl := List.eq_nil_of_length_eq_zero length
    rw [List.nil_append, List.nil_append, toOption_ofRow_cons, toOption_ofRow_cons, alike]
  | tail _ _ ih =>
    obtain ⟨item, before, rfl⟩ := List.exists_cons_of_length_eq_add_one length
    rw [List.cons_append, List.cons_append, toOption_ofRow_cons, toOption_ofRow_cons,
      ih alike (Nat.succ.inj length)]

theorem ofNode_of_ofRow (found : members.At name index presence content get)
    (held : items[index]? = some node) {values : β}
    (read : (members.ofRow wanted count items).toOption = some values) :
    content.ofNode node = .ok (get values) := by
  induction found generalizing items count with
  | head =>
    cases items with
    | nil => cases held
    | cons item items =>
      obtain rfl : item = node := Option.some.inj held
      rw [toOption_ofRow_cons, Option.bind_eq_some_iff] at read
      obtain ⟨value, read, rest⟩ := read
      obtain ⟨_, -, rfl⟩ := Option.map_eq_some_iff.mp rest
      exact toOption_eq_some_iff.mp read
  | tail _ _ ih =>
    cases items with
    | nil => cases held
    | cons item items =>
      rw [toOption_ofRow_cons, Option.bind_eq_some_iff] at read
      obtain ⟨_, -, rest⟩ := read
      obtain ⟨_, read, rfl⟩ := Option.map_eq_some_iff.mp rest
      exact ih held read

end Rows

end Members

namespace Schema

variable {α γ : Type} {schema : Schema α} {node other : Node}

/-- A missing member that is written out does not change what a document is read as. -/
theorem WritesOut.toOption_ofNode (step : schema.WritesOut node other)
    (coherent : schema.Coherent) :
    (schema.ofNode other).toOption = (schema.ofNode node).toOption := by
  induction step with
  | member found named missing restated =>
    obtain ⟨value, absent, read⟩ := Members.Coherent.ofNode_of_restates coherent found restated
    rw [toOption_ofNode_object, toOption_ofNode_object,
      Members.reading_insert found named absent read missing]
  | within found named _ ih =>
    have alike := ih (Members.Coherent.content_of_at coherent found)
    rw [toOption_ofNode_object, toOption_ofNode_object, Members.reading_change found named alike]
  | item found restated =>
    obtain ⟨value, absent, read⟩ := Members.Coherent.ofNode_of_restates coherent found restated
    rw [toOption_ofNode_list, toOption_ofNode_list, Members.ofRow_append found absent read]
  | withinItem found _ ih =>
    have alike := ih (Members.Coherent.content_of_at coherent found)
    rw [toOption_ofNode_list, toOption_ofNode_list, Members.ofRow_change found alike]

theorem SpellsOut.toOption_ofNode (steps : schema.SpellsOut node other)
    (coherent : schema.Coherent) :
    (schema.ofNode other).toOption = (schema.ofNode node).toOption := by
  induction steps with
  | refl => rfl
  | tail _ step ih => exact (step.toOption_ofNode coherent).trans ih

/-- A missing record may be written without members as well as with all of them. -/
theorem WritesOut.bare_and_full {α β σ γ : Type} {label : String} {members : Members β σ}
    {view : View α β} {name : String} {index : Nat} {presence : Presence γ} {content : Schema γ}
    {get : β → γ} {before after : List (List Piece × Node)} {key : List Piece} {full : Node}
    {value : γ} (found : members.At name index presence content get)
    (absent : presence.absent? content = some value) (bare : content.bare? = some (.object []))
    (read : content.ofNode full = .ok value) (named : textOf key = .ok name)
    (missing : ∀ entry ∈ before ++ after, textOf entry.1 ≠ .ok name) :
    (Schema.record label members view).WritesOut (.object (before ++ after))
        (.object (before ++ (key, .object []) :: after)) ∧
      (Schema.record label members view).WritesOut (.object (before ++ after))
        (.object (before ++ (key, full) :: after)) :=
  ⟨.member found named missing ⟨value, absent, .inl bare⟩,
    .member found named missing ⟨value, absent, .inr read⟩⟩

/-- What a document says is what stands at its place in the value. -/
theorem Reaches.ofNode {target : Schema γ} {part : Node} {get : α → γ}
    (reached : schema.Reaches node target part get) {value : α}
    (read : schema.ofNode node = .ok value) : target.ofNode part = .ok (get value) := by
  induction reached with
  | here => exact read
  | @member _ _ _ _ _ _ _ view _ _ _ _ _ _ _ _ _ _ _ found named held _ ih =>
    rw [← toOption_eq_some_iff, toOption_ofNode_object, Option.map_eq_some_iff] at read
    obtain ⟨values, read, rfl⟩ := read
    have kept := ih (Members.ofNode_of_reading found named held read)
    simpa only [view.split_build] using kept
  | @item _ _ _ _ _ _ _ view _ _ _ _ _ _ _ _ _ _ found held _ ih =>
    rw [← toOption_eq_some_iff, toOption_ofNode_list, Option.map_eq_some_iff] at read
    obtain ⟨values, read, rfl⟩ := read
    have kept := ih (Members.ofNode_of_ofRow found held read)
    simpa only [view.split_build] using kept

end Schema

end MonitorFeed
