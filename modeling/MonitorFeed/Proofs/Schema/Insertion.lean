import MonitorFeed.Proofs.Schema.Verdict
import Mathlib.Logic.Relation

/-!
Strange members. Any object that stands for a record may hold members of names that the record does
not have, wherever they stand in it and whatever their values are: the verdict of the reader stays
the same.
-/

namespace MonitorFeed

open Json

namespace Json.Node

/-- An object has one member more, of a name of a kind. -/
def GainsMember (kind : String → Prop) (node other : Node) : Prop :=
  ∃ before key name value after, Piece.string? key = some name ∧ kind name ∧
    node = .object (before ++ after) ∧ other = .object (before ++ (key, value) :: after)

/-- The value of one member of an object changes in a way that may depend on the key. -/
def ChangesMember (change : List Piece → Node → Node → Prop) (node other : Node) : Prop :=
  ∃ before key inner changed after, change key inner changed ∧
    node = .object (before ++ (key, inner) :: after) ∧
      other = .object (before ++ (key, changed) :: after)

/-- One item of a list changes in a way that may depend on how many stand before it. -/
def ChangesItem (change : Nat → Node → Node → Prop) (node other : Node) : Prop :=
  ∃ before inner changed after, change before.length inner changed ∧
    node = .list (before ++ inner :: after) ∧ other = .list (before ++ changed :: after)

end Json.Node

mutual
/-- One of the objects that stand for a record has a strange member more. It stands anywhere in the
object, and the object at any depth: below a member of a record or in its place in a list of the
values, as an item of a list or as an entry of a table. -/
def Schema.Gains : {α : Type} → Schema α → Node → Node → Prop
  | _, .optional content, node, other => content.Gains node other
  | _, .list item, node, other =>
    node.ChangesItem (fun _ inner changed => item.Gains inner changed) other
  | _, .table entry, node, other =>
    node.ChangesMember (fun _ inner changed => entry.Gains inner changed) other
  | _, .record _ members _, node, other =>
    node.GainsMember (· ∉ members.names) other ∨
    node.ChangesMember (fun key inner changed =>
      ∃ name, Piece.string? key = some name ∧ members.GainsUnder name inner changed) other ∨
    node.ChangesItem (fun index inner changed => members.GainsAt index inner changed) other
  | _, _, _, _ => False

/-- A node gains a strange member as the value of the member of a name. -/
def Members.GainsUnder : {β σ : Type} → Members β σ → String → Node → Node → Prop
  | _, _, .nil, _, _, _ => False
  | _, _, .cons name _ content rest, given, node, other =>
    given = name ∧ content.Gains node other ∨ given ≠ name ∧ rest.GainsUnder given node other

/-- A node gains a strange member as the value of the member at a position. -/
def Members.GainsAt : {β σ : Type} → Members β σ → Nat → Node → Node → Prop
  | _, _, .nil, _, _, _ => False
  | _, _, .cons _ _ content _, 0, node, other => content.Gains node other
  | _, _, .cons _ _ _ rest, index + 1, node, other => rest.GainsAt index node other
end

/-- Strange members have been added, any number of times. -/
def Schema.Interspersed {α : Type} (schema : Schema α) : Node → Node → Prop :=
  Relation.ReflTransGen schema.Gains

/-- What holds a record is no null, before and after. -/
theorem Schema.isNull_gains : {α : Type} → (schema : Schema α) → {node other : Node} →
    schema.Gains node other → node.isNull = false ∧ other.isNull = false
  | _, .optional content, _, _, gains => content.isNull_gains gains
  | _, .list _, _, _, gains => by
    obtain ⟨_, _, _, _, -, rfl, rfl⟩ := gains
    exact ⟨rfl, rfl⟩
  | _, .table _, _, _, gains => by
    obtain ⟨_, _, _, _, _, -, rfl, rfl⟩ := gains
    exact ⟨rfl, rfl⟩
  | _, .record _ _ _, _, _, gains => by
    rcases gains with ⟨_, _, _, _, _, -, -, rfl, rfl⟩ | ⟨_, _, _, _, _, -, rfl, rfl⟩ |
      ⟨_, _, _, _, -, rfl, rfl⟩ <;> exact ⟨rfl, rfl⟩

section Parts

variable {α β σ : Type} {f : α → Option β} {step : σ → α → Option σ}

theorem mapM_append_cons_congr (before after : List α) {one other : α} (same : f other = f one) :
    (before ++ other :: after).mapM f = (before ++ one :: after).mapM f := by
  rw [List.mapM_append, List.mapM_append, List.mapM_cons, List.mapM_cons, same]

theorem foldlM_append_cons_congr (before after : List α) {one other : α}
    (same : ∀ state, step state other = step state one) (state : σ) :
    (before ++ other :: after).foldlM step state = (before ++ one :: after).foldlM step state := by
  simp only [List.foldlM_append, List.foldlM_cons, same]

theorem foldlM_append_cons_of_idle (before after : List α) {one : α}
    (idle : ∀ state, step state one = some state) (state : σ) :
    (before ++ one :: after).foldlM step state = (before ++ after).foldlM step state := by
  simp only [List.foldlM_append, List.foldlM_cons, idle]
  rfl

/-- The members of an object, one of them singled out. -/
theorem decodeMembers_append_cons (before after : List (List Piece × Node)) (key : List Piece)
    (node : Node) :
    decodeMembers (before ++ (key, node) :: after) =
      (decodeMembers before).bind fun first => (Piece.string? key).bind fun name =>
        (decodeMembers after).map fun last => first ++ (name, node) :: last := by
  rw [decodeMembers_append, decodeMembers_cons]
  cases decodeMembers before with
  | none => rfl
  | some first =>
    cases Piece.string? key with
    | none => rfl
    | some name => cases decodeMembers after <;> rfl

end Parts

namespace Members

variable {β σ : Type}

/-- An entry of a strange name is put nowhere. -/
theorem put_of_not_mem : {β σ : Type} → (members : Members β σ) → {name : String} →
    name ∉ members.names → (node : Node) → (slots : σ) →
    members.put slots (name, node) = some slots
  | _, _, .nil, _, _, _, () => rfl
  | _, _, .cons own _ _ rest, name, strange, node, (slot, slots) => by
    obtain ⟨different, strange⟩ := not_or.mp (List.mem_cons.not.mp strange)
    rw [put, if_neg different, rest.put_of_not_mem strange node slots]
    rfl

end Members

section Records

variable {α β σ : Type} {label : String} {members : Members β σ} {view : View α β}
  {node other : Node}

/-- A strange member does not change what is made of an object. -/
theorem verdict_gainsMember (gains : node.GainsMember (· ∉ members.names) other) :
    (Schema.record label members view).verdict other =
      (Schema.record label members view).verdict node := by
  obtain ⟨before, key, name, value, after, named, strange, rfl, rfl⟩ := gains
  rw [Schema.verdict, Schema.verdict, decodeMembers_append_cons, decodeMembers_append, named]
  cases decodeMembers before with
  | none => rfl
  | some first =>
    cases decodeMembers after with
    | none => rfl
    | some last =>
      simp only [Option.bind_some, Option.map_some]
      rw [foldlM_append_cons_of_idle first last (members.put_of_not_mem strange value)]

/-- What is put into the same place makes the same of an object. -/
theorem verdict_changesMember {change : List Piece → Node → Node → Prop}
    (same : ∀ key name inner changed, Piece.string? key = some name → change key inner changed →
      ∀ slots, members.put slots (name, changed) = members.put slots (name, inner))
    (changes : node.ChangesMember change other) :
    (Schema.record label members view).verdict other =
      (Schema.record label members view).verdict node := by
  obtain ⟨before, key, inner, changed, after, change, rfl, rfl⟩ := changes
  simp only [Schema.verdict, decodeMembers_append_cons]
  cases decodeMembers before with
  | none => rfl
  | some first =>
    cases named : Piece.string? key with
    | none => rfl
    | some name =>
      cases decodeMembers after with
      | none => rfl
      | some last =>
        simp only [Option.bind_some, Option.map_some]
        rw [foldlM_append_cons_congr first last (same key name inner changed named change)]

end Records

mutual
/-- A strange member changes the verdict on no node. -/
theorem Schema.verdict_gains : {α : Type} → (schema : Schema α) → {node other : Node} →
    schema.Gains node other → schema.verdict other = schema.verdict node
  | _, .optional content, node, other, gains => by
    obtain ⟨solid, still⟩ := content.isNull_gains gains
    rw [Schema.verdict, Schema.verdict, solid, still, content.verdict_gains gains]
  | _, .list item, _, _, gains => by
    obtain ⟨before, inner, changed, after, gains, rfl, rfl⟩ := gains
    have same := item.verdict_gains gains
    simp only [Schema.verdict, Node.items?, Option.bind_some]
    exact mapM_append_cons_congr before after same
  | _, .table entry, _, _, gains => by
    obtain ⟨before, key, inner, changed, after, gains, rfl, rfl⟩ := gains
    have same := entry.verdict_gains gains
    simp only [Schema.verdict, Node.members?, decodeMembers_append_cons]
    cases decodeMembers before with
    | none => rfl
    | some first =>
      cases Piece.string? key with
      | none => rfl
      | some name =>
        cases decodeMembers after with
        | none => rfl
        | some last =>
          simp only [Option.bind_some, Option.map_some]
          refine congrArg _ (mapM_append_cons_congr first last ?_)
          rw [same]
  | _, .record label members view, _, _, gains => by
    rcases gains with gains | gains | gains
    · exact verdict_gainsMember gains
    · refine verdict_changesMember (fun key name inner changed named gains => ?_) gains
      obtain ⟨given, again, gains⟩ := gains
      obtain rfl := Option.some.inj (again.symm.trans named)
      exact members.put_gains given gains
    · obtain ⟨before, inner, changed, after, gains, rfl, rfl⟩ := gains
      rw [Schema.verdict, Schema.verdict, members.row_gains before gains after]

theorem Members.put_gains : {β σ : Type} → (members : Members β σ) → (name : String) →
    {node other : Node} → members.GainsUnder name node other → (slots : σ) →
    members.put slots (name, other) = members.put slots (name, node)
  | _, _, .nil, _, _, _, gains, _ => gains.elim
  | _, _, .cons own _ content rest, name, node, other, gains, (slot, slots) => by
    rcases gains with ⟨rfl, gains⟩ | ⟨different, gains⟩
    · simp only [Members.put, ↓reduceIte, content.verdict_gains gains]
    · simp only [Members.put, if_neg different, rest.put_gains name gains slots]

theorem Members.row_gains : {β σ : Type} → (members : Members β σ) → (before : List Node) →
    {node other : Node} → members.GainsAt before.length node other → (after : List Node) →
    members.row (before ++ other :: after) = members.row (before ++ node :: after)
  | _, _, .nil, _, _, _, gains, _ => gains.elim
  | _, _, .cons _ _ content rest, [], _, _, gains, after => by
    simp only [List.nil_append, Members.row, content.verdict_gains gains]
  | _, _, .cons _ _ content rest, item :: before, _, _, gains, after => by
    simp only [List.cons_append, Members.row, rest.row_gains before gains after]
end

theorem Schema.verdict_interspersed {α : Type} (schema : Schema α) {node other : Node}
    (added : schema.Interspersed node other) : schema.verdict other = schema.verdict node := by
  induction added with
  | refl => rfl
  | tail _ gains ih => exact (schema.verdict_gains gains).trans ih

/-- Texts are read alike if one has strange members more than the other. -/
theorem Schema.toOption_read_interspersed {α : Type} (schema : Schema α) {node other : Node}
    (added : schema.Interspersed node other) {text padded : String}
    (spelled : node.IsDocument text) (again : other.IsDocument padded) :
    (schema.read padded).toOption = (schema.read text).toOption := by
  rw [schema.toOption_read_eq_verdict spelled, schema.toOption_read_eq_verdict again,
    schema.verdict_interspersed added]

end MonitorFeed
