import MonitorFeed.Proofs.Json.Syntax
import MonitorFeed.Proofs.Schema.Written
import Mathlib.Data.List.Forall2

/-!
What a schema accepts. A document of a schema is accepted part by part, whatever the order of its
members is, and the reader of the schema accepts just that.
-/

namespace MonitorFeed

namespace Json

namespace Node

def isNull : Node → Bool
  | .null => true
  | _ => false

def flag? : Node → Option Bool
  | .flag value => some value
  | _ => none

def number? : Node → Option Number
  | .number token => token.number?
  | _ => none

def string? : Node → Option String
  | .string pieces => Piece.string? pieces
  | _ => none

def items? : Node → Option (List Node)
  | .list items => some items
  | _ => none

/-- The members of an object under their names, repeated ones included. -/
def members? : Node → Option (List (String × Node))
  | .object members => decodeMembers members
  | _ => none

/-- An object holds a node under a name. -/
def Holds (node : Node) (name : String) (inner : Node) : Prop :=
  ∃ members key, node = .object members ∧ (key, inner) ∈ members ∧ Piece.string? key = some name

end Node

/-- The nodes under a name. -/
def named (name : String) (entries : List (String × Node)) : List Node :=
  (entries.filter (·.1 = name)).map (·.2)

/-- What comes of the nodes under a name: of a single one what is made of it, of none what their
absence means. There may not be several. -/
def single? {α : Type} (absent : Option α) (accept : Node → Option α) : List Node → Option α
  | [] => absent
  | [node] => accept node
  | _ => none

namespace Number

def integer? : Number → Option Int64
  | .natural n => if n < 1 <<< 63 then some (Int64.ofInt n) else none
  | .negative magnitude => some (Int64.ofInt (-(magnitude : Int)))
  | .real _ => none

def natural? : Number → Option UInt64
  | .natural n => some (UInt64.ofNat n)
  | _ => none

def instant? : Number → Option Timestamp
  | .natural n => (Timestamp.ofInteger n).toOption
  | .negative magnitude => (Timestamp.ofInteger (-(magnitude : Int))).toOption
  | .real _ => none

end Number

/-- An instant is an integer, or a string that holds one. -/
def Node.instant? : Node → Option Timestamp
  | .string pieces =>
    (Piece.string? pieces).bind fun text => (Timestamp.ofText text.toList).toOption
  | .number token => token.number?.bind Number.instant?
  | _ => none

end Json

open Json

mutual
/-- The value that a schema makes of a node, if it accepts it. Nothing but an optional value is made
of a null, and of the nodes under one key of a table the last one stays. -/
def Schema.accept : {α : Type} → Schema α → Node → Option α
  | _, .text, node => node.string?
  | _, .path, node => node.string?
  | _, .flag, node => node.flag?
  | _, .integer, node => node.number?.bind Number.integer?
  | _, .natural, node => node.number?.bind Number.natural?
  | _, .real, node => node.number?.map Number.toFloat
  | _, .instant, node => node.instant?
  | _, .choice kind, node => node.string?.bind kind.find?
  | _, .optional content, node =>
    if node.isNull then some none else (content.accept node).map some
  | _, .list item, node => node.items?.bind (List.mapM fun node => item.accept node)
  | _, .table entry, node =>
    node.members?.bind fun entries =>
      (entries.mapM fun held => (entry.accept held.2).map (held.1, ·)).map Table.ofList
  | _, .record _ members view, node =>
    node.members?.bind fun entries => (members.accept entries).map view.build

/-- The values that the members of a record make of the entries of an object. Each member is made of
the one entry of its name, or of its absence. -/
def Members.accept : {β σ : Type} → Members β σ → List (String × Node) → Option β
  | _, _, .nil, _ => some ()
  | _, _, .cons name presence content rest, entries =>
    (single? (presence.absent? content) (fun node => content.accept node)
      (named name entries)).bind fun value => (rest.accept entries).map (value, ·)
end

mutual
/-- A node is laid out as values of the schema are written: where the schema has a record there is
no list of its values, nor a member that the record does not have, and where it has an alternative
there is no object. -/
def Schema.Shaped : {α : Type} → Schema α → Node → Prop
  | _, .choice _, node => ∀ members, node ≠ .object members
  | _, .optional content, node => content.Shaped node
  | _, .list item, node => ∀ items, node = .list items → ∀ inner ∈ items, item.Shaped inner
  | _, .table entry, node => ∀ name inner, node.Holds name inner → entry.Shaped inner
  | _, .record _ members _, node =>
    (∀ items, node ≠ .list items) ∧
      ∀ name inner, node.Holds name inner → name ∈ members.names ∧ members.Shaped name inner
  | _, _, _ => True

/-- A node is laid out as the values of the member of a name. -/
def Members.Shaped : {β σ : Type} → Members β σ → String → Node → Prop
  | _, _, .nil, _, _ => True
  | _, _, .cons name _ content rest, given, inner =>
    (given = name → content.Shaped inner) ∧ rest.Shaped given inner
end

mutual
/-- A node stands for a value. A null stands for the absence of an optional value only, and the last
of the nodes under a key of a table for the value of the key. -/
def Schema.Denotes : {α : Type} → Schema α → Node → α → Prop
  | _, .optional content, node, value =>
    match value with
    | none => node = .null
    | some value => node ≠ .null ∧ content.Denotes node value
  | _, .list item, node, values =>
    ∃ items, node = .list items ∧
      List.Forall₂ (fun inner value => item.Denotes inner value) items values
  | _, .table entry, node, table =>
    ∃ entries, node.members? = some entries ∧
      (∀ held ∈ entries, ∃ value, entry.Denotes held.2 value) ∧
      ∀ key, Option.Rel (fun last value => entry.Denotes last value)
        (named key entries).getLast? (table.get? key)
  | _, .record _ members view, node, value =>
    ∃ entries, node.members? = some entries ∧ members.Denotes entries (view.split value)
  | _, schema, node, value => schema.accept node = some value

/-- The entries of an object stand for the values of the members of a record: the only entry of its
name for the value of a member, and no entry for what its absence means. -/
def Members.Denotes : {β σ : Type} → Members β σ → List (String × Node) → β → Prop
  | _, _, .nil, _, () => True
  | _, _, .cons name presence content rest, entries, (value, values) =>
    ((∃ node, named name entries = [node] ∧ content.Denotes node value) ∨
      named name entries = [] ∧ presence.absent? content = some value) ∧
        rest.Denotes entries values
end

mutual
/-- A node is admitted where a value is wanted: nulls for optional values only. -/
def Schema.Admits : {α : Type} → Schema α → Node → Prop
  | _, .optional content, node => node = .null ∨ content.Admits node
  | _, .list item, node => ∃ items, node = .list items ∧ ∀ inner ∈ items, item.Admits inner
  | _, .table entry, node =>
    ∃ entries, node.members? = some entries ∧ ∀ held ∈ entries, entry.Admits held.2
  | _, .record _ members _, node =>
    ∃ entries, node.members? = some entries ∧ members.Admits entries
  | _, schema, node => (schema.accept node).isSome = true

/-- The entries of an object are admitted for the members of a record: none of them comes twice,
those that may not be absent come once, and each is admitted where it stands. -/
def Members.Admits : {β σ : Type} → Members β σ → List (String × Node) → Prop
  | _, _, .nil, _ => True
  | _, _, .cons name presence content rest, entries =>
    (named name entries).length ≤ 1 ∧
      (presence.absent? content = none → (named name entries).length = 1) ∧
      (∀ node ∈ named name entries, content.Admits node) ∧ rest.Admits entries
end

section Lists

variable {α β : Type} {f : α → Option β}

theorem mapM_eq_some_iff {left : List α} {right : List β} :
    left.mapM f = some right ↔
      List.Forall₂ (fun value image => f value = some image) left right := by
  induction left generalizing right with
  | nil => cases right <;> simp
  | cons value left ih =>
    rw [List.mapM_cons]
    cases image : f value with
    | none => cases right <;> simp [image]
    | some image =>
      cases right with
      | nil => cases left.mapM f <;> simp
      | cons head right =>
        rw [List.forall₂_cons, ← ih, image]
        cases left.mapM f <;> simp

theorem isSome_mapM_iff {values : List α} :
    (values.mapM f).isSome = true ↔ ∀ value ∈ values, (f value).isSome = true := by
  induction values with
  | nil => simp
  | cons value values ih =>
    rw [List.mapM_cons, List.forall_mem_cons, ← ih]
    cases f value with
    | none => simp
    | some image => cases values.mapM f <;> simp

theorem rel_getLast? {related : α → β → Prop} {left : List α} {right : List β}
    (each : List.Forall₂ related left right) :
    Option.Rel related left.getLast? right.getLast? := by
  induction each with
  | nil => exact .none
  | @cons value image left right head tail ih =>
    rw [List.getLast?_cons, List.getLast?_cons]
    generalize left.getLast? = before, right.getLast? = after at ih ⊢
    cases ih with
    | none => exact .some head
    | some last => exact .some last

end Lists

section Named

variable {name : String} {entry : String × Node} {entries : List (String × Node)}

theorem named_cons_of_eq (same : entry.1 = name) :
    named name (entry :: entries) = entry.2 :: named name entries := by
  rw [named, List.filter_cons_of_pos (by simpa using same), List.map_cons, ← named]

theorem named_cons_of_ne (different : entry.1 ≠ name) :
    named name (entry :: entries) = named name entries := by
  rw [named, List.filter_cons_of_neg (by simpa using different), ← named]

theorem mem_named {node : Node} : node ∈ named name entries ↔ (name, node) ∈ entries := by
  simp [named]

/-- What an object holds under a name is an entry of it. -/
theorem Json.Node.Holds.mem {node inner : Node} (holds : node.Holds name inner)
    (decoded : node.members? = some entries) : (name, inner) ∈ entries := by
  obtain ⟨members, key, rfl, member, named⟩ := holds
  obtain ⟨entry, found, same⟩ := exists_of_mem_left (mapM_eq_some_iff.mp decoded) member
  rw [named] at same
  cases same
  exact found

end Named

section Parts

variable {α β σ : Type} {node : Node}

theorem Json.Node.items?_eq_some {items : List Node} :
    node.items? = some items ↔ node = .list items := by
  cases node <;> simp [Node.items?]

theorem accept_list {item : Schema α} {values : List α} :
    (Schema.list item).accept node = some values ↔
      ∃ items, node = .list items ∧
        List.Forall₂ (fun inner value => item.accept inner = some value) items values := by
  rw [Schema.accept, Option.bind_eq_some_iff]
  simp only [Node.items?_eq_some, mapM_eq_some_iff]

/-- The values under a key are made of the nodes under it. -/
private theorem forall₂_named {accept : Node → Option α} (key : String)
    {entries : List (String × Node)} {values : List (String × α)}
    (each : List.Forall₂ (fun held value => (accept held.2).map (held.1, ·) = some value)
      entries values) :
    List.Forall₂ (fun node value => accept node = some value) (named key entries)
      ((values.filter (·.1 = key)).map (·.2)) := by
  induction each with
  | nil => exact .nil
  | @cons held value entries values head tail ih =>
    obtain ⟨made, accepted, rfl⟩ := Option.map_eq_some_iff.mp head
    by_cases same : held.1 = key
    · rw [named_cons_of_eq same, List.filter_cons_of_pos (by simpa using same), List.map_cons]
      exact .cons accepted ih
    · rwa [named_cons_of_ne same, List.filter_cons_of_neg (by simpa using same)]

/-- Two options that are related to one option by the same function are equal. -/
private theorem eq_of_rel {accept : Node → Option α} {node : Option Node} {left right : Option α}
    (first : Option.Rel (fun node value => accept node = some value) node left)
    (second : Option.Rel (fun node value => accept node = some value) node right) :
    left = right := by
  cases first with
  | none =>
    cases second
    rfl
  | some left =>
    cases second with
    | some right => rw [← left, right]

/-- Each entry of a table is accepted, and the last under a key makes the value of the key. -/
theorem accept_table {entry : Schema α} {table : Table α} :
    (Schema.table entry).accept node = some table ↔
      ∃ entries, node.members? = some entries ∧
        (∀ held ∈ entries, ∃ value, entry.accept held.2 = some value) ∧
        ∀ key, Option.Rel (fun last value => entry.accept last = some value)
          (named key entries).getLast? (table.get? key) := by
  rw [Schema.accept, Option.bind_eq_some_iff]
  refine exists_congr fun entries => and_congr_right' ?_
  have last {values : List (String × α)}
      (made : (entries.mapM fun held => (entry.accept held.2).map (held.1, ·)) = some values)
      (key : String) : Option.Rel (fun last value => entry.accept last = some value)
        (named key entries).getLast? ((Table.ofList values).get? key) := by
    rw [Table.get?_ofList]
    exact rel_getLast? (forall₂_named key (mapM_eq_some_iff.mp made))
  have each : (entries.mapM fun held => (entry.accept held.2).map (held.1, ·)).isSome = true ↔
      ∀ held ∈ entries, ∃ value, entry.accept held.2 = some value := by
    rw [isSome_mapM_iff]
    simp only [Option.isSome_map, Option.isSome_iff_exists]
  rw [Option.map_eq_some_iff]
  constructor
  · rintro ⟨values, made, rfl⟩
    exact ⟨each.mp (by rw [made]; rfl), last made⟩
  · rintro ⟨accepted, under⟩
    obtain ⟨values, made⟩ := Option.isSome_iff_exists.mp (each.mpr accepted)
    exact ⟨values, made, Table.ext_get? fun key => eq_of_rel (last made key) (under key)⟩

theorem accept_record {label : String} {members : Members β σ} {view : View α β} {value : α} :
    (Schema.record label members view).accept node = some value ↔
      ∃ entries, node.members? = some entries ∧
        members.accept entries = some (view.split value) := by
  rw [Schema.accept, Option.bind_eq_some_iff]
  refine exists_congr fun entries => and_congr_right' ?_
  rw [Option.map_eq_some_iff]
  constructor
  · rintro ⟨values, accepted, rfl⟩
    rw [accepted, view.split_build]
  · intro accepted
    exact ⟨_, accepted, view.build_split value⟩

end Parts

section Single

variable {α : Type} {accept : Node → Option α} {absent : Option α} {nodes : List Node}

theorem single?_eq_some_iff {value : α} : single? absent accept nodes = some value ↔
    (∃ node, nodes = [node] ∧ accept node = some value) ∨ nodes = [] ∧ absent = some value := by
  match nodes with
  | [] => simp [single?]
  | [node] => simp [single?]
  | first :: second :: others => simp [single?]

theorem isSome_single?_iff : (single? absent accept nodes).isSome = true ↔
    nodes.length ≤ 1 ∧ (absent = none → nodes.length = 1) ∧
      ∀ node ∈ nodes, (accept node).isSome = true := by
  match nodes with
  | [] => cases absent <;> simp [single?]
  | [node] => simp [single?]
  | first :: second :: others => simp [single?]

theorem accept_cons {β σ : Type} {name : String} {presence : Presence α} {content : Schema α}
    {rest : Members β σ} {entries : List (String × Node)} {value : α} {values : β} :
    (Members.cons name presence content rest).accept entries = some (value, values) ↔
      ((∃ node, named name entries = [node] ∧ content.accept node = some value) ∨
        named name entries = [] ∧ presence.absent? content = some value) ∧
          rest.accept entries = some values := by
  rw [Members.accept, ← single?_eq_some_iff]
  cases single? (presence.absent? content) content.accept (named name entries) with
  | none => simp
  | some value => simp [and_comm]

theorem isSome_accept_cons {β σ : Type} {name : String} {presence : Presence α}
    {content : Schema α} {rest : Members β σ} {entries : List (String × Node)} :
    ((Members.cons name presence content rest).accept entries).isSome = true ↔
      ((named name entries).length ≤ 1 ∧
        (presence.absent? content = none → (named name entries).length = 1) ∧
        ∀ node ∈ named name entries, (content.accept node).isSome = true) ∧
          (rest.accept entries).isSome = true := by
  rw [Members.accept, ← isSome_single?_iff]
  cases single? (presence.absent? content) content.accept (named name entries) with
  | none => simp
  | some value => simp

end Single

mutual
/-- A schema accepts a node as the value that the node stands for. -/
theorem Schema.accept_iff_denotes : {α : Type} → (schema : Schema α) → (node : Node) →
    (value : α) → (schema.accept node = some value ↔ schema.Denotes node value)
  | _, .text, _, _ => .rfl
  | _, .path, _, _ => .rfl
  | _, .flag, _, _ => .rfl
  | _, .integer, _, _ => .rfl
  | _, .natural, _, _ => .rfl
  | _, .real, _, _ => .rfl
  | _, .instant, _, _ => .rfl
  | _, .choice _, _, _ => .rfl
  | _, .optional content, node, value => by
    have inner (value) := content.accept_iff_denotes node value
    cases value with
    | none => cases node <;> simp [Schema.accept, Schema.Denotes, Node.isNull]
    | some value => cases node <;> simp [Schema.accept, Schema.Denotes, Node.isNull, ← inner]
  | _, .list item, node, values => by
    have inner (node value) := item.accept_iff_denotes node value
    simp only [accept_list, Schema.Denotes, inner]
  | _, .table entry, node, table => by
    have inner (node value) := entry.accept_iff_denotes node value
    simp only [accept_table, Schema.Denotes, inner]
  | _, .record label members view, node, value => by
    have inner (entries values) := members.accept_iff_denotes entries values
    simp only [accept_record, Schema.Denotes, inner]

theorem Members.accept_iff_denotes : {β σ : Type} → (members : Members β σ) →
    (entries : List (String × Node)) → (values : β) →
    (members.accept entries = some values ↔ members.Denotes entries values)
  | _, _, .nil, _, () => by simp [Members.accept, Members.Denotes]
  | _, _, .cons name presence content rest, entries, (value, values) => by
    have first (node) := content.accept_iff_denotes node value
    have later := rest.accept_iff_denotes entries values
    simp only [accept_cons, Members.Denotes, first, later]
end

mutual
/-- A schema accepts the nodes that it admits. -/
theorem Schema.isSome_accept_iff : {α : Type} → (schema : Schema α) → (node : Node) →
    ((schema.accept node).isSome = true ↔ schema.Admits node)
  | _, .text, _ => .rfl
  | _, .path, _ => .rfl
  | _, .flag, _ => .rfl
  | _, .integer, _ => .rfl
  | _, .natural, _ => .rfl
  | _, .real, _ => .rfl
  | _, .instant, _ => .rfl
  | _, .choice _, _ => .rfl
  | _, .optional content, node => by
    have inner := content.isSome_accept_iff node
    cases node <;> simp [Schema.accept, Schema.Admits, Node.isNull, ← inner]
  | _, .list item, node => by
    have inner (node) := item.isSome_accept_iff node
    cases node <;> simp [Schema.accept, Schema.Admits, Node.items?, isSome_mapM_iff, inner]
  | _, .table entry, node => by
    have inner (node) := entry.isSome_accept_iff node
    cases members : node.members? <;>
      simp [Schema.accept, Schema.Admits, members, isSome_mapM_iff, inner]
  | _, .record label members view, node => by
    have inner (entries) := members.isSome_accept_iff entries
    cases written : node.members? <;>
      simp [Schema.accept, Schema.Admits, written, inner]

theorem Members.isSome_accept_iff : {β σ : Type} → (members : Members β σ) →
    (entries : List (String × Node)) →
    ((members.accept entries).isSome = true ↔ members.Admits entries)
  | _, _, .nil, _ => by simp [Members.accept, Members.Admits]
  | _, _, .cons name presence content rest, entries => by
    have first (node) := content.isSome_accept_iff node
    have later := rest.isSome_accept_iff entries
    simp only [isSome_accept_cons, Members.Admits, first, later, and_assoc]
end

/-- Only where a value is optional a null is admitted. -/
theorem Schema.admits_null_iff {α : Type} (schema : Schema α) :
    schema.Admits .null ↔ schema.isOptional = true := by
  rw [← schema.isSome_accept_iff]
  cases schema <;> simp [accept, isOptional, Node.isNull, Node.string?, Node.flag?, Node.number?,
    Node.instant?, Node.items?, Node.members?]

end MonitorFeed
