import MonitorFeed.Json5.Reader
import MonitorFeed.Proofs.Json5.Written
import MonitorFeed.Proofs.Schema.RoundTrip

/-!
Reading as JSON5 what was written as JSON. The proof goes over the schema: each way to lay out a
value is read from the node of its document, given that its parts are.
-/

namespace MonitorFeed

open Json5

namespace Json5

section Leaves

/-- An integer that doubles hold is read as a number without loss. -/
theorem double_node {value : Int} (portable : (Json.integer value).Portable) :
    ∃ x, (Json.integer value).node.double = .ok x ∧ x.integerPart? = some value := by
  cases portable with
  | integer within => exact doubleOf_integerText within

theorem ofNode_integer (value : Int64) (portable : (Json.integer value.toInt).Portable) :
    Schema.integer.ofNode (Json.integer value.toInt).node = .ok value := by
  obtain ⟨x, read, held⟩ := double_node portable
  have truncated := Decimal.Double.truncate_of_integerPart? held
    (Int64.minValue_le_toInt value) (Int64.toInt_le value)
  rw [Schema.ofNode, read]
  simp only [Except.map, truncated, Int64.ofInt_toInt]

theorem ofNode_natural (value : UInt64) (portable : (Json.integer value.toNat).Portable) :
    Schema.natural.ofNode (Json.integer value.toNat).node = .ok value := by
  obtain ⟨x, read, held⟩ := double_node portable
  have small : (value.toNat : Int) ≤ UInt64.size - 1 :=
    Int.le_sub_one_of_lt (Int.ofNat_lt.mpr value.toNat_lt)
  have truncated := Decimal.Double.truncate_of_integerPart? held (Int.natCast_nonneg _) small
  rw [Schema.ofNode, read]
  simp only [Except.map, truncated, Int.toNat_natCast, UInt64.ofNat_toNat]

theorem readInstant_text (instant : Timestamp) :
    readInstant (.text (piecesOf (String.ofList instant.text))) = .ok instant := by
  simp only [readInstant, Node.found, textOf_piecesOf, Except.map, bind, Except.bind,
    String.toList_ofList, Timestamp.ofText_text, acceptInstant]

theorem readChoice_text {α : Type} (kind : Choice α) (value : α) :
    readChoice kind (.text (piecesOf (kind.name value))) = .ok value := by
  simp only [readChoice, readName, textOf_piecesOf, kind.find?_name, bind, Except.bind]
  rfl

end Leaves

section Containers

variable {α : Type} {content : Node → Except Cause α}

/-- Content that is not written as a null is read as content. -/
theorem readOptional_node {value : α} {document : Json} (solid : document.isNull = false)
    (read : content document.node = .ok value) :
    readOptional content document.node = .ok (some value) := by
  cases document with
  | null => cases solid
  | _ =>
    simp only [Json.node] at read ⊢
    rw [readOptional, read]
    · rfl
    · exact fun same => by cases same

theorem readList_nodes {values : List α} {documents : List Json}
    (each : List.Forall₂ (fun value document => content document.node = .ok value)
      values documents) :
    readList content (Json.list documents).node = .ok values := by
  rw [Json.node, readList]
  induction each with
  | nil => rfl
  | cons head _ ih =>
    rw [Json.nodes, List.mapM_cons, head, ih]
    rfl

theorem readTable_nodes {entries : List (String × α)} {members : List (String × Json)}
    (each : List.Forall₂ (fun held member =>
      held.1 = member.1 ∧ content member.2.node = .ok held.2) entries members) :
    readTable content (Json.object members).node = .ok (Table.ofList entries) := by
  rw [Json.node, readTable, Table.ofList]
  generalize Table.empty = table
  induction each generalizing table with
  | nil => rfl
  | @cons held member _ _ head _ ih =>
    rw [Json.nodeMembers, List.foldlM_cons, List.foldl_cons]
    simp only [textOf_piecesOf, head.2, bind, Except.bind, pure, Except.pure]
    rw [← head.1]
    exact ih _

end Containers

end Json5

namespace Members

variable {α β σ : Type}

/-- Puts an entry of an object into its place; a strange one is only checked. -/
def putEntry (members : Members β σ) (slots : σ) (entry : List Piece × Node) : Except Cause σ := do
  match ← members.ofMember (← textOf entry.1) entry.2 slots with
  | some slots => return slots
  | none =>
    entry.2.check
    return slots

theorem putEntry_self {name : String} {presence : Presence α} {content : Schema α}
    {rest : Members β σ} {slots : σ} {node : Node} {value : α}
    (read : content.ofNode node = .ok value) :
    (Members.cons name presence content rest).putEntry (none, slots) (piecesOf name, node) =
      .ok (some value, slots) := by
  simp only [putEntry, textOf_piecesOf, ofMember, ↓reduceIte, Option.isSome_none, Bool.false_eq_true,
    read, bind, Except.bind, Except.map, pure, Except.pure]

theorem putEntry_of_ne {key name : String} (different : key ≠ name) {presence : Presence α}
    {content : Schema α} {rest : Members β σ} {slot : Option α} {slots : σ} {node : Node} :
    (Members.cons name presence content rest).putEntry (slot, slots) (piecesOf key, node) =
      (rest.putEntry slots (piecesOf key, node)).map fun slots => (slot, slots) := by
  simp only [putEntry, textOf_piecesOf, ofMember, different, ↓reduceIte, bind, Except.bind]
  cases rest.ofMember key node slots with
  | error fault => rfl
  | ok read =>
    cases read with
    | some slots => rfl
    | none =>
      simp only [Except.map, Option.map_none]
      cases node.check <;> rfl

/-- Members of other names leave the place of a member as it is. -/
theorem foldlM_putEntry_of_ne {name : String} {presence : Presence α} {content : Schema α}
    {rest : Members β σ} {written : List (String × Json)}
    (different : ∀ member ∈ written, member.1 ≠ name) (slot : Option α) (slots : σ) :
    (Json.nodeMembers written).foldlM (Members.cons name presence content rest).putEntry (slot, slots) =
      ((Json.nodeMembers written).foldlM rest.putEntry slots).map fun slots => (slot, slots) := by
  induction written generalizing slots with
  | nil => rfl
  | cons member written ih =>
    obtain ⟨first, others⟩ := List.forall_mem_cons.mp different
    rw [Json.nodeMembers, List.foldlM_cons, List.foldlM_cons, putEntry_of_ne first]
    cases rest.putEntry slots (piecesOf member.1, member.2.node) with
    | error fault => rfl
    | ok slots => exact ih others slots

end Members

/-- Every portable document that may be written for a value is read as what is settled of it. -/
def Schema.RoundTripsJson5 {α : Type} (schema : Schema α) : Prop :=
  schema.isRegular = true → ∀ {value document}, schema.Written value document →
    document.Portable → schema.ofNode document.node = .ok (schema.settle value)

/-- Portable members that may be written for the values of a record fill its places with what is
settled of them. -/
def Members.RoundTripsJson5 {β σ : Type} (members : Members β σ) : Prop :=
  members.isRegular = true → ∀ {values written}, members.Written values written →
    (∀ member ∈ written, member.2.Portable) →
    ∃ slots, (Json.nodeMembers written).foldlM members.putEntry members.unread = .ok slots ∧
      members.complete slots = .ok (members.settle values)

namespace Schema

variable {α : Type}

/-- A portable document holds no double. -/
private theorem not_portable_real {x : Float} : ¬ (Json.real x).Portable := by
  intro portable
  cases portable

theorem RoundTripsJson5.optional {content : Schema α} (inner : content.RoundTripsJson5) :
    (Schema.optional content).RoundTripsJson5 := by
  intro regular value document written portable
  cases value with
  | none =>
    obtain rfl : document = .null := written
    rfl
  | some value =>
    have written : content.Written value document := written
    by_cases real : content.isReal = true
    · cases content with
      | real =>
        -- A double that is not finite is written as a null and settled as absent.
        obtain rfl : document = Schema.real.toJson value := written
        by_cases finite : Decimal.isFinite value = true
        · rw [toJson, if_pos finite] at portable
          exact absurd portable not_portable_real
        · simp only [toJson, settle, isWritable, finite, ↓reduceIte, Bool.false_eq_true,
            Option.filter_some, Option.map_none]
          rfl
      | _ => cases real
    · obtain ⟨solid, present⟩ := (isRegular_optional.mp regular).resolve_left real
      have null := isNull_of_written solid present written
      rw [settle_some solid]
      exact readOptional_node null (inner solid written portable)

theorem RoundTripsJson5.list {item : Schema α} (inner : item.RoundTripsJson5) :
    (Schema.list item).RoundTripsJson5 := by
  intro regular values document written portable
  obtain ⟨items, rfl, each⟩ := written
  cases portable with
  | list portable =>
    have read : List.Forall₂ (fun value document => item.ofNode document.node = .ok value)
        (values.map item.settle) items := by
      rw [List.forall₂_map_left_iff]
      refine (List.Forall₂.imp ?_ ((List.forall₂_and_left _ _).mpr ⟨portable, each.flip⟩)).flip
      rintro document value ⟨portable, written⟩
      exact inner regular written portable
    exact readList_nodes read

theorem RoundTripsJson5.table {entry : Schema α} (inner : entry.RoundTripsJson5) :
    (Schema.table entry).RoundTripsJson5 := by
  intro regular table document written portable
  obtain ⟨entries, members, same, rfl, each⟩ := written
  cases portable with
  | object names portable =>
    have read : List.Forall₂ (fun held member =>
        held.1 = member.1 ∧ entry.ofNode member.2.node = .ok held.2)
        (entries.map fun held => (held.1, entry.settle held.2)) members := by
      rw [List.forall₂_map_left_iff]
      refine (List.Forall₂.imp ?_ ((List.forall₂_and_left _ _).mpr ⟨portable, each.flip⟩)).flip
      rintro member held ⟨portable, key, written⟩
      exact ⟨key, inner regular written portable⟩
    have settled : Table.ofList (entries.map fun held => (held.1, entry.settle held.2)) =
        (Schema.table entry).settle table :=
      Table.ofList_of_perm (same.map _)
    rw [← settled]
    exact readTable_nodes read

theorem RoundTripsJson5.record {β σ : Type} {members : Members β σ} (label : String)
    (view : View α β) (inner : members.RoundTripsJson5) :
    (Schema.record label members view).RoundTripsJson5 := by
  intro regular value document written portable
  obtain ⟨written, rfl, each⟩ := written
  cases portable with
  | object names portable =>
    obtain ⟨slots, folds, complete⟩ := inner regular each portable
    rw [Json.node]
    change ((Json.nodeMembers written).foldlM members.putEntry members.unread >>= _) = _
    rw [folds]
    simp only [complete, bind, Except.bind]
    rfl

end Schema

theorem Members.RoundTripsJson5.cons {α β σ : Type} {name : String} {presence : Presence α}
    {content : Schema α} {rest : Members β σ} (head : content.RoundTripsJson5)
    (tail : rest.RoundTripsJson5) :
    (Members.cons name presence content rest).RoundTripsJson5 := by
  rintro regular ⟨value, values⟩ written each portable
  obtain ⟨new, regular, others⟩ := isRegular_cons.mp regular
  rw [Members.Written] at each
  split at each
  · rename_i omitted
    obtain ⟨slots, folds, complete⟩ := tail others each portable
    have different : ∀ member ∈ written, member.1 ≠ name := by
      rintro member found rfl
      exact new (mem_names_of_written each member found)
    refine ⟨(none, slots), ?_, ?_⟩
    · rw [unread, foldlM_putEntry_of_ne different, folds]
      rfl
    · simp only [Members.complete, Option.none_or, Presence.absent?_of_omits omitted, complete]
      rfl
  · obtain ⟨document, following, rfl, first, each⟩ := each
    obtain ⟨portable, later⟩ := List.forall_mem_cons.mp portable
    obtain ⟨slots, folds, complete⟩ := tail others each later
    have different : ∀ member ∈ following, member.1 ≠ name := by
      rintro member found rfl
      exact new (mem_names_of_written each member found)
    have read := head regular first portable
    refine ⟨(some (content.settle value), slots), ?_, ?_⟩
    · rw [unread, Json.nodeMembers, List.foldlM_cons, putEntry_self read]
      simp only [bind, Except.bind]
      rw [foldlM_putEntry_of_ne different, folds]
      rfl
    · simp only [Members.complete, Option.some_or, complete]
      rfl

mutual
/-- A value of a regular schema comes back from any portable document that may be written for it. -/
theorem Schema.roundTripsJson5 : {α : Type} → (schema : Schema α) → schema.RoundTripsJson5
  | _, .text => fun _ _ _ written _ => written ▸ textOf_piecesOf _
  | _, .path => fun _ _ _ written _ => written ▸ textOf_piecesOf _
  | _, .flag => fun _ _ _ written _ => written ▸ rfl
  | _, .integer => fun _ _ _ written => written ▸ ofNode_integer _
  | _, .natural => fun _ _ _ written => written ▸ ofNode_natural _
  | _, .real => fun regular => by cases regular
  | _, .instant => fun _ _ _ written _ => written ▸ readInstant_text _
  | _, .choice kind => fun _ _ _ written _ => written ▸ readChoice_text kind _
  | _, .optional content => .optional content.roundTripsJson5
  | _, .list item => .list item.roundTripsJson5
  | _, .table entry => .table entry.roundTripsJson5
  | _, .record label members view => .record label view members.roundTripsJson5

theorem Members.roundTripsJson5 : {β σ : Type} → (members : Members β σ) →
    members.RoundTripsJson5
  | _, _, .nil => fun _ _ _ written _ => written ▸ ⟨(), rfl, rfl⟩
  | _, _, .cons _ _ content rest => .cons content.roundTripsJson5 rest.roundTripsJson5
end

/-- A JSON text that may be written for a value holds the same to a reader of JSON5, provided that
its document is portable. -/
theorem Schema.readJson5_written {α : Type} {schema : Schema α} (regular : schema.isRegular = true)
    {value : α} {document : Json} (written : schema.Written value document)
    (portable : document.Portable) :
    schema.readJson5 (String.ofList document.compact) = .ok (schema.settle value) := by
  rw [Schema.readJson5, Node.ofText_compact portable]
  exact schema.roundTripsJson5 regular written portable

section Portable

variable {α β σ : Type}

theorem Members.portable_nil : ∀ member ∈ Members.nil.toJson (), member.2.Portable :=
  List.forall_mem_nil _

theorem Members.portable_cons {name : String} {presence : Presence α} {content : Schema α}
    {rest : Members β σ} {value : α} {values : β} (head : (content.toJson value).Portable)
    (tail : ∀ member ∈ rest.toJson values, member.2.Portable) :
    ∀ member ∈ (Members.cons name presence content rest).toJson (value, values),
      member.2.Portable := by
  rw [Members.toJson]
  split
  · exact tail
  · exact List.forall_mem_cons.mpr ⟨head, tail⟩

/-- The document of a record is portable if its members are. -/
theorem Schema.portable_record {label : String} {members : Members β σ} {view : View α β}
    {value : α} (names : ∀ name ∈ members.names, Unbroken name)
    (each : ∀ member ∈ members.toJson (view.split value), member.2.Portable) :
    ((Schema.record label members view).toJson value).Portable :=
  .object (fun member held =>
    names _ (Members.mem_names_of_written (members.written_toJson _) member held)) each

theorem Schema.portable_optional {content : Schema α} {value : Option α}
    (each : ∀ held ∈ value, (content.toJson held).Portable) :
    ((Schema.optional content).toJson value).Portable := by
  cases value with
  | none => exact .null
  | some value => exact each value rfl

end Portable

end MonitorFeed
