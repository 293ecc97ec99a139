import MonitorFeed.Proofs.Payload.RoundTrip
import MonitorFeed.Proofs.Schema.Agreement
import MonitorFeed.Proofs.Schema.Order

/-!
Which documents are payloads. A text is read as a payload exactly when its members come as often as
the schema wants them and are accepted where they stand; their order does not matter.
-/

namespace MonitorFeed

open Json (Node Piece named)

/-- What the presence of a member is about. -/
inductive MemberKind where
  | required
  | optional
  | collection
  | defaulted
deriving DecidableEq

/-- Whether the values of a schema are lists or tables. -/
def Schema.isCollection : {α : Type} → Schema α → Bool
  | _, .list _ => true
  | _, .table _ => true
  | _, _ => false

def Presence.kind {α : Type} (presence : Presence α) (content : Schema α) : MemberKind :=
  if (presence.absent? content).isNone then .required
  else if content.isOptional then .optional
  else if content.isCollection then .collection
  else .defaulted

/-- A member of a record, and whether a null is accepted for it. -/
structure MemberRule where
  name : String
  kind : MemberKind
  nullable : Bool

mutual
/-- The members of the records that a schema has, at any depth. -/
def Schema.rules : {α : Type} → Schema α → List MemberRule
  | _, .optional content => content.rules
  | _, .list item => item.rules
  | _, .table entry => entry.rules
  | _, .record _ members _ => members.rules
  | _, _ => []

def Members.rules : {β σ : Type} → Members β σ → List MemberRule
  | _, _, .nil => []
  | _, _, .cons name presence content rest =>
    ⟨name, presence.kind content, (content.accept .null).isSome⟩ :: (content.rules ++ rest.rules)
end

/-- What the absence of a member stands for: nothing where it is optional, no items, no entries, and
for the role of a sample a plain one. -/
inductive Absent : String → {α : Type} → Schema α → α → Prop where
  | optional {name : String} {α : Type} {content : Schema α} : Absent name (.optional content) none
  | list {name : String} {α : Type} {item : Schema α} : Absent name (.list item) []
  | table {name : String} {α : Type} {entry : Schema α} : Absent name (.table entry) Table.empty
  | role : Absent "sampleType" (.choice inferInstance) SampleRole.sample

mutual
/-- Every member that may be absent, at any depth of a schema, stands for what its absence always
stands for. -/
def Schema.HasAbsences : {α : Type} → Schema α → Prop
  | _, .optional content => content.HasAbsences
  | _, .list item => item.HasAbsences
  | _, .table entry => entry.HasAbsences
  | _, .record _ members _ => members.HasAbsences
  | _, _ => True

def Members.HasAbsences : {β σ : Type} → Members β σ → Prop
  | _, _, .nil => True
  | _, _, .cons name presence content rest =>
    (∀ value, presence.absent? content = some value → Absent name content value) ∧
      content.HasAbsences ∧ rest.HasAbsences
end

namespace Absent

variable {α : Type} {name : String} {content : Schema α}

/-- A required member is never absent. -/
theorem of_required (value : α) (absent : Presence.required.absent? content = some value) :
    Absent name content value := by
  cases absent

theorem of_sparse (value : α) (absent : Presence.sparse.absent? content = some value) :
    Absent name content value := by
  cases content with
  | optional content =>
    cases absent
    exact .optional
  | list item =>
    cases absent
    exact .list
  | table entry =>
    cases absent
    exact .table
  | _ => cases absent

theorem of_role (value : SampleRole)
    (absent : (Presence.fallback SampleRole.sample).absent? (.choice inferInstance) = some value) :
    Absent "sampleType" (.choice inferInstance) value := by
  cases absent
  exact .role

end Absent

/-- A measurement without a role is a plain sample. -/
theorem Series.role_of_absent {node : Node} {entries : List (String × Node)} {series : Series}
    (denotes : (Document.schema : Schema Series).Denotes node series)
    (members : node.members? = some entries) (absent : named "sampleType" entries = []) :
    series.role = .sample := by
  obtain ⟨others, found, -, role, -⟩ := denotes
  obtain rfl : others = entries := Option.some.inj (found.symm.trans members)
  rcases role with ⟨inner, present, -⟩ | ⟨-, given⟩
  · rw [absent] at present
    cases present
  · exact (Option.some.inj given).symm

namespace Payload

/-- Each member of a payload is required, sparse, or the role of a sample. -/
theorem hasAbsences_schema (payload : Payload) :
    (Document.schema : Schema payload.Value).HasAbsences := by
  cases payload <;>
    repeat' first
      | exact trivial
      | exact Absent.of_required
      | exact Absent.of_sparse
      | exact Absent.of_role
      | apply And.intro

/-- The members that hold lists and tables. -/
def collections : List String :=
  ["services", "metrics", "resources", "groups", "thresholds", "tags", "labels", "properties"]

theorem rules_schema (payload : Payload) :
    ∀ rule ∈ (Document.schema : Schema payload.Value).rules,
      (rule.nullable = true ↔ rule.kind = .optional) ∧
      (rule.kind = .collection ↔ rule.name ∈ collections) ∧
      (rule.kind = .defaulted → rule.name = "sampleType") := by
  cases payload <;> decide

/-- A document whose records are objects without strange members, and whose alternatives are
strings, is read as a payload exactly when at every record each member that must be there is there
once, each other member at most once, and each is accepted where it stands; a null is accepted for
the optional members only. The payload is then the one that the document stands for: every member
has the value of its only entry, or of its absence, and a key of a table the value of its last
entry. An absent member is none, an empty list or an empty table, and the role of a sample is a plain
one. None of this depends on the order of members of different names. -/
theorem decode_document (payload : Payload) {node : Node} {text : String}
    (spelled : node.IsDocument text)
    (shaped : (Document.schema : Schema payload.Value).Shaped node) :
    ((∃ value : payload.Value, Document.decode text = .ok value) ↔
      (Document.schema : Schema payload.Value).Admits node) ∧
    (∀ value : payload.Value,
      Document.decode text = .ok value ↔ Document.schema.Denotes node value) ∧
    (∀ (other : Node) (rearranged : String), node.Rearranged other → other.IsDocument rearranged →
      ∀ value : payload.Value,
        Document.decode rearranged = .ok value ↔ Document.decode text = .ok value) ∧
    (∀ rule ∈ (Document.schema : Schema payload.Value).rules,
      (rule.nullable = true ↔ rule.kind = .optional) ∧
      (rule.kind = .collection ↔ rule.name ∈ collections) ∧
      (rule.kind = .defaulted → rule.name = "sampleType")) ∧
    (Document.schema : Schema payload.Value).HasAbsences ∧
    ∀ (inner : Node) (entries : List (String × Node)) (series : Series),
      (Document.schema : Schema Series).Denotes inner series → inner.members? = some entries →
        named "sampleType" entries = [] → series.role = .sample := by
  have regular := payload.isRegular_schema
  have read : (Document.decode text : Except Json.Error payload.Value).toOption =
      Document.schema.accept node :=
    Schema.toOption_read regular shaped spelled
  refine ⟨?_, fun value => ?_, fun other rearranged moves document value => ?_,
    payload.rules_schema, payload.hasAbsences_schema, fun inner entries series => ?_⟩
  · rw [← Schema.isSome_accept_iff, ← read, Option.isSome_iff_exists]
    simp only [toOption_eq_some_iff]
  · rw [← Schema.accept_iff_denotes, ← read, toOption_eq_some_iff]
  · obtain ⟨shaped, same⟩ := Schema.accept_rearranged moves shaped
    have again : (Document.decode rearranged : Except Json.Error payload.Value).toOption =
        Document.schema.accept other :=
      Schema.toOption_read regular shaped document
    rw [← toOption_eq_some_iff, ← toOption_eq_some_iff, again, same, read]
  · exact Series.role_of_absent

/-- An object is laid out as a record if each of its members is laid out as the one of its name. -/
private theorem shaped_object {α β σ : Type} {label : String} {members : Members β σ}
    {view : View α β} {node : Node} {entries : List (String × Node)}
    (decoded : node.members? = some entries)
    (each : ∀ held ∈ entries, held.1 ∈ members.names ∧ members.Shaped held.1 held.2) :
    (Schema.record label members view).Shaped node := by
  refine ⟨fun items same => ?_, fun name inner holds => each _ (holds.mem decoded)⟩
  rw [same] at decoded
  cases decoded

/-- A metric with a repeated label and a null unit. -/
def gaugeNode : Node :=
  .object
    [(Piece.ofText "labels", .object
        [(Piece.ofText "zone", .string (Piece.ofText "east")),
          (Piece.ofText "zone", .string (Piece.ofText "west"))]),
      (Piece.ofText "name", .string (Piece.ofText "load")), (Piece.ofText "unit", .null)]

/-- A time without a start. -/
def instantNode : Node :=
  .object [(Piece.ofText "endTime", .string (Piece.ofText "0"))]

/-- A value of one place. -/
def highNode : Node :=
  .object
    [(Piece.ofText "stringValue", .string (Piece.ofText "high")),
      (Piece.ofText "valueType", .string (Piece.ofText "StringType"))]

/-- A measurement of which only the required members are there. -/
def sparseNode : Node :=
  .object
    [(Piece.ofText "value", highNode), (Piece.ofText "interval", instantNode),
      (Piece.ofText "metricName", .string (Piece.ofText "load"))]

private theorem shaped_instantNode : (Document.schema : Schema Interval).Shaped instantNode := by
  have entries : instantNode.members? = some [("endTime", .string (Piece.ofText "0"))] := rfl
  refine shaped_object entries ?_
  simp only [List.forall_mem_cons]
  exact ⟨⟨by decide, by simp [Members.Shaped, Schema.Shaped]⟩, nofun⟩

private theorem shaped_highNode : (Document.schema : Schema TypedValue).Shaped highNode := by
  have entries : highNode.members? = some
      [("stringValue", .string (Piece.ofText "high")),
        ("valueType", .string (Piece.ofText "StringType"))] := rfl
  refine shaped_object entries ?_
  simp only [List.forall_mem_cons]
  exact ⟨⟨by decide, by simp [Members.Shaped, Schema.Shaped]⟩,
    ⟨by decide, by simp [Members.Shaped, Schema.Shaped]⟩, nofun⟩

theorem decode_document_gauge :
    gaugeNode.IsDocument (String.ofList gaugeNode.spelling) ∧
      (Document.schema : Schema (Value .descriptor)).Shaped gaugeNode ∧
      Document.decode (String.ofList gaugeNode.spelling) =
        .ok { MetricDescriptor.named "load" with labels := Table.ofList [("zone", "west")] } ∧
      sparseNode.IsDocument (String.ofList sparseNode.spelling) ∧
      (Document.schema : Schema (Value .series)).Shaped sparseNode ∧
      Document.decode (String.ofList sparseNode.spelling) =
        .ok (⟨"load", .sample, ⟨.epoch, none⟩, .ofText "high", Table.empty, none, []⟩ : Series) := by
  have spelled := gaugeNode.isDocument_spelling
  have shaped : (Document.schema : Schema (Value .descriptor)).Shaped gaugeNode := by
    have entries : gaugeNode.members? = some
        [("labels", .object
          [(Piece.ofText "zone", .string (Piece.ofText "east")),
            (Piece.ofText "zone", .string (Piece.ofText "west"))]),
          ("name", .string (Piece.ofText "load")), ("unit", .null)] := rfl
    refine shaped_object entries ?_
    simp only [List.forall_mem_cons]
    exact ⟨⟨by decide, by simp [Members.Shaped, Schema.Shaped]⟩,
      ⟨by decide, by simp [Members.Shaped, Schema.Shaped]⟩,
      ⟨by decide, by simp [Members.Shaped, Schema.Shaped]⟩, nofun⟩
  have denotes : (Document.schema : Schema (Value .descriptor)).Denotes gaugeNode
      { MetricDescriptor.named "load" with labels := Table.ofList [("zone", "west")] } :=
    (Schema.accept_iff_denotes _ _ _).mp rfl
  obtain ⟨-, values, -⟩ := decode_document .descriptor spelled shaped
  have decoded := (values _).mpr denotes
  have document := sparseNode.isDocument_spelling
  have regular : (Document.schema : Schema (Value .series)).Shaped sparseNode := by
    have entries : sparseNode.members? = some
        [("value", highNode), ("interval", instantNode),
          ("metricName", .string (Piece.ofText "load"))] := rfl
    refine shaped_object entries ?_
    simp only [List.forall_mem_cons]
    exact ⟨⟨by decide, by simp [Members.Shaped, shaped_highNode]⟩,
      ⟨by decide, by simp [Members.Shaped, shaped_instantNode]⟩,
      ⟨by decide, by simp [Members.Shaped, Schema.Shaped]⟩, nofun⟩
  have stands : (Document.schema : Schema (Value .series)).Denotes sparseNode
      (⟨"load", .sample, ⟨.epoch, none⟩, .ofText "high", Table.empty, none, []⟩ : Series) :=
    (Schema.accept_iff_denotes _ _ _).mp rfl
  obtain ⟨-, values, -⟩ := decode_document .series document regular
  exact ⟨spelled, shaped, decoded, document, regular, (values _).mpr stands⟩

end Payload

end MonitorFeed
