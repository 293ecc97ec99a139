import MonitorFeed.Payload.Series
import MonitorFeed.Proofs.Schema.Insertion

/-!
Strange members in the documents of payloads. They are ignored at any depth, whatever they hold.
-/

namespace MonitorFeed

open Json (Node Piece Token)

namespace Document

/-- A text is decoded as it is without its strange members: those of any names that a record does
not have, any number of them, with any values, anywhere in the objects that stand for records. Both
for a single value and for a list the same texts are accepted, as the same values. -/
theorem decode_interspersed {α : Type} [Document α] {node other : Node} {text padded : String}
    (spelled : node.IsDocument text) (again : other.IsDocument padded) :
    ((schema : Schema α).Interspersed node other →
      ∀ value : α, decode padded = .ok value ↔ decode text = .ok value) ∧
    ((Schema.list (schema : Schema α)).Interspersed node other →
      ∀ values : List α, decodeList padded = .ok values ↔ decodeList text = .ok values) := by
  constructor
  · intro added value
    have same : (decode padded : Except Json.Error α).toOption = (decode text).toOption :=
      Schema.toOption_read_interspersed schema added spelled again
    rw [← toOption_eq_some_iff, ← toOption_eq_some_iff, same]
  · intro added values
    have listed : (Schema.optional (.list (schema : Schema α))).Interspersed node other := added
    have same : (decodeList padded : Except Json.Error (List α)).toOption =
        (decodeList text).toOption := by
      rw [decodeList, Schema.readMany, toOption_map,
        Schema.toOption_read_interspersed _ listed spelled again, ← toOption_map]
      rfl
    rw [← toOption_eq_some_iff, ← toOption_eq_some_iff, same]

/-- A limit with the value five. -/
def limitNode : Node :=
  .object
    [(Piece.ofText "sampleType", .string (Piece.ofText "Warning")),
      (Piece.ofText "label", .string (Piece.ofText "hot")),
      (Piece.ofText "value", .object
        [(Piece.ofText "valueType", .string (Piece.ofText "IntegerType")),
          (Piece.ofText "integerValue",
            .number ⟨false, ⟨'5', [], List.all_eq_true.mp rfl⟩, none, none, by decide⟩)])]

/-- A number that no double can hold. -/
def hugeToken : Token :=
  ⟨false, ⟨'1', [], List.all_eq_true.mp rfl⟩, none,
    some ⟨false, none, ⟨'9', ['9', '9'], List.all_eq_true.mp rfl⟩⟩, by decide⟩

/-- The same limit with a strange member in each of its objects. One holds what looks like a known
member and a number out of range, the other half a pair of surrogates. -/
def paddedLimitNode : Node :=
  .object
    [(Piece.ofText "sampleType", .string (Piece.ofText "Warning")),
      (Piece.ofText "note", .list
        [.object [(Piece.ofText "label", .null)], .number hugeToken]),
      (Piece.ofText "label", .string (Piece.ofText "hot")),
      (Piece.ofText "value", .object
        [(Piece.ofText "valueType", .string (Piece.ofText "IntegerType")),
          (Piece.ofText "integerValue",
            .number ⟨false, ⟨'5', [], List.all_eq_true.mp rfl⟩, none, none, by decide⟩),
          (Piece.ofText "note", .string [.unit ['d', '8', '0', '0'] 0xD800 rfl rfl])])]

theorem decode_interspersed_limit :
    (limitNode.IsDocument (String.ofList limitNode.spelling) ∧
      paddedLimitNode.IsDocument (String.ofList paddedLimitNode.spelling) ∧
      (schema : Schema Threshold).Interspersed limitNode paddedLimitNode ∧
      decode (String.ofList paddedLimitNode.spelling) =
        .ok (⟨.warning, "hot", .ofInteger 5⟩ : Threshold)) ∧
    (Schema.list (schema : Schema Threshold)).Interspersed (.list [limitNode])
        (.list [paddedLimitNode]) ∧
      decodeList (String.ofList (Node.list [paddedLimitNode]).spelling) =
        .ok [(⟨.warning, "hot", .ofInteger 5⟩ : Threshold)] := by
  have spelled := limitNode.isDocument_spelling
  have again := paddedLimitNode.isDocument_spelling
  have added : (schema : Schema Threshold).Interspersed limitNode paddedLimitNode := by
    refine .tail (.single (.inl ⟨[_], Piece.ofText "note", "note", _, _, rfl, by decide, rfl, rfl⟩))
      (.inr (.inl ⟨[_, _, _], _, _, _, [], ⟨"value", rfl, ?_⟩, rfl, rfl⟩))
    refine .inr ⟨by decide, .inr ⟨by decide, .inl ⟨rfl, .inl ?_⟩⟩⟩
    exact ⟨[_, _], Piece.ofText "note", "note", _, [], rfl, by decide, rfl, rfl⟩
  have listed : (Schema.list (schema : Schema Threshold)).Interspersed (.list [limitNode])
      (.list [paddedLimitNode]) := by
    have item (node other : Node) (gains : (schema : Schema Threshold).Gains node other) :
        (Schema.list (schema : Schema Threshold)).Gains (.list [node]) (.list [other]) :=
      ⟨[], node, other, [], gains, rfl, rfl⟩
    exact Relation.ReflTransGen.lift (fun node => Node.list [node]) item _ _ added
  have read : decode (String.ofList limitNode.spelling) =
      .ok (⟨.warning, "hot", .ofInteger 5⟩ : Threshold) := by
    rw [← toOption_eq_some_iff, decode, Schema.toOption_read_eq_verdict _ spelled]
    rfl
  have readList : decodeList (String.ofList (Node.list [limitNode]).spelling) =
      .ok [(⟨.warning, "hot", .ofInteger 5⟩ : Threshold)] := by
    rw [← toOption_eq_some_iff, decodeList, Schema.readMany, toOption_map,
      Schema.toOption_read_eq_verdict _ (Node.isDocument_spelling _)]
    rfl
  refine ⟨⟨spelled, again, added, ?_⟩, listed, ?_⟩
  · exact ((decode_interspersed spelled again).1 added _).mpr read
  · exact ((decode_interspersed (Node.isDocument_spelling _)
      (Node.isDocument_spelling _)).2 listed _).mpr readList

end Document

end MonitorFeed
