import MonitorFeed.Proofs.Payload.RoundTrip
import MonitorFeed.Proofs.Schema.Omission

/-!
What the texts of payloads leave out: members in which there is nothing, and nulls for anything but
doubles that are not finite.
-/

namespace MonitorFeed

open Json (Step)

namespace Document

variable {α : Type} [Document α]

/-- The steps that lead to the doubles in a value that are not finite. -/
def voids (value : α) : List (List Step) :=
  (schema : Schema α).voids value

/-- The members in a value that hold an optional value, a list or a table, under the steps that lead
to them, and whether there is something in them. -/
def options (value : α) : List (List Step × Bool) :=
  (schema : Schema α).options value

end Document

namespace Payload

theorem isTidy_schema (payload : Payload) :
    (Document.schema : Schema payload.Value).isTidy = true := by
  cases payload <;> rfl

theorem isOptional_schema (payload : Payload) :
    (Document.schema : Schema payload.Value).isOptional = false := by
  cases payload <;> rfl

theorem labels_schema (payload : Payload) :
    (Document.schema : Schema payload.Value).labels "doubleValue" = true := by
  cases payload <;> rfl

/-- The document of a payload, in whatever order the entries of its tables are written, has no member
that is an empty list or object. Its nulls are the doubles that are not finite, one for each, at
the places of these, and so are the null words of its text. A member that holds an optional value,
a list or a table is there when there is something in it, at any depth. -/
theorem encode_omits (payload : Payload) (value : payload.Value) :
    (∃ document, Document.schema.Written value document ∧
      Document.encode value = String.ofList document.compact) ∧
    ∀ document, Document.schema.Written value document →
      (∀ above name member, (above ++ [.member name], member) ∈ document.places →
        member ≠ .list [] ∧ member ≠ .object []) ∧
      document.nulls.Perm (Document.voids value) ∧
      (∀ path ∈ Document.voids value, ∃ above, path = above ++ [.member "doubleValue"]) ∧
      (Document.voids value).length =
        (Document.doubles value).countP (fun x => !Decimal.isFinite x) ∧
      Json.nullWords .outside document.compact = (Document.voids value).length ∧
      ((∀ x ∈ Document.doubles value, Decimal.isFinite x = true) →
        document.nulls = [] ∧ Json.nullWords .outside document.compact = 0) ∧
      ∀ place ∈ Document.options value, place.1 ∈ document.paths ↔ place.2 = true := by
  refine ⟨⟨_, Schema.written_toJson _ value, rfl⟩, fun document written => ?_⟩
  have plain := payload.isOptional_schema
  obtain ⟨dense, nulls, options⟩ := Schema.spares _ payload.isTidy_schema
    (fun option => by rw [plain] at option; cases option) written
  have count : (Document.voids value).length =
      (Document.doubles value).countP (fun x => !Decimal.isFinite x) :=
    Schema.length_voids _ value
  have words : Json.nullWords .outside document.compact = (Document.voids value).length := by
    have counted := Json.nullWords_compact document []
    rw [List.append_nil, nulls.length_eq] at counted
    exact counted
  refine ⟨?_, nulls, Schema.exists_of_mem_voids _ payload.labels_schema value, count, words, ?_,
    options⟩
  · intro above name member found
    have solid := dense above name member found
    refine ⟨?_, ?_⟩ <;>
    · rintro rfl
      cases solid
  · intro finite
    have none : (Document.voids value).length = 0 := by
      rw [count, List.countP_eq_zero]
      intro x double
      simp [finite x double]
    refine ⟨?_, words.trans none⟩
    exact List.eq_nil_of_length_eq_zero (nulls.length_eq.trans none)

theorem encode_omits_loadSeries :
    (Document.schema.toJson loadSeries).nulls =
        [[.member "thresholds", .item 0, .member "value", .member "doubleValue"]] ∧
      [.member "tags"] ∈ (Document.schema.toJson loadSeries).paths ∧
      [.member "unit"] ∉ (Document.schema.toJson loadSeries).paths := by
  have written := Schema.written_toJson Document.schema loadSeries
  obtain ⟨-, nulls, -, -, -, -, options⟩ := (encode_omits .series loadSeries).2 _ written
  have voids : Document.voids loadSeries =
      [[.member "thresholds", .item 0, .member "value", .member "doubleValue"]] := rfl
  have tags : ([.member "tags"], true) ∈ Document.options loadSeries := by decide +kernel
  have unit : ([.member "unit"], false) ∈ Document.options loadSeries := by decide +kernel
  refine ⟨(nulls.trans (.of_eq voids)).eq_singleton, (options _ tags).mpr rfl, ?_⟩
  intro found
  cases (options _ unit).mp found

end Payload

end MonitorFeed
