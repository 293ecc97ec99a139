import MonitorFeed.Proofs.Schema.Leaves
import MonitorFeed.Proofs.Table
import Mathlib.Data.List.Forall2

/-!
The readers of optional values, lists, tables and records, on the texts that are written for them:
each takes the whole from the readers of its parts.
-/

namespace MonitorFeed

open Json

section Containers

variable {α : Type} {content : List Char → Except Fault (α × List Char)}

theorem takes_absent : Takes (readOptional content) none .null := by
  intro rest _
  rfl

/-- Content that is not written as a null is read as content. -/
theorem takes_present {value : α} {document : Json} (solid : document.isNull = false)
    (taken : Takes content value document) :
    Takes (readOptional content) (some value) document := by
  intro rest closes
  obtain ⟨c, tail, same, visible, -, null⟩ := exists_compact_cons document
  have letter : c ≠ 'n' := by
    intro begins
    rw [null begins] at solid
    cases solid
  have read := taken rest closes
  rw [same, List.cons_append] at read ⊢
  simp only [readOptional, skipSpace_cons visible]
  split
  · rename_i begins
    exact absurd (List.cons_eq_cons.mp begins).1 letter
  · rw [read]
    rfl

theorem takes_list {values : List α} {documents : List Json}
    (taken : List.Forall₂ (Takes content) values documents) :
    Takes (readList content) values (.list documents) := by
  intro rest _
  have text : (Json.list documents).compact ++ rest =
      '[' :: (compactItems documents ++ ']' :: rest) := by
    simp [compact]
  have enough : documents.length < (compactItems documents ++ ']' :: rest).length + 1 := by
    have shorter := length_le_compactItems documents
    simp only [List.length_append, List.length_cons]
    omega
  have scanned := scanItems_compact taken enough rest
  rw [text, readList, atValue_cons rfl]
  simp only [↓reduceIte, scanned, bind, Except.bind, pure, Except.pure, List.drop_succ_cons,
    List.drop_zero]

/-- An object is taken by a reader that folds its members. -/
theorem foldMembers_object {σ : Type}
    {member : String → List Char → σ → Except Fault (σ × List Char)} {state last : σ}
    {members : List (String × Json)} (folds : Folds member state members last)
    (rest : List Char) :
    ∃ inside, (Json.object members).compact ++ rest = '\x7b' :: inside ∧
      foldMembers member (inside.length + 1) true state inside = .ok (last, '\x7d' :: rest) := by
  refine ⟨compactMembers members ++ '\x7d' :: rest, by simp [compact], ?_⟩
  have enough : members.length < (compactMembers members ++ '\x7d' :: rest).length + 1 := by
    have shorter := length_le_compactMembers members
    simp only [List.length_append, List.length_cons]
    omega
  exact foldMembers_compact folds enough rest

/-- A reader of one member that puts its value into a table. -/
def addMember (entry : List Char → Except Fault (α × List Char)) (key : String)
    (text : List Char) (table : Table α) : Except Fault (Table α × List Char) := do
  let (value, text) ← entry (← colon text)
  return (table.insert key value, text)

private theorem folds_addMember {entries : List (String × α)} {members : List (String × Json)}
    (taken : List.Forall₂ (fun held member => held.1 = member.1 ∧ Takes content held.2 member.2)
      entries members) (table : Table α) :
    Folds (addMember content) table members
      (entries.foldl (fun table entry => table.insert entry.1 entry.2) table) := by
  induction taken generalizing table with
  | nil => exact .nil table
  | @cons held member entries members head tail ih =>
    obtain ⟨key, document⟩ := member
    obtain ⟨rfl, taken⟩ := head
    refine .cons ?_ (ih (table.insert held.1 held.2))
    intro rest closes
    simp only [addMember, colon_cons, taken rest closes, bind, Except.bind, pure, Except.pure]

theorem readTable_brace (entry : List Char → Except Fault (α × List Char)) (inside : List Char) :
    readTable entry ('\x7b' :: inside) =
      (foldMembers (addMember entry) (inside.length + 1) true Table.empty inside >>=
        fun read => .ok (read.1, read.2.drop 1)) := by
  rw [readTable, atValue_cons rfl]
  rfl

theorem takes_table {entries : List (String × α)} {members : List (String × Json)}
    (taken : List.Forall₂ (fun held member => held.1 = member.1 ∧ Takes content held.2 member.2)
      entries members) :
    Takes (readTable content) (Table.ofList entries) (.object members) := by
  intro rest _
  obtain ⟨inside, text, folded⟩ := foldMembers_object (folds_addMember taken Table.empty) rest
  rw [text, readTable_brace, folded]
  rfl

end Containers

namespace Members

variable {α β σ : Type}

/-- Reads one member of a record: a strange one is passed over. -/
def take (members : Members β σ) (key : String) (text : List Char) (slots : σ) :
    Except Fault (σ × List Char) := do
  match ← members.scanMember key text slots with
  | some read => return read
  | none => return (slots, ← skipValue (← colon text))

theorem take_self {name : String} {presence : Presence α} {content : Schema α}
    {rest : Members β σ} {text after : List Char} {slots : σ} {value : α}
    (read : content.scan text = .ok (value, after)) :
    (Members.cons name presence content rest).take name (':' :: text) (none, slots) =
      .ok ((some value, slots), after) := by
  simp only [take, scanMember, ↓reduceIte, Option.isSome_none, Bool.false_eq_true, colon_cons, read,
    bind, Except.bind, pure, Except.pure]

theorem take_of_ne {key name : String} (different : key ≠ name) {presence : Presence α}
    {content : Schema α} {rest : Members β σ} {text : List Char} {slot : Option α} {slots : σ} :
    (Members.cons name presence content rest).take key text (slot, slots) =
      (rest.take key text slots).map fun read => ((slot, read.1), read.2) := by
  simp only [take, scanMember, different, ↓reduceIte, bind, Except.bind, pure, Except.pure]
  cases rest.scanMember key text slots with
  | error fault => rfl
  | ok read =>
    cases read with
    | some read => rfl
    | none =>
      simp only [Option.map_none]
      cases colon text with
      | error fault => rfl
      | ok text =>
        simp only
        cases skipValue text <;> rfl

/-- Members of other names leave the place of a member as it is. -/
theorem folds_take_of_ne {name : String} {presence : Presence α} {content : Schema α}
    {rest : Members β σ} {slots last : σ} {written : List (String × Json)}
    (folds : Folds rest.take slots written last)
    (different : ∀ member ∈ written, member.1 ≠ name) (slot : Option α) :
    Folds (Members.cons name presence content rest).take (slot, slots) written (slot, last) := by
  induction folds with
  | nil slots => exact .nil _
  | @cons slots next last key document written read later ih =>
    obtain ⟨first, others⟩ := List.forall_mem_cons.mp different
    refine .cons ?_ (ih others)
    intro after closes
    rw [take_of_ne first, read after closes]
    rfl

end Members

section Records

variable {α β σ : Type} {label : String} {members : Members β σ} {view : View α β}

theorem scan_record (inside : List Char) :
    (Schema.record label members view).scan ('\x7b' :: inside) =
      (foldMembers members.take (inside.length + 1) true members.unread inside >>=
        fun (slots, rest) =>
          match members.complete slots with
          | .ok values => .ok (view.build values, rest.drop 1)
          | .error name => differ (.missingMember name) (abandonObject rest)) := by
  rw [Schema.scan, atValue_cons rfl]
  rfl

/-- A record is read member by member, and what is absent is completed. -/
theorem takes_record {written : List (String × Json)} {slots : σ} {values : β}
    (folds : Folds members.take members.unread written slots)
    (complete : members.complete slots = .ok values) :
    Takes (Schema.record label members view).scan (view.build values) (.object written) := by
  intro rest _
  obtain ⟨inside, text, folded⟩ := foldMembers_object folds rest
  rw [text, scan_record, folded]
  simp only [bind, Except.bind, complete, List.drop_succ_cons, List.drop_zero]

end Records

end MonitorFeed
