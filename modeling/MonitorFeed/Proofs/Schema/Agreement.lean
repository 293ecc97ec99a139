import MonitorFeed.Proofs.Schema.Verdict

/-!
The verdict of a reader where documents are laid out as values are written. There it is what the
schema accepts part by part, whatever the order of the members is.
-/

namespace MonitorFeed

open Json

namespace Members

variable {α β σ : Type}

/-- Puts the value of an entry into the place of its member, which has to be free. -/
def place : {β σ : Type} → Members β σ → σ → String × Node → Option σ
  | _, _, .nil, (), _ => some ()
  | _, _, .cons name _ content rest, (slot, slots), entry =>
    if entry.1 = name then
      if slot.isSome then none else (content.accept entry.2).map fun value => (some value, slots)
    else (rest.place slots entry).map (slot, ·)

/-- What has another name does not matter. -/
theorem named_filter {name other : String} (different : name ≠ other)
    (entries : List (String × Node)) :
    named name (entries.filter (·.1 ≠ other)) = named name entries := by
  rw [named, named, List.filter_filter]
  congr 1
  refine List.filter_congr fun entry _ => ?_
  by_cases same : entry.1 = name
  · simp [same, different]
  · simp [same]

theorem accept_filter : {β σ : Type} → (members : Members β σ) → {other : String} →
    other ∉ members.names → (entries : List (String × Node)) →
    members.accept (entries.filter (·.1 ≠ other)) = members.accept entries
  | _, _, .nil, _, _, _ => rfl
  | _, _, .cons name presence content rest, other, new, entries => by
    obtain ⟨different, new⟩ := not_or.mp (List.mem_cons.not.mp new)
    rw [accept, accept, named_filter (Ne.symm different), accept_filter rest new]

/-- Puts an accepted node into a free place. -/
private def fill (content : Schema α) (slot : Option α) (node : Node) : Option (Option α) :=
  if slot.isSome then none else (content.accept node).map some

private theorem foldlM_fill_none (content : Schema α) (absent : Option α) (nodes : List Node) :
    (nodes.foldlM (fill content) none).bind (Option.or · absent) =
      single? absent content.accept nodes := by
  match nodes with
  | [] => rfl
  | [node] =>
    cases accepted : content.accept node <;> simp [single?, fill, accepted]
  | first :: second :: others =>
    cases accepted : content.accept first <;> simp [single?, fill, accepted]

/-- The place of a member is filled by the entries of its name, the other places by the others. -/
private theorem foldlM_place_cons {name : String} {presence : Presence α} {content : Schema α}
    {rest : Members β σ} (entries : List (String × Node)) (slot : Option α) (slots : σ) :
    entries.foldlM (Members.cons name presence content rest).place (slot, slots) =
      ((named name entries).foldlM (fill content) slot).bind fun slot =>
        ((entries.filter (·.1 ≠ name)).foldlM rest.place slots).map (slot, ·) := by
  induction entries generalizing slot slots with
  | nil => rfl
  | cons entry entries ih =>
    by_cases same : entry.1 = name
    · have filled : (Members.cons name presence content rest).place (slot, slots) entry =
          (fill content slot entry.2).map (·, slots) := by
        simp only [place, same, ↓reduceIte, fill]
        cases slot <;> simp [Function.comp_def]
      have nodes : named name (entry :: entries) = entry.2 :: named name entries := by
        simp [named, same]
      have others : (entry :: entries).filter (·.1 ≠ name) = entries.filter (·.1 ≠ name) := by
        simp [same]
      rw [List.foldlM_cons, filled, nodes, others, List.foldlM_cons]
      cases fill content slot entry.2 with
      | none => rfl
      | some slot => exact ih slot slots
    · have passed : (Members.cons name presence content rest).place (slot, slots) entry =
          (rest.place slots entry).map (slot, ·) := by
        simp only [place, same, ↓reduceIte]
      have nodes : named name (entry :: entries) = named name entries := by
        simp [named, same]
      have others : (entry :: entries).filter (·.1 ≠ name) =
          entry :: entries.filter (·.1 ≠ name) := by
        simp [same]
      rw [List.foldlM_cons, passed, nodes, others, List.foldlM_cons]
      cases rest.place slots entry with
      | none => cases (named name entries).foldlM (fill content) slot <;> rfl
      | some slots => exact ih slot slots

/-- The places that have been filled hold the values that the record accepts. -/
theorem complete_place : {β σ : Type} → (members : Members β σ) → members.isRegular = true →
    (entries : List (String × Node)) →
    ((entries.foldlM members.place members.unread).bind fun slots =>
      (members.complete slots).toOption) = members.accept entries
  | _, _, .nil, _, entries => by
    have placed : entries.foldlM Members.nil.place () = some () := by
      induction entries with
      | nil => rfl
      | cons entry entries ih => exact ih
    rw [unread, placed]
    rfl
  | _, _, .cons name presence content rest, regular, entries => by
    obtain ⟨new, -, regular⟩ := isRegular_cons.mp regular
    have later := complete_place rest regular (entries.filter (·.1 ≠ name))
    rw [accept_filter rest new] at later
    rw [unread, foldlM_place_cons, accept, ← later, ← foldlM_fill_none]
    cases (named name entries).foldlM (fill content) none with
    | none => rfl
    | some slot =>
      cases (entries.filter (·.1 ≠ name)).foldlM rest.place rest.unread with
      | none => cases slot.or (presence.absent? content) <;> simp
      | some slots =>
        simp only [Option.bind_some, Option.map_some, complete]
        cases slot.or (presence.absent? content) with
        | none => rfl
        | some value => exact toOption_map _ _

end Members

section Agreement

variable {α β σ : Type}

private theorem mapM_congr {f g : α → Option β} {values : List α}
    (same : ∀ value ∈ values, f value = g value) : values.mapM f = values.mapM g := by
  induction values with
  | nil => rfl
  | cons value values ih =>
    obtain ⟨head, tail⟩ := List.forall_mem_cons.mp same
    rw [List.mapM_cons, List.mapM_cons, head, ih tail]

private theorem foldlM_congr {f g : σ → α → Option σ} {values : List α}
    (same : ∀ value ∈ values, ∀ state, f state value = g state value) (state : σ) :
    values.foldlM f state = values.foldlM g state := by
  induction values generalizing state with
  | nil => rfl
  | cons value values ih =>
    obtain ⟨head, tail⟩ := List.forall_mem_cons.mp same
    rw [List.foldlM_cons, List.foldlM_cons, head state]
    exact bind_congr (ih tail)

/-- The entries of an object are what it holds. -/
theorem holds_of_mem {written : List (List Piece × Node)} {entries : List (String × Node)}
    (decoded : decodeMembers written = some entries) {name : String} {inner : Node}
    (member : (name, inner) ∈ entries) : (Node.object written).Holds name inner := by
  obtain ⟨held, found, same⟩ := exists_of_mem_right (mapM_eq_some_iff.mp decoded) member
  obtain ⟨given, named, same⟩ := Option.map_eq_some_iff.mp same
  obtain ⟨rfl, rfl⟩ := Prod.mk.inj same
  exact ⟨written, held.1, rfl, found, named⟩

end Agreement

mutual
/-- On a node that is laid out as values are written the verdict is what the schema accepts. -/
theorem Schema.verdict_eq_accept : {α : Type} → (schema : Schema α) →
    schema.isRegular = true ∨ schema.isReal = true → (node : Node) → schema.Shaped node →
    schema.verdict node = schema.accept node
  | _, .text, _, _, _ => rfl
  | _, .path, _, _, _ => rfl
  | _, .flag, _, _, _ => rfl
  | _, .integer, _, _, _ => rfl
  | _, .natural, _, _, _ => rfl
  | _, .real, _, _, _ => rfl
  | _, .instant, _, _, _ => rfl
  | _, .choice kind, _, node, shaped => by
    cases node with
    | object members => exact absurd rfl (shaped members)
    | _ => rfl
  | _, .optional content, regular, node, shaped => by
    have inner : content.isRegular = true ∨ content.isReal = true := by
      rcases regular with regular | real
      · exact (Schema.isRegular_optional.mp regular).symm.imp_left And.left
      · cases real
    rw [Schema.verdict, Schema.accept, content.verdict_eq_accept inner node shaped]
  | _, .list item, regular, node, shaped => by
    have regular : item.isRegular = true := regular.resolve_right Bool.false_ne_true
    cases node with
    | list items =>
      rw [Schema.verdict, Schema.accept, Node.items?, Option.bind_some, Option.bind_some]
      exact mapM_congr fun inner held =>
        item.verdict_eq_accept (.inl regular) inner (shaped items rfl inner held)
    | _ => rfl
  | _, .table entry, regular, node, shaped => by
    have regular : entry.isRegular = true := regular.resolve_right Bool.false_ne_true
    cases node with
    | object written =>
      rw [Schema.verdict, Schema.accept, Node.members?]
      refine Option.bind_congr fun entries decoded => congrArg _ (mapM_congr fun held member => ?_)
      rw [entry.verdict_eq_accept (.inl regular) held.2
        (shaped held.1 held.2 (holds_of_mem decoded member))]
    | _ => rfl
  | _, .record label members view, regular, node, shaped => by
    have regular : members.isRegular = true := regular.resolve_right Bool.false_ne_true
    obtain ⟨plain, inside⟩ := shaped
    cases node with
    | list items => exact absurd rfl (plain items)
    | object written =>
      rw [Schema.verdict, Schema.accept, Node.members?]
      refine Option.bind_congr fun entries decoded => ?_
      have placed : entries.foldlM members.put members.unread =
          entries.foldlM members.place members.unread :=
        foldlM_congr (fun held member => members.put_eq_place regular held.1 held.2
          (inside held.1 held.2 (holds_of_mem decoded member)).2) members.unread
      rw [placed, ← members.complete_place regular]
      cases entries.foldlM members.place members.unread <;> rfl
    | _ => rfl

theorem Members.put_eq_place : {β σ : Type} → (members : Members β σ) →
    members.isRegular = true → (name : String) → (inner : Node) → members.Shaped name inner →
    (slots : σ) → members.put slots (name, inner) = members.place slots (name, inner)
  | _, _, .nil, _, _, _, _, _ => rfl
  | _, _, .cons name presence content rest, regular, given, inner, shaped, (slot, slots) => by
    obtain ⟨-, head, tail⟩ := Members.isRegular_cons.mp regular
    obtain ⟨own, others⟩ := shaped
    rw [Members.put, Members.place, rest.put_eq_place tail given inner others slots]
    by_cases same : given = name
    · rw [content.verdict_eq_accept (.inl head) inner (own same)]
    · rw [if_neg same, if_neg same]
end

/-- A text is read as the value that the schema makes of the node that it spells. -/
theorem Schema.toOption_read {α : Type} {schema : Schema α} (regular : schema.isRegular = true)
    {node : Node} (shaped : schema.Shaped node) {text : String} (spelled : node.IsDocument text) :
    (schema.read text).toOption = schema.accept node := by
  rw [schema.toOption_read_eq_verdict spelled, schema.verdict_eq_accept (.inl regular) node shaped]

end MonitorFeed
