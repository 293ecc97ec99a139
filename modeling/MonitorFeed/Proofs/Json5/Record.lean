import MonitorFeed.Proofs.Json5.RoundTrip
import MonitorFeed.Proofs.Result

/-!
Objects read as records, member by member. A member is what the one entry of its name is read as, or
what its absence means; the entries of other names are up to the other members.
-/

namespace MonitorFeed

open Json5

namespace Json5

/-- Whether a key spells a name. -/
def spells (name : String) (key : List Piece) : Bool :=
  (textOf key).toOption = some name

theorem spells_iff {name : String} {key : List Piece} :
    spells name key = true ↔ textOf key = .ok name := by
  rw [spells, decide_eq_true_iff, toOption_eq_some_iff]

/-- The values that are written under a name. -/
def valuesOf (name : String) (entries : List (List Piece × Node)) : List Node :=
  (entries.filter fun entry => spells name entry.1).map (·.2)

/-- The entries that are written under other names. -/
def entriesBut (name : String) (entries : List (List Piece × Node)) : List (List Piece × Node) :=
  entries.filter fun entry => !spells name entry.1

section Entries

variable {name : String} {key : List Piece} {node : Node} {entries : List (List Piece × Node)}

theorem valuesOf_append (name : String) (before after : List (List Piece × Node)) :
    valuesOf name (before ++ after) = valuesOf name before ++ valuesOf name after := by
  rw [valuesOf, List.filter_append, List.map_append]
  rfl

theorem valuesOf_cons_self (same : spells name key = true) :
    valuesOf name ((key, node) :: entries) = node :: valuesOf name entries := by
  simp [valuesOf, same]

theorem valuesOf_cons_of_not (other : ¬ spells name key = true) :
    valuesOf name ((key, node) :: entries) = valuesOf name entries := by
  simp [valuesOf, other]

theorem entriesBut_append (name : String) (before after : List (List Piece × Node)) :
    entriesBut name (before ++ after) = entriesBut name before ++ entriesBut name after :=
  List.filter_append ..

theorem entriesBut_cons_self (same : spells name key = true) :
    entriesBut name ((key, node) :: entries) = entriesBut name entries :=
  List.filter_cons_of_neg (by simp [same])

theorem entriesBut_cons_of_not (other : ¬ spells name key = true) :
    entriesBut name ((key, node) :: entries) = (key, node) :: entriesBut name entries :=
  List.filter_cons_of_pos (by simp [other])

theorem valuesOf_eq_nil (missing : ∀ entry ∈ entries, textOf entry.1 ≠ .ok name) :
    valuesOf name entries = [] := by
  rw [valuesOf, List.map_eq_nil_iff, List.filter_eq_nil_iff]
  intro entry held same
  exact missing entry held (spells_iff.mp same)

theorem mem_entriesBut {entry : List Piece × Node} :
    entry ∈ entriesBut name entries ↔ entry ∈ entries ∧ ¬ spells name entry.1 = true := by
  rw [entriesBut, List.mem_filter, Bool.not_eq_true', Bool.not_eq_true]

end Entries

end Json5

section Member

variable {α : Type}

/-- Puts what a node is read as into the place of a member, which has to be free. -/
def Schema.fill (content : Schema α) (slot : Option α) (node : Node) : Option (Option α) :=
  if slot.isSome then none else (content.ofNode node).toOption.map some

/-- What comes of the nodes under the name of a member: of a single one what it is read as, of none
what the absence means. There may not be several. -/
def Schema.member (content : Schema α) (absent : Option α) : List Node → Option α
  | [] => absent
  | [node] => (content.ofNode node).toOption
  | _ => none

theorem Schema.foldlM_fill (content : Schema α) (absent : Option α) (nodes : List Node) :
    (nodes.foldlM content.fill none).bind (Option.or · absent) = content.member absent nodes := by
  match nodes with
  | [] => rfl
  | [node] => cases read : (content.ofNode node).toOption <;> simp [member, fill, read]
  | first :: second :: others =>
    cases read : (content.ofNode first).toOption <;> simp [member, fill, read]

end Member

namespace Members

variable {α β σ : Type} {name : String} {presence : Presence α} {content : Schema α}
  {rest : Members β σ}

/-- What the entries of an object are read as, if a record can be. -/
def reading (members : Members β σ) (entries : List (List Piece × Node)) : Option β :=
  (entries.foldlM members.putEntry members.unread).toOption.bind fun slots =>
    (members.complete slots).toOption

/-- An entry of the name of a member goes to its place. -/
private theorem putEntry_named {slot : Option α} {slots : σ} {key : List Piece} {node : Node}
    (named : textOf key = .ok name) :
    ((cons name presence content rest).putEntry (slot, slots) (key, node)).toOption =
      (content.fill slot node).map (·, slots) := by
  rw [putEntry, named, Schema.fill]
  simp only [ofMember, ↓reduceIte, bind, Except.bind]
  cases slot with
  | some held => rfl
  | none => cases content.ofNode node <;> rfl

/-- An entry of another name goes to the other members. -/
private theorem putEntry_unnamed {slot : Option α} {slots : σ} {key : List Piece} {node : Node}
    (other : textOf key ≠ .ok name) :
    ((cons name presence content rest).putEntry (slot, slots) (key, node)).toOption =
      (rest.putEntry slots (key, node)).toOption.map (slot, ·) := by
  rw [putEntry, putEntry]
  cases named : textOf key with
  | error fault => rfl
  | ok given =>
    have different : given ≠ name := fun same => other (same ▸ named)
    simp only [ofMember, different, ↓reduceIte, bind, Except.bind]
    cases rest.ofMember given node slots with
    | error fault => rfl
    | ok read =>
      cases read with
      | some slots => rfl
      | none =>
        simp only [Except.map, Option.map_none]
        cases node.check <;> rfl

/-- The place of a member is filled by the entries of its name, the other places by the others. -/
private theorem foldlM_putEntry_cons (entries : List (List Piece × Node)) (slot : Option α)
    (slots : σ) :
    (entries.foldlM (cons name presence content rest).putEntry (slot, slots)).toOption =
      ((valuesOf name entries).foldlM content.fill slot).bind fun slot =>
        ((entriesBut name entries).foldlM rest.putEntry slots).toOption.map (slot, ·) := by
  induction entries generalizing slot slots with
  | nil => rfl
  | cons entry entries ih =>
    obtain ⟨key, node⟩ := entry
    rw [List.foldlM_cons, toOption_bind]
    by_cases same : spells name key = true
    · rw [putEntry_named (spells_iff.mp same), valuesOf_cons_self same, entriesBut_cons_self same,
        List.foldlM_cons]
      cases content.fill slot node with
      | none => rfl
      | some slot => exact ih slot slots
    · rw [putEntry_unnamed (mt spells_iff.mpr same), valuesOf_cons_of_not same,
        entriesBut_cons_of_not same, List.foldlM_cons, toOption_bind]
      cases (rest.putEntry slots (key, node)).toOption with
      | none => cases (valuesOf name entries).foldlM content.fill slot <;> rfl
      | some slots => exact ih slot slots

theorem reading_cons (entries : List (List Piece × Node)) :
    (cons name presence content rest).reading entries =
      (content.member (presence.absent? content) (valuesOf name entries)).bind fun value =>
        (rest.reading (entriesBut name entries)).map (value, ·) := by
  rw [reading, unread, foldlM_putEntry_cons, ← Schema.foldlM_fill, reading]
  cases (valuesOf name entries).foldlM content.fill none with
  | none => rfl
  | some slot =>
    cases ((entriesBut name entries).foldlM rest.putEntry rest.unread).toOption with
    | none => cases slot.or (presence.absent? content) <;> simp
    | some slots =>
      simp only [Option.bind_some, Option.map_some, complete]
      cases slot.or (presence.absent? content) with
      | none => rfl
      | some value => exact toOption_map _ _

/-- What a list is read as, in place of an object. -/
theorem toOption_ofRow_cons (wanted : String) (index : Nat) (node : Node) (nodes : List Node) :
    ((cons name presence content rest).ofRow wanted index (node :: nodes)).toOption =
      (content.ofNode node).toOption.bind fun value =>
        (rest.ofRow wanted (index + 1) nodes).toOption.map (value, ·) := by
  rw [ofRow]
  cases content.ofNode node with
  | error fault => rfl
  | ok value =>
    simp only [bind, Except.bind]
    cases rest.ofRow wanted (index + 1) nodes <;> rfl

theorem toOption_ofRow_nil (wanted : String) (index : Nat) :
    ((cons name presence content rest).ofRow wanted index []).toOption =
      (presence.absent? content).bind fun value =>
        (rest.ofRow wanted (index + 1) []).toOption.map (value, ·) := by
  rw [ofRow]
  cases presence.absent? content with
  | none => rfl
  | some value =>
    simp only [bind, Except.bind]
    cases rest.ofRow wanted (index + 1) [] <;> rfl

end Members

namespace Schema

variable {α β σ : Type} {label : String} {members : Members β σ} {view : View α β}

theorem toOption_ofNode_object (entries : List (List Piece × Node)) :
    ((record label members view).ofNode (.object entries)).toOption =
      (members.reading entries).map view.build := by
  rw [Members.reading]
  change (entries.foldlM members.putEntry members.unread >>= _).toOption = _
  rw [toOption_bind]
  cases (entries.foldlM members.putEntry members.unread).toOption with
  | none => rfl
  | some slots =>
    simp only [Option.bind_some]
    cases members.complete slots <;> rfl

theorem toOption_ofNode_list (items : List Node) :
    ((record label members view).ofNode (.list items)).toOption =
      (members.ofRow (recordLength label members.names.length) 0 items).toOption.map view.build :=
  toOption_map _ _

end Schema

end MonitorFeed
