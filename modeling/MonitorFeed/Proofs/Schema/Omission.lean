import MonitorFeed.Proofs.Json.Places
import MonitorFeed.Proofs.Schema.RoundTrip
import Mathlib.Data.List.Nodup

/-!
What is left out of a document, and what stands in it as a null. Both are told of the value alone:
the documents that may be written for it follow.
-/

namespace MonitorFeed

open Json (Step)

mutual
/-- The steps that lead to the doubles in a value that are not finite. -/
def Schema.voids : {α : Type} → Schema α → α → List (List Step)
  | _, .real, value => if Decimal.isFinite value then [] else [[]]
  | _, .optional content, value => value.toList.flatMap fun value => content.voids value
  | _, .list item, values =>
    values.zipIdx.flatMap fun held => (item.voids held.1).map (.item held.2 :: ·)
  | _, .table entry, table =>
    table.entries.flatMap fun held => (entry.voids held.2).map (.member held.1 :: ·)
  | _, .record _ members view, value => members.voids (view.split value)
  | _, _, _ => []

/-- The steps that lead to the doubles in the values of a record that are not finite. -/
def Members.voids : {β σ : Type} → Members β σ → β → List (List Step)
  | _, _, .nil, () => []
  | _, _, .cons name _ content rest, (value, values) =>
    (content.voids value).map (.member name :: ·) ++ rest.voids values
end

/-- Whether the values of a schema may have nothing to say. -/
def Schema.isSpare : {α : Type} → Schema α → Bool
  | _, .optional _ => true
  | _, .list _ => true
  | _, .table _ => true
  | _, _ => false

mutual
/-- The members in a value that hold an optional value, a list or a table, under the steps that lead
to them, and whether there is something in them. -/
def Schema.options : {α : Type} → Schema α → α → List (List Step × Bool)
  | _, .optional content, value => value.toList.flatMap fun value => content.options value
  | _, .list item, values =>
    values.zipIdx.flatMap fun held => Json.beneath (.item held.2) (item.options held.1)
  | _, .table entry, table =>
    table.entries.flatMap fun held => Json.beneath (.member held.1) (entry.options held.2)
  | _, .record _ members view, value => members.options (view.split value)
  | _, _, _ => []

/-- The members of a record, and in their values, that hold an optional value, a list or a table. -/
def Members.options : {β σ : Type} → Members β σ → β → List (List Step × Bool)
  | _, _, .nil, () => []
  | _, _, .cons name _ content rest, (value, values) =>
    (if content.isSpare then [([.member name], !content.isBlank value)] else []) ++
      Json.beneath (.member name) (content.options value) ++ rest.options values
end

/-- Whether a writer may leave a member out. -/
def Presence.isSparse {α : Type} : Presence α → Bool
  | .sparse => true
  | _ => false

/-- Whether some member of a record is always written. -/
def Members.isFirm : {β σ : Type} → Members β σ → Bool
  | _, _, .nil => false
  | _, _, .cons _ presence _ rest => !presence.isSparse || rest.isFirm

/-- Whether there is something in every document of a value that is not blank. -/
def Schema.isFirm : {α : Type} → Schema α → Bool
  | _, .optional content => content.isFirm && !content.isSpare
  | _, .record _ members _ => members.isFirm
  | _, _ => true

mutual
/-- A schema in which every optional value, list and table that is a member may be left out, and
nothing else can be a null or an empty member. -/
def Schema.isTidy : {α : Type} → Schema α → Bool
  | _, .optional content => content.isTidy && !content.isSpare
  | _, .list item => item.isTidy && !item.isOptional
  | _, .table entry => entry.isTidy && entry.isFirm && !entry.isSpare
  | _, .record _ members _ => members.isTidy
  | _, _ => true

/-- Members each of which is left out when there is nothing in it. -/
def Members.isTidy : {β σ : Type} → Members β σ → Bool
  | _, _, .nil => true
  | _, _, .cons name presence content rest =>
    content.isTidy && content.isFirm && (!content.isSpare || presence.isSparse) &&
      !rest.names.contains name && rest.isTidy
end

/-- Whether the values of a schema are doubles, or optional ones. -/
def Schema.isDouble : {α : Type} → Schema α → Bool
  | _, .real => true
  | _, .optional content => content.isReal
  | _, _ => false

mutual
/-- A schema in which doubles stand under a label only. -/
def Schema.labels (label : String) : {α : Type} → Schema α → Bool
  | _, .real => false
  | _, .optional content => content.labels label
  | _, .list item => item.labels label
  | _, .table entry => entry.labels label
  | _, .record _ members _ => members.labels label
  | _, _ => true

/-- Members whose doubles stand under a label only. -/
def Members.labels (label : String) : {β σ : Type} → Members β σ → Bool
  | _, _, .nil => true
  | _, _, .cons name _ content rest =>
    (content.labels label || (name == label && content.isDouble)) && rest.labels label
end

mutual
/-- There are as many places of doubles that are not finite as there are such doubles. -/
theorem Schema.length_voids : {α : Type} → (schema : Schema α) → (value : α) →
    (schema.voids value).length = (schema.doubles value).countP fun x => !Decimal.isFinite x
  | _, .real, value => by
    by_cases finite : Decimal.isFinite value = true <;>
      simp [Schema.voids, Schema.doubles, finite]
  | _, .optional content, none => rfl
  | _, .optional content, some value => by
    simpa [Schema.voids, Schema.doubles] using content.length_voids value
  | _, .list item, values => by
    have each (held : _ × Nat) : (item.voids held.1).length =
        (item.doubles held.1).countP fun x => !Decimal.isFinite x :=
      item.length_voids held.1
    have indexed := congrArg
      (List.map fun value => (item.doubles value).countP fun x => !Decimal.isFinite x)
      (List.zipIdx_map_fst 0 values)
    rw [List.map_map] at indexed
    simp only [Schema.voids, Schema.doubles, List.length_flatMap, List.length_map,
      List.countP_flatMap, each]
    exact congrArg List.sum indexed
  | _, .table entry, table => by
    have each (held : String × _) : (entry.voids held.2).length =
        (entry.doubles held.2).countP fun x => !Decimal.isFinite x :=
      entry.length_voids held.2
    simp only [Schema.voids, Schema.doubles, List.length_flatMap, List.length_map,
      List.countP_flatMap, each]
    rfl
  | _, .record _ members view, value => members.length_voids (view.split value)
  | _, .text, _ => rfl
  | _, .path, _ => rfl
  | _, .flag, _ => rfl
  | _, .integer, _ => rfl
  | _, .natural, _ => rfl
  | _, .instant, _ => rfl
  | _, .choice _, _ => rfl

theorem Members.length_voids : {β σ : Type} → (members : Members β σ) → (values : β) →
    (members.voids values).length = (members.doubles values).countP fun x => !Decimal.isFinite x
  | _, _, .nil, () => rfl
  | _, _, .cons _ _ content rest, (value, values) => by
    simp only [Members.voids, Members.doubles, List.length_append, List.length_map,
      List.countP_append, content.length_voids value, rest.length_voids values]
end

/-- A double that is not finite is at its own place. -/
private theorem Schema.eq_nil_of_mem_voids {α : Type} {schema : Schema α}
    (double : schema.isDouble = true) {value : α} {path : List Step}
    (found : path ∈ schema.voids value) : path = [] := by
  have real {x : Float} (found : path ∈ Schema.real.voids x) : path = [] := by
    rw [Schema.voids] at found
    split at found
    · cases found
    · exact List.mem_singleton.mp found
  cases schema with
  | real => exact real found
  | optional content =>
    cases content with
    | real =>
      obtain ⟨x, -, found⟩ := List.mem_flatMap.mp found
      exact real found
    | _ => cases double
  | _ => cases double

mutual
/-- Where doubles stand under a label only, so do those that are not finite. -/
theorem Schema.exists_of_mem_voids {label : String} : {α : Type} → (schema : Schema α) →
    schema.labels label = true → ∀ value, ∀ path ∈ schema.voids value,
    ∃ above, path = above ++ [.member label]
  | _, .optional content, labelled, value, path, found => by
    obtain ⟨value, -, found⟩ := List.mem_flatMap.mp found
    exact content.exists_of_mem_voids labelled value path found
  | _, .list item, labelled, values, path, found => by
    obtain ⟨held, -, found⟩ := List.mem_flatMap.mp found
    obtain ⟨path, deeper, rfl⟩ := List.mem_map.mp found
    obtain ⟨above, rfl⟩ := item.exists_of_mem_voids labelled held.1 path deeper
    exact ⟨_ :: above, rfl⟩
  | _, .table entry, labelled, table, path, found => by
    obtain ⟨held, -, found⟩ := List.mem_flatMap.mp found
    obtain ⟨path, deeper, rfl⟩ := List.mem_map.mp found
    obtain ⟨above, rfl⟩ := entry.exists_of_mem_voids labelled held.2 path deeper
    exact ⟨_ :: above, rfl⟩
  | _, .record _ members view, labelled, value, path, found =>
    members.exists_of_mem_voids labelled (view.split value) path found
  | _, .real, labelled, _, _, _ => by cases labelled
  | _, .text, _, _, _, found => by cases found
  | _, .path, _, _, _, found => by cases found
  | _, .flag, _, _, _, found => by cases found
  | _, .integer, _, _, _, found => by cases found
  | _, .natural, _, _, _, found => by cases found
  | _, .instant, _, _, _, found => by cases found
  | _, .choice _, _, _, _, found => by cases found

theorem Members.exists_of_mem_voids {label : String} : {β σ : Type} → (members : Members β σ) →
    members.labels label = true → ∀ values, ∀ path ∈ members.voids values,
    ∃ above, path = above ++ [.member label]
  | _, _, .nil, _, (), _, found => by cases found
  | _, _, .cons name _ content rest, labelled, (value, values), path, found => by
    simp only [Members.labels, Bool.and_eq_true, Bool.or_eq_true, beq_iff_eq] at labelled
    obtain ⟨head, tail⟩ := labelled
    rcases List.mem_append.mp found with found | found
    · obtain ⟨path, deeper, rfl⟩ := List.mem_map.mp found
      rcases head with inner | ⟨rfl, double⟩
      · obtain ⟨above, rfl⟩ := content.exists_of_mem_voids inner value path deeper
        exact ⟨_ :: above, rfl⟩
      · obtain rfl := Schema.eq_nil_of_mem_voids double deeper
        exact ⟨[], rfl⟩
    · exact rest.exists_of_mem_voids tail values path found
end

section Related

variable {α β γ : Type} {related : α → β → Prop} {left : List α} {right : List β}

private theorem perm_flatMap {f : α → List γ} {g : β → List γ}
    (each : List.Forall₂ related left right) (same : ∀ a b, related a b → (g b).Perm (f a)) :
    (right.flatMap g).Perm (left.flatMap f) := by
  induction each with
  | nil => exact .refl _
  | cons head tail ih =>
    rw [List.flatMap_cons, List.flatMap_cons]
    exact (same _ _ head).append ih

private theorem perm_flatMap_zipIdx {f : α × Nat → List γ} {g : β × Nat → List γ}
    (each : List.Forall₂ related left right)
    (same : ∀ a b, related a b → ∀ index, (g (b, index)).Perm (f (a, index))) (first : Nat) :
    ((right.zipIdx first).flatMap g).Perm ((left.zipIdx first).flatMap f) := by
  induction each generalizing first with
  | nil => exact .refl _
  | cons head tail ih =>
    rw [List.zipIdx_cons, List.zipIdx_cons, List.flatMap_cons, List.flatMap_cons]
    exact (same _ _ head first).append (ih (first + 1))

end Related

/-- A document leaves out what there is nothing to say of, and its nulls are the doubles that are
not finite. -/
structure Schema.Spares {α : Type} (schema : Schema α) (value : α) (document : Json) : Prop where
  dense : document.Dense
  nulls : document.nulls.Perm (schema.voids value)
  options : ∀ place ∈ schema.options value, place.1 ∈ document.paths ↔ place.2 = true

/-- Members leave out what there is nothing to say of. -/
structure Members.Spares {β σ : Type} (members : Members β σ) (values : β)
    (written : List (String × Json)) : Prop where
  dense : ∀ member ∈ written, member.2.isHollow = false ∧ member.2.Dense
  nulls : (Json.object written).nulls.Perm (members.voids values)
  options : ∀ place ∈ members.options values,
    place.1 ∈ (Json.object written).paths ↔ place.2 = true

namespace Schema

variable {α : Type}

theorem Spares.leaf {schema : Schema α} {value : α} {document : Json}
    (inside : document.inside = []) (solid : document.isNull = false)
    (voids : schema.voids value = []) (options : schema.options value = []) :
    schema.Spares value document where
  dense := .of_inside_nil inside
  nulls := by
    rw [voids, Json.nulls, Json.places, inside, List.filter_singleton, solid]
    exact .refl _
  options := by
    rw [options]
    exact List.forall_mem_nil _

theorem Spares.real (value : Float) : Schema.real.Spares value (Schema.real.toJson value) := by
  by_cases finite : Decimal.isFinite value = true
  · have number : Schema.real.toJson value = .real value := by simp [toJson, finite]
    rw [number]
    exact .leaf rfl (by simp [Json.isNull, finite]) (by simp [Schema.voids, finite]) rfl
  · have null : Schema.real.toJson value = .null := by simp [toJson, finite]
    have void : Schema.real.voids value = [[]] := by simp [Schema.voids, finite]
    rw [null]
    refine ⟨.of_inside_nil rfl, ?_, List.forall_mem_nil _⟩
    rw [void]
    exact .refl _

theorem Spares.present {content : Schema α} {value : α} {document : Json}
    (inner : content.Spares value document) :
    (Schema.optional content).Spares (some value) document where
  dense := inner.dense
  nulls := by simpa [Schema.voids] using inner.nulls
  options := by simpa [Schema.options] using inner.options

theorem Spares.list {item : Schema α} {values : List α} {items : List Json}
    (each : List.Forall₂ item.Spares values items) :
    (Schema.list item).Spares values (.list items) where
  dense := by
    refine .list fun document member => ?_
    obtain ⟨value, -, spares⟩ := exists_of_mem_right each member
    exact spares.dense
  nulls := by
    rw [Json.nulls_list, Schema.voids]
    exact perm_flatMap_zipIdx each (fun _ _ spares index => spares.nulls.map _) 0
  options := by
    rintro ⟨path, filled⟩ member
    obtain ⟨⟨value, index⟩, held, member⟩ := List.mem_flatMap.mp member
    obtain ⟨place, deeper, same⟩ := List.mem_map.mp member
    cases same
    have found := List.mk_mem_zipIdx_iff_getElem?.mp held
    obtain ⟨document, stands, spares⟩ := exists_of_getElem? each found
    rw [← spares.options place deeper, Json.item_mem_paths]
    constructor
    · rintro ⟨other, also, inside⟩
      obtain rfl := Option.some.inj (stands.symm.trans also)
      exact inside
    · exact fun inside => ⟨document, stands, inside⟩

theorem Spares.table {entry : Schema α} {table : Table α} {entries : List (String × α)}
    {members : List (String × Json)} (same : entries.Perm table.entries)
    (each : List.Forall₂ (fun held member => held.1 = member.1 ∧
      member.2.isHollow = false ∧ entry.Spares held.2 member.2) entries members) :
    (Schema.table entry).Spares table (.object members) where
  dense := by
    refine .object fun member found => ?_
    obtain ⟨held, -, -, solid, spares⟩ := exists_of_mem_right each found
    exact ⟨solid, spares.dense⟩
  nulls := by
    rw [Json.nulls_object, Schema.voids]
    refine (perm_flatMap each ?_).trans (same.flatMap_right _)
    rintro held member ⟨key, -, spares⟩
    rw [key]
    exact spares.nulls.map _
  options := by
    rintro ⟨path, filled⟩ found
    obtain ⟨held, stands, found⟩ := List.mem_flatMap.mp found
    obtain ⟨place, deeper, rest⟩ := List.mem_map.mp found
    cases rest
    obtain ⟨⟨name, document⟩, written, rfl, -, spares⟩ :=
      exists_of_mem_left each (same.mem_iff.mpr stands)
    rw [← spares.options place deeper, Json.member_mem_paths]
    constructor
    · rintro ⟨document, member, inside⟩
      -- Keys are distinct, so the member belongs to the entry itself.
      obtain ⟨other, among, key, -, others⟩ := exists_of_mem_right each member
      have one : other = held :=
        List.inj_on_of_nodup_map table.ordered.nodup (same.mem_iff.mp among) stands key
      subst one
      exact (spares.options place deeper).mpr ((others.options place deeper).mp inside)
    · exact fun inside => ⟨document, written, inside⟩

/-- Where there is nothing to say, there is no double. -/
theorem voids_of_isBlank {content : Schema α} {value : α} (blank : content.isBlank value = true) :
    content.voids value = [] ∧ content.options value = [] := by
  cases content with
  | optional content =>
    cases value with
    | none => exact ⟨rfl, rfl⟩
    | some value => cases blank
  | list item =>
    cases value with
    | nil => exact ⟨rfl, rfl⟩
    | cons head rest => cases blank
  | table entry =>
    obtain ⟨entries, ordered⟩ := value
    cases entries with
    | nil => exact ⟨rfl, rfl⟩
    | cons head rest => cases blank
  | _ => cases blank

theorem isBlank_of_not_isSpare {content : Schema α} (firm : content.isSpare = false) (value : α) :
    content.isBlank value = false := by
  cases content with
  | optional content => cases firm
  | list item => cases firm
  | table entry => cases firm
  | _ => rfl

end Schema

namespace Members

variable {α β σ : Type} {name : String} {presence : Presence α} {content : Schema α}
  {rest : Members β σ} {value : α} {values : β}

/-- Some member of a firm record is written. -/
theorem ne_nil_of_written : {β σ : Type} → {members : Members β σ} → members.isFirm = true →
    {values : β} → {written : List (String × Json)} → members.Written values written →
    written ≠ []
  | _, _, .cons name presence content rest, firm, (value, values), written, each => by
    rw [Members.Written] at each
    split at each
    · rename_i omitted
      have sparse : presence.isSparse = true := by
        cases presence with
        | sparse => rfl
        | _ => cases omitted
      simp only [Members.isFirm, sparse, Bool.not_true, Bool.false_or] at firm
      exact ne_nil_of_written firm each
    · obtain ⟨document, others, rfl, -⟩ := each
      exact List.cons_ne_nil _ _

/-- A step to what a record may leave out begins with the name of a member. -/
theorem exists_of_mem_options : {β σ : Type} → (members : Members β σ) → (values : β) →
    ∀ place ∈ members.options values, ∃ name ∈ members.names, ∃ path,
      place.1 = .member name :: path
  | _, _, .nil, (), _, found => by cases found
  | _, _, .cons name _ content rest, (value, values), place, found => by
    rw [Members.options, List.mem_append, List.mem_append] at found
    rcases found with (found | found) | found
    · split at found
      · obtain rfl := List.mem_singleton.mp found
        exact ⟨name, List.mem_cons_self, [], rfl⟩
      · cases found
    · obtain ⟨inner, -, rfl⟩ := List.mem_map.mp found
      exact ⟨name, List.mem_cons_self, inner.1, rfl⟩
    · obtain ⟨other, member, path, same⟩ := exists_of_mem_options rest values place found
      exact ⟨other, List.mem_cons_of_mem _ member, path, same⟩

/-- What is written for other members has other names. -/
theorem ne_of_written {written : List (String × Json)} (new : name ∉ rest.names)
    (each : rest.Written values written) : ∀ member ∈ written, member.1 ≠ name := by
  rintro member found rfl
  exact new (mem_names_of_written each member found)

/-- A member that is left out, before others. -/
theorem Spares.absent {written : List (String × Json)} (blank : content.isBlank value = true)
    (different : ∀ member ∈ written, member.1 ≠ name) (others : rest.Spares values written) :
    (Members.cons name presence content rest).Spares (value, values) written where
  dense := others.dense
  nulls := by
    rw [Members.voids, (Schema.voids_of_isBlank blank).1]
    exact others.nulls
  options := by
    intro place found
    rw [Members.options, (Schema.voids_of_isBlank blank).2, blank, List.mem_append,
      List.mem_append] at found
    rcases found with (found | found) | found
    · split at found
      · obtain rfl := List.mem_singleton.mp found
        rw [Json.member_mem_paths]
        constructor
        · rintro ⟨document, member, -⟩
          exact absurd rfl (different _ member)
        · intro filled
          cases filled
      · cases found
    · cases found
    · exact others.options place found

/-- A member that is written, before others. -/
theorem Spares.present {document : Json} {written : List (String × Json)}
    (filled : content.isBlank value = false) (solid : document.isHollow = false)
    (new : name ∉ rest.names) (different : ∀ member ∈ written, member.1 ≠ name)
    (inner : content.Spares value document) (others : rest.Spares values written) :
    (Members.cons name presence content rest).Spares (value, values)
      ((name, document) :: written) where
  dense := List.forall_mem_cons.mpr ⟨⟨solid, inner.dense⟩, others.dense⟩
  nulls := by
    have split : (Json.object ((name, document) :: written)).nulls =
        document.nulls.map (.member name :: ·) ++ (Json.object written).nulls := by
      rw [Json.nulls_object, Json.nulls_object, List.flatMap_cons]
    rw [split, Members.voids]
    exact (inner.nulls.map _).append others.nulls
  options := by
    have own {path : List Step} :
        .member name :: path ∈ (Json.object ((name, document) :: written)).paths ↔
          path ∈ document.paths := by
      rw [Json.member_mem_paths]
      constructor
      · rintro ⟨other, member, inside⟩
        rcases List.mem_cons.mp member with same | member
        · cases same
          exact inside
        · exact absurd rfl (different _ member)
      · exact fun inside => ⟨document, List.mem_cons_self, inside⟩
    intro place found
    rw [Members.options, filled, List.mem_append, List.mem_append] at found
    rcases found with (found | found) | found
    · split at found
      · obtain rfl := List.mem_singleton.mp found
        exact ⟨fun _ => rfl, fun _ => own.mpr document.nil_mem_paths⟩
      · cases found
    · obtain ⟨place, deeper, rfl⟩ := List.mem_map.mp found
      exact own.trans (inner.options place deeper)
    · obtain ⟨other, member, path, same⟩ := rest.exists_of_mem_options values place found
      have apart : other ≠ name := fun same => new (same ▸ member)
      rw [← others.options place found, same, Json.member_mem_paths, Json.member_mem_paths]
      simp [apart]

end Members

/-- There is something in what is written for a value of a firm schema that has something to say. -/
theorem Schema.isHollow_of_written : {α : Type} → (schema : Schema α) → schema.isFirm = true →
    {value : α} → schema.isBlank value = false → {document : Json} →
    schema.Written value document → document.isHollow = false
  | _, .optional content, _, none, filled, _, _ => by cases filled
  | _, .optional content, firm, some value, _, document, written => by
    simp only [Schema.isFirm, Bool.and_eq_true, Bool.not_eq_true'] at firm
    exact content.isHollow_of_written firm.1 (isBlank_of_not_isSpare firm.2 value) written
  | _, .list item, _, values, filled, _, written => by
    obtain ⟨items, rfl, each⟩ := written
    cases each with
    | nil => cases filled
    | cons head tail => rfl
  | _, .table entry, _, values, filled, _, written => by
    obtain ⟨entries, members, same, rfl, each⟩ := written
    cases each with
    | nil =>
      have none : values.entries = [] := same.symm.eq_nil
      simp [Schema.isBlank, Table.isEmpty, none] at filled
    | cons head tail => rfl
  | _, .record _ members view, firm, value, _, _, written => by
    obtain ⟨written, rfl, each⟩ := written
    have some := Members.ne_nil_of_written firm each
    simpa [Json.isHollow] using some
  | _, .real, _, value, _, _, written => by
    obtain rfl := written
    by_cases finite : Decimal.isFinite value = true <;> simp [Schema.toJson, finite, Json.isHollow]
  | _, .text, _, _, _, _, written => written ▸ rfl
  | _, .path, _, _, _, _, written => written ▸ rfl
  | _, .flag, _, _, _, _, written => written ▸ rfl
  | _, .integer, _, _, _, _, written => written ▸ rfl
  | _, .natural, _, _, _, _, written => written ▸ rfl
  | _, .instant, _, _, _, _, written => written ▸ rfl
  | _, .choice _, _, _, _, _, written => written ▸ rfl

/-- A member that is written has something to say, given that one which may not be left out is never
blank. -/
private theorem isBlank_of_not_omits {α : Type} {presence : Presence α} {content : Schema α}
    {value : α} (sparing : content.isSpare = false ∨ presence.isSparse = true)
    (written : ¬presence.omits content value = true) : content.isBlank value = false := by
  rcases sparing with firm | sparse
  · exact Schema.isBlank_of_not_isSpare firm value
  · cases presence with
    | sparse => exact Bool.eq_false_iff.mpr written
    | _ => cases sparse

mutual
/-- What may be written for a value of a tidy schema leaves out what there is nothing to say of. -/
theorem Schema.spares : {α : Type} → (schema : Schema α) → schema.isTidy = true → {value : α} →
    (schema.isOptional = true → schema.isBlank value = false) → {document : Json} →
    schema.Written value document → schema.Spares value document
  | _, .optional content, _, none, filled, _, _ => by cases filled rfl
  | _, .optional content, tidy, some value, _, document, written => by
    simp only [Schema.isTidy, Bool.and_eq_true, Bool.not_eq_true'] at tidy
    obtain ⟨inner, firm⟩ := tidy
    exact .present (content.spares inner (fun _ => Schema.isBlank_of_not_isSpare firm value) written)
  | _, .list item, tidy, values, _, _, written => by
    simp only [Schema.isTidy, Bool.and_eq_true, Bool.not_eq_true'] at tidy
    obtain ⟨inner, plain⟩ := tidy
    obtain ⟨items, rfl, each⟩ := written
    refine .list (each.imp fun value document written => ?_)
    exact item.spares inner (fun option => by simp [plain] at option) written
  | _, .table entry, tidy, table, _, _, written => by
    simp only [Schema.isTidy, Bool.and_eq_true, Bool.not_eq_true'] at tidy
    obtain ⟨⟨inner, firm⟩, plain⟩ := tidy
    obtain ⟨entries, members, same, rfl, each⟩ := written
    refine .table same (each.imp fun held member written => ?_)
    obtain ⟨key, written⟩ := written
    have filled := Schema.isBlank_of_not_isSpare plain held.2
    exact ⟨key, entry.isHollow_of_written firm filled written,
      entry.spares inner (fun _ => filled) written⟩
  | _, .record _ members view, tidy, value, _, _, written => by
    obtain ⟨written, rfl, each⟩ := written
    obtain ⟨dense, nulls, options⟩ := members.spares tidy each
    exact ⟨.object dense, nulls, options⟩
  | _, .real, _, value, _, _, written => written ▸ .real value
  | _, .text, _, _, _, _, written => written ▸ .leaf rfl rfl rfl rfl
  | _, .path, _, _, _, _, written => written ▸ .leaf rfl rfl rfl rfl
  | _, .flag, _, _, _, _, written => written ▸ .leaf rfl rfl rfl rfl
  | _, .integer, _, _, _, _, written => written ▸ .leaf rfl rfl rfl rfl
  | _, .natural, _, _, _, _, written => written ▸ .leaf rfl rfl rfl rfl
  | _, .instant, _, _, _, _, written => written ▸ .leaf rfl rfl rfl rfl
  | _, .choice _, _, _, _, _, written => written ▸ .leaf rfl rfl rfl rfl

theorem Members.spares : {β σ : Type} → (members : Members β σ) → members.isTidy = true →
    {values : β} → {written : List (String × Json)} → members.Written values written →
    members.Spares values written
  | _, _, .nil, _, (), _, each => by
    obtain rfl := each
    exact ⟨List.forall_mem_nil _, .refl _, List.forall_mem_nil _⟩
  | _, _, .cons name presence content rest, tidy, (value, values), written, each => by
    simp only [Members.isTidy, Bool.and_eq_true, Bool.or_eq_true, Bool.not_eq_true',
      List.contains_eq_mem, decide_eq_false_iff_not] at tidy
    obtain ⟨⟨⟨⟨inner, firm⟩, sparing⟩, new⟩, tidy⟩ := tidy
    rw [Members.Written] at each
    split at each
    · rename_i omitted
      have blank : content.isBlank value = true := by
        cases presence with
        | sparse => exact omitted
        | _ => cases omitted
      exact .absent blank (Members.ne_of_written new each) (rest.spares tidy each)
    · rename_i kept
      obtain ⟨document, others, rfl, first, each⟩ := each
      have filled := isBlank_of_not_omits sparing kept
      exact .present filled (content.isHollow_of_written firm filled first) new (Members.ne_of_written new each)
        (content.spares inner (fun _ => filled) first) (rest.spares tidy each)
end

end MonitorFeed
