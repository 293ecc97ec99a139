import MonitorFeed.Table
import Mathlib.Data.List.Nodup

/-!
Tables and the order in which their entries are set. Entries with distinct keys make the same table
in whatever order they are set, and of those with one key the last stays.
-/

namespace MonitorFeed

variable {α β : Type} {key : String} {value : α}

/-- Two lists of the same entries that are both in order are equal. -/
theorem Ascending.eq_of_perm {left right : List (String × α)} (leftOrdered : Ascending left)
    (rightOrdered : Ascending right) (same : left.Perm right) : left = right :=
  List.Perm.eq_of_pairwise
    (fun _ _ _ _ before after => absurd before (String.lt_asymm after)) leftOrdered rightOrdered same

theorem Ascending.nodup {entries : List (String × α)} (ordered : Ascending entries) :
    (entries.map Prod.fst).Nodup :=
  List.pairwise_map.mpr (ordered.imp fun before => String.ne_of_lt before)

/-- A new key adds its entry and keeps the others. -/
theorem insertEntry_perm {entries : List (String × α)} (new : key ∉ entries.map Prod.fst) :
    (insertEntry key value entries).Perm ((key, value) :: entries) := by
  induction entries with
  | nil => exact .refl _
  | cons entry rest ih =>
    rw [List.map_cons, List.mem_cons, not_or] at new
    unfold insertEntry
    split
    · exact .refl _
    · split
      · rename_i same
        exact absurd same new.1
      · exact ((ih new.2).cons entry).trans (.swap _ _ _)

namespace Table

/-- Setting entries whose keys are distinct and new adds just these entries. -/
private theorem foldl_insert_perm {entries : List (String × α)} {table : Table α}
    (distinct : ((entries ++ table.entries).map Prod.fst).Nodup) :
    (entries.foldl (fun table entry => table.insert entry.1 entry.2) table).entries.Perm
      (entries ++ table.entries) := by
  induction entries generalizing table with
  | nil => exact .refl _
  | cons entry rest ih =>
    rw [List.cons_append, List.map_cons, List.nodup_cons] at distinct
    have new : entry.1 ∉ table.entries.map Prod.fst := fun member =>
      distinct.1 (by rw [List.map_append]; exact List.mem_append_right _ member)
    have added : (table.insert entry.1 entry.2).entries.Perm (entry :: table.entries) :=
      insertEntry_perm new
    have moved : (rest ++ (table.insert entry.1 entry.2).entries).Perm
        (entry :: (rest ++ table.entries)) :=
      (added.append_left rest).trans List.perm_middle
    rw [List.foldl_cons]
    refine (ih ?_).trans moved
    exact (moved.map Prod.fst).nodup_iff.mpr (List.nodup_cons.mpr distinct)

/-- Entries with distinct keys are the entries of the table that they make. -/
theorem entries_ofList_perm {entries : List (String × α)}
    (distinct : (entries.map Prod.fst).Nodup) : (ofList entries).entries.Perm entries := by
  have kept : (ofList entries).entries.Perm (entries ++ (empty : Table α).entries) :=
    foldl_insert_perm (by simpa [empty] using distinct)
  rwa [show (empty : Table α).entries = [] from rfl, List.append_nil] at kept

/-- A table is what its entries make, in whatever order they are set. -/
theorem ofList_of_perm {table : Table α} {entries : List (String × α)}
    (same : entries.Perm table.entries) : ofList entries = table := by
  have distinct := (same.map Prod.fst).nodup_iff.mpr table.ordered.nodup
  have kept := (entries_ofList_perm distinct).trans same
  exact Table.ext ((ofList entries).ordered.eq_of_perm table.ordered kept)

/-- Under each key stands the value that was set last. -/
theorem get?_foldl_insert (entries : List (String × α)) (table : Table α) (key : String) :
    (entries.foldl (fun table entry => table.insert entry.1 entry.2) table).get? key =
      (((entries.filter (·.1 = key)).map (·.2)).getLast?).or (table.get? key) := by
  induction entries generalizing table with
  | nil => rfl
  | cons entry rest ih =>
    rw [List.foldl_cons, ih, get?_insert]
    by_cases same : entry.1 = key
    · rw [List.filter_cons_of_pos (by simpa using same), List.map_cons, List.getLast?_cons,
        if_pos same]
      cases ((rest.filter (·.1 = key)).map (·.2)).getLast? <;> rfl
    · rw [List.filter_cons_of_neg (by simpa using same), if_neg same]

theorem get?_ofList (entries : List (String × α)) (key : String) :
    (ofList entries).get? key = ((entries.filter (·.1 = key)).map (·.2)).getLast? := by
  rw [ofList, get?_foldl_insert, get?_empty, Option.or_none]

theorem mem_entries_iff {table : Table α} :
    (key, value) ∈ table.entries ↔ table.get? key = some value := by
  rw [get?, Option.map_eq_some_iff]
  constructor
  · intro member
    cases found : table.entries.find? (·.1 = key) with
    | none =>
      have other := List.find?_eq_none.mp found _ member
      exact absurd (by simp) other
    | some entry =>
      have same : entry.1 = key := by simpa using List.find?_some found
      have only := List.inj_on_of_nodup_map table.ordered.nodup (List.mem_of_find?_eq_some found)
        member same
      exact ⟨entry, rfl, congrArg Prod.snd only⟩
  · rintro ⟨⟨held, value⟩, found, rfl⟩
    obtain rfl : held = key := by simpa using List.find?_some found
    exact List.mem_of_find?_eq_some found

/-- The entries of a table are among those that were set. -/
theorem mem_of_mem_ofList {entries : List (String × α)} {entry : String × α}
    (member : entry ∈ (ofList entries).entries) : entry ∈ entries := by
  obtain ⟨key, value⟩ := entry
  rw [mem_entries_iff, get?_ofList] at member
  obtain ⟨⟨held, content⟩, found, rfl⟩ := List.mem_map.mp (List.mem_of_getLast? member)
  obtain ⟨stands, same⟩ := List.mem_filter.mp found
  obtain rfl := of_decide_eq_true same
  exact stands

theorem mem_insert_self (table : Table α) (key : String) (value : α) :
    (key, value) ∈ (table.insert key value).entries := by
  rw [mem_entries_iff, get?_insert, if_pos rfl]

/-- The entries of other keys are not touched. -/
theorem mem_insert_of_ne {table : Table α} {entry : String × α} (other : key ≠ entry.1) :
    entry ∈ (table.insert key value).entries ↔ entry ∈ table.entries := by
  obtain ⟨held, content⟩ := entry
  rw [mem_entries_iff, mem_entries_iff, get?_insert, if_neg other]

/-- A table is known by its values. -/
theorem ext_get? {left right : Table α} (same : ∀ key, left.get? key = right.get? key) :
    left = right := by
  refine ext (left.ordered.eq_of_perm right.ordered ?_)
  rw [List.perm_ext_iff_of_nodup left.ordered.nodup.of_map right.ordered.nodup.of_map]
  rintro ⟨key, value⟩
  rw [mem_entries_iff, mem_entries_iff, same]

/-- The table with every value replaced by its image. -/
def map (f : α → β) (table : Table α) : Table β where
  entries := table.entries.map fun entry => (entry.1, f entry.2)
  ordered := by
    unfold Ascending
    rw [List.pairwise_map]
    exact table.ordered

end Table

end MonitorFeed
