/-!
Tables keyed by text, in the order of their keys. A table has one representation, so equal contents
are equal tables and every writer lists the same order.
-/

namespace MonitorFeed

/-- Entries in strictly increasing order of their keys. -/
def Ascending {α : Type} (entries : List (String × α)) : Prop :=
  entries.Pairwise fun earlier later => earlier.1 < later.1

/-- Puts an entry at its place; an entry with the same key gives way. -/
def insertEntry {α : Type} (key : String) (value : α) : List (String × α) → List (String × α)
  | [] => [(key, value)]
  | entry :: rest =>
    if key < entry.1 then (key, value) :: entry :: rest
    else if key = entry.1 then (key, value) :: rest
    else entry :: insertEntry key value rest

theorem mem_insertEntry {α : Type} {key : String} {value : α} {entries : List (String × α)}
    {entry : String × α} (member : entry ∈ insertEntry key value entries) :
    entry = (key, value) ∨ entry ∈ entries := by
  induction entries with
  | nil => simpa [insertEntry] using member
  | cons head rest ih =>
    unfold insertEntry at member
    split at member
    · simpa using member
    · split at member
      · rcases List.mem_cons.mp member with same | kept
        · exact .inl same
        · exact .inr (List.mem_cons_of_mem _ kept)
      · rcases List.mem_cons.mp member with same | kept
        · exact .inr (same ▸ List.mem_cons_self)
        · exact (ih kept).imp_right (List.mem_cons_of_mem _)

theorem Ascending.insertEntry {α : Type} {entries : List (String × α)} (ordered : Ascending entries)
    (key : String) (value : α) : Ascending (insertEntry key value entries) := by
  induction entries with
  | nil => simp [MonitorFeed.insertEntry, Ascending]
  | cons head rest ih =>
    obtain ⟨first, tail⟩ := List.pairwise_cons.mp ordered
    unfold MonitorFeed.insertEntry
    split
    · rename_i before
      refine List.pairwise_cons.mpr ⟨?_, ordered⟩
      intro later member
      rcases List.mem_cons.mp member with same | kept
      · exact same ▸ before
      · exact String.lt_trans before (first later kept)
    · split
      · rename_i same
        exact List.pairwise_cons.mpr ⟨fun later kept => same ▸ first later kept, tail⟩
      · rename_i notBefore different
        refine List.pairwise_cons.mpr ⟨?_, ih tail⟩
        intro later member
        rcases mem_insertEntry member with same | kept
        · subst same
          exact Std.lt_of_le_of_ne (String.not_lt.mp notBefore) (Ne.symm different)
        · exact first later kept

theorem find?_insertEntry {α : Type} (key asked : String) (value : α)
    (entries : List (String × α)) :
    (insertEntry key value entries).find? (·.1 = asked) =
      if key = asked then some (key, value) else entries.find? (·.1 = asked) := by
  induction entries with
  | nil => by_cases same : key = asked <;> simp [insertEntry, same]
  | cons head rest ih =>
    unfold insertEntry
    split
    · by_cases same : key = asked <;> simp [same]
    · split
      · rename_i replaced
        subst replaced
        by_cases same : head.1 = asked <;> simp [same]
      · rename_i different
        by_cases same : key = asked
        · subst same
          simpa [List.find?_cons, Ne.symm different] using ih
        · simp [List.find?_cons, ih, same]

/-- A finite map from texts to values. -/
structure Table (α : Type) where
  entries : List (String × α)
  ordered : Ascending entries

namespace Table

variable {α β : Type}

instance [BEq α] : BEq (Table α) := ⟨fun left right => left.entries == right.entries⟩

instance [Repr α] : Repr (Table α) := ⟨fun table precedence => reprPrec table.entries precedence⟩

theorem ext {left right : Table α} (same : left.entries = right.entries) : left = right := by
  cases left
  cases right
  cases same
  rfl

/-- The table without entries. -/
def empty : Table α := ⟨[], List.Pairwise.nil⟩

instance : Inhabited (Table α) := ⟨empty⟩

def isEmpty (table : Table α) : Bool := table.entries.isEmpty

/-- Sets the value of a key. -/
def insert (table : Table α) (key : String) (value : α) : Table α :=
  ⟨insertEntry key value table.entries, table.ordered.insertEntry key value⟩

/-- The value of a key. -/
def get? (table : Table α) (key : String) : Option α :=
  (table.entries.find? (·.1 = key)).map (·.2)

@[simp] theorem get?_empty (key : String) : (empty : Table α).get? key = none := rfl

/-- The value set last is found under its key, and no other key is touched. -/
@[simp] theorem get?_insert (table : Table α) (key asked : String) (value : α) :
    (table.insert key value).get? asked = if key = asked then some value else table.get? asked := by
  simp only [get?, insert, find?_insertEntry]
  split <;> rfl

/-- Sets entries one after the other, so the last value of a key stays. -/
def ofList (entries : List (String × α)) : Table α :=
  entries.foldl (fun table entry => table.insert entry.1 entry.2) empty

end Table

end MonitorFeed
