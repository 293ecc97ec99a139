import MonitorFeed.Proofs.Schema.RoundTrip
import Mathlib.Data.List.Perm.Basic

/-!
Trees of documents. Every text that may be written for a value is read as some tree, if the values of
its schema are nested no deeper than a tree may be. The members of the tree stand in the order of
their names, and numbers may be integers in it, but the same value is made of it.
-/

namespace MonitorFeed

open Json

mutual
/-- The number of levels to which the values of a schema are nested. -/
def Schema.depth : {α : Type} → Schema α → Nat
  | _, .optional content => content.depth
  | _, .list item => item.depth + 1
  | _, .table entry => entry.depth + 1
  | _, .record _ members _ => members.depth + 1
  | _, _ => 0

/-- The number of levels to which the values of members are nested. -/
def Members.depth : {β σ : Type} → Members β σ → Nat
  | _, _, .nil => 0
  | _, _, .cons _ _ content rest => max content.depth rest.depth
end

section Scans

variable {depth : Nat}

private theorem scanTree_quote (rest : List Char) :
    scanTree depth ('"' :: rest) = (scanText rest).map fun (value, rest) => (.string value, rest) := by
  cases depth <;> rfl

private theorem scanTree_minus (rest : List Char) :
    scanTree depth ('-' :: rest) =
      (scanNumber true rest).map fun (n, rest) => (n.tree, rest) := by
  cases depth <;> rfl

private theorem scanTree_digit {c : Char} (digit : c.isDigit = true) (rest : List Char) :
    scanTree depth (c :: rest) =
      (scanNumber false (c :: rest)).map fun (n, rest) => (n.tree, rest) := by
  have visible := (numeral_ne (Decimal.isNumeral_of_isDigit digit)).1
  have other (letter : Char) (plain : letter.isDigit = false) : c ≠ letter := by
    rintro rfl
    rw [plain] at digit
    cases digit
  rw [scanTree, skipSpace_cons visible]
  simp only [other 'n' rfl, other 't' rfl, other 'f' rfl, other '-' rfl, digit, ↓reduceIte]

theorem takes_tree_null : Takes (scanTree depth) .null .null :=
  fun _ _ => by cases depth <;> rfl

theorem takes_tree_flag (value : Bool) : Takes (scanTree depth) (.flag value) (.flag value) :=
  fun _ _ => by cases value <;> cases depth <;> rfl

theorem takes_tree_string (value : String) :
    Takes (scanTree depth) (.string value) (.string value) := by
  intro rest _
  rw [compact, writeText_append, scanTree_quote, scanText_written]
  rfl

/-- An integer of a word stays what it is. -/
theorem takes_tree_integer {n : Int} (least : Int64.minValue.toInt ≤ n)
    (greatest : n ≤ largestWord) : Takes (scanTree depth) (.integer n) (.integer n) := by
  intro rest closes
  have smallest : Int64.minValue.toInt = -2 ^ 63 := rfl
  rw [compact]
  cases n with
  | ofNat n =>
    have fits : Fits false n := by
      have cast := Int.ofNat_eq_natCast n
      simp only [Fits, Bool.false_eq_true, ↓reduceIte]
      omega
    have scanned := scanNumber_naturalText fits closes
    obtain ⟨c, tail, text, digit⟩ := Decimal.naturalText_eq_cons n
    rw [text] at scanned
    rw [Decimal.integerText, text, List.cons_append, scanTree_digit digit, ← List.cons_append,
      scanned]
    rfl
  | negSucc n =>
    have fits : Fits true (n + 1) := by
      have cast := Int.negSucc_eq n
      refine ⟨Nat.succ_pos n, ?_⟩
      omega
    rw [Decimal.integerText, List.cons_append, scanTree_minus, scanNumber_naturalText fits closes]
    rfl

private theorem scanTree_list (inside : List Char) :
    scanTree (depth + 1) ('[' :: inside) =
      (readList (scanTree depth) ('[' :: inside)).map fun (items, rest) => (.list items, rest) := by
  have scanned : scanTree (depth + 1) ('[' :: inside) =
      (scanItems (scanTree depth) (inside.length + 1) true inside >>=
        fun (items, rest) => .ok (.list items, rest.drop 1)) := rfl
  have read : readList (scanTree depth) ('[' :: inside) =
      (scanItems (scanTree depth) (inside.length + 1) true inside >>=
        fun (items, rest) => .ok (items, rest.drop 1)) := rfl
  rw [scanned, read]
  cases scanItems (scanTree depth) (inside.length + 1) true inside <;> rfl

theorem takes_tree_list {trees items : List Json}
    (taken : List.Forall₂ (Takes (scanTree depth)) trees items) :
    Takes (scanTree (depth + 1)) (.list trees) (.list items) := by
  intro rest closes
  have read := takes_list taken rest closes
  have text : (Json.list items).compact ++ rest = '[' :: (compactItems items ++ ']' :: rest) := by
    simp [compact]
  rw [text] at read ⊢
  rw [scanTree_list, read]
  rfl

/-- Reads one member of a tree. -/
private def growMember (depth : Nat) (key : String) (text : List Char)
    (entries : List (String × Json)) : Except Fault (List (String × Json) × List Char) := do
  let (value, text) ← scanTree depth (← colon text)
  return (insertEntry key value entries, text)

/-- The members of an object are its trees under the same names. -/
abbrev TreesOf (depth : Nat) : List (String × Json) → List (String × Json) → Prop :=
  List.Forall₂ fun tree member => tree.1 = member.1 ∧ Takes (scanTree depth) tree.2 member.2

private theorem folds_growMember {trees members : List (String × Json)}
    (grown : TreesOf depth trees members) (table : Table Json) :
    Folds (growMember depth) table.entries members
      (trees.foldl (fun table tree => table.insert tree.1 tree.2) table).entries := by
  induction grown generalizing table with
  | nil => exact .nil _
  | @cons tree member trees members head tail ih =>
    obtain ⟨name, document⟩ := member
    obtain ⟨rfl, taken⟩ := head
    refine .cons (fun rest closes => ?_) (ih (table.insert tree.1 tree.2))
    simp only [growMember, colon_cons, taken rest closes, bind, Except.bind, pure, Except.pure]
    rfl

private theorem scanTree_object (inside : List Char) :
    scanTree (depth + 1) ('\x7b' :: inside) =
      (foldMembers (growMember depth) (inside.length + 1) true [] inside).map
        fun (entries, rest) => (.object entries, rest.drop 1) := by
  have folded : scanTree (depth + 1) ('\x7b' :: inside) =
      (foldMembers (growMember depth) (inside.length + 1) true [] inside >>=
        fun (entries, rest) => .ok (.object entries, rest.drop 1)) := rfl
  rw [folded]
  cases foldMembers (growMember depth) (inside.length + 1) true [] inside <;> rfl

/-- The entries of the tree of an object are in the order of their names. -/
theorem takes_tree_object {trees members : List (String × Json)}
    (grown : TreesOf depth trees members) :
    Takes (scanTree (depth + 1)) (.object (Table.ofList trees).entries) (.object members) := by
  intro rest _
  obtain ⟨inside, text, folded⟩ := foldMembers_object (folds_growMember grown Table.empty) rest
  have started : (Table.empty : Table Json).entries = [] := rfl
  rw [started] at folded
  rw [text, scanTree_object, folded]
  rfl

theorem TreesOf.map_fst {trees members : List (String × Json)} (grown : TreesOf depth trees members) :
    trees.map Prod.fst = members.map Prod.fst :=
  map_fst_eq_of_forall₂ grown And.left

end Scans

/-- A document is read, through a number of levels, as a tree of which a reader makes a value. -/
def Json.Grows {α : Type} (depth : Nat) (read : List Char → Except Fault (α × List Char))
    (value : α) (document : Json) : Prop :=
  ∃ tree, Takes (scanTree depth) tree document ∧ Takes read value tree ∧
    tree.isNull = document.isNull

namespace Json.Grows

variable {depth : Nat} {α : Type} {read : List Char → Except Fault (α × List Char)} {value : α}

/-- A document that is its own tree. -/
theorem itself {document : Json} (same : Takes (scanTree depth) document document)
    (taken : Takes read value document) : Grows depth read value document :=
  ⟨document, same, taken, rfl⟩

/-- A double may grow into an integer, of which the same double is made. -/
theorem real {x : Float} (finite : Decimal.isFinite x = true) (back : ReadsBack x) :
    Grows depth readReal x (.real x) := by
  have taken := takes_real finite back
  have solid : (Json.real x).isNull = false := by simp [isNull, finite]
  obtain ⟨c, tail, text, visible, -, -⟩ := exists_compact_cons (.real x)
  have alone := taken [] Closes.nil
  rw [List.append_nil, text] at alone
  -- The number is scanned to the end of the text, so it is scanned the same before what follows.
  have grows {negative : Bool} {digits : List Char}
      (reads : ∀ rest, scanTree depth (c :: tail ++ rest) =
        (scanNumber negative (digits ++ rest)).map fun (n, rest) => (n.tree, rest))
      (read : (scanNumber negative digits >>= fun (n, rest) => .ok (n.toFloat, rest)) =
        .ok (x, [])) :
      Grows depth readReal x (.real x) := by
    cases scanned : scanNumber negative digits with
    | error fault =>
      rw [scanned] at read
      cases read
    | ok result =>
      obtain ⟨number, left⟩ := result
      rw [scanned] at read
      obtain ⟨rfl, rfl⟩ := Prod.mk.inj (Except.ok.inj read)
      obtain ⟨-, same⟩ := stable_scanNumber negative scanned
      have word := isWord_scanNumber scanned
      refine ⟨number.tree, fun rest closes => ?_, ?_, ?_⟩
      · rw [text, reads, same rest closes]
        rfl
      · cases number with
        | natural n =>
          intro rest closes
          exact readNumber_naturalText word closes
        | negative magnitude =>
          obtain ⟨positive, within⟩ := word
          obtain ⟨n, rfl⟩ := Nat.exists_eq_succ_of_ne_zero (Nat.ne_of_gt positive)
          intro rest closes
          exact readNumber_minus_naturalText positive within closes
        | real y => exact taken
      · cases number with
        | real y => rfl
        | _ => rw [solid]; rfl
  by_cases minus : c = '-'
  · subst minus
    rw [readReal, readNumber_minus] at alone
    exact grows (fun rest => scanTree_minus (tail ++ rest)) alone
  · by_cases digit : c.isDigit = true
    · rw [readReal, readNumber_digit digit] at alone
      exact grows (fun rest => scanTree_digit digit (tail ++ rest)) alone
    · simp only [readReal, readNumber, atValue_cons visible, minus, digit, ↓reduceIte,
        Bool.false_eq_true] at alone
      exact absurd alone (refuse_ne_ok _)

theorem list {values : List α} {items : List Json}
    (each : List.Forall₂ (Grows depth read) values items) :
    Grows (depth + 1) (readList read) values (.list items) := by
  have grown : ∃ trees, List.Forall₂ (Takes (scanTree depth)) trees items ∧
      List.Forall₂ (Takes read) values trees := by
    induction each with
    | nil => exact ⟨[], .nil, .nil⟩
    | cons head _ ih =>
      obtain ⟨tree, grown, taken, -⟩ := head
      obtain ⟨trees, later, others⟩ := ih
      exact ⟨tree :: trees, .cons grown later, .cons taken others⟩
  obtain ⟨trees, grown, taken⟩ := grown
  exact ⟨.list trees, takes_tree_list grown, takes_list taken, rfl⟩

/-- The entries of a table may be written in any order; those of its tree have an order of their
own. -/
theorem table {table : Table α} {entries : List (String × α)} {members : List (String × Json)}
    (same : entries.Perm table.entries)
    (each : List.Forall₂ (fun held member =>
      held.1 = member.1 ∧ Grows depth read held.2 member.2) entries members) :
    Grows (depth + 1) (readTable read) table (.object members) := by
  have grown : ∃ trees, TreesOf depth trees members ∧ List.Forall₂ (fun tree held =>
      held.1 = tree.1 ∧ Takes read held.2 tree.2) trees entries := by
    clear same
    induction each with
    | nil => exact ⟨[], .nil, .nil⟩
    | @cons held member _ _ head _ ih =>
      obtain ⟨key, tree, grown, taken, -⟩ := head
      obtain ⟨trees, later, others⟩ := ih
      exact ⟨(member.1, tree) :: trees, .cons ⟨rfl, grown⟩ later, .cons ⟨key, taken⟩ others⟩
  obtain ⟨trees, grown, taken⟩ := grown
  have keys : trees.map Prod.fst = entries.map Prod.fst :=
    map_fst_eq_of_forall₂ taken fun head => head.1.symm
  have distinct : (trees.map Prod.fst).Nodup :=
    keys ▸ (same.map Prod.fst).nodup_iff.mpr table.ordered.nodup
  obtain ⟨sorted, each, moved⟩ := List.perm_comp_forall₂ (Table.entries_ofList_perm distinct) taken
  have taken : Takes (readTable read) _ _ := takes_table each.flip
  rw [Table.ofList_of_perm (moved.trans same)] at taken
  exact ⟨_, takes_tree_object grown, taken, rfl⟩

end Json.Grows

/-- What may be written for a value grows into a tree of which the settled value is made. -/
def Schema.Regrows {α : Type} (schema : Schema α) : Prop :=
  schema.isRegular = true → ∀ {depth}, schema.depth ≤ depth →
    ∀ {value document}, schema.Written value document →
    (∀ x ∈ schema.doubles value, Decimal.isFinite x = true → ReadsBack x) →
    Grows depth schema.scan (schema.settle value) document

/-- The members that may be written for the values of a record grow into trees that hold what is
settled of the values. -/
def Members.Regrows {β σ : Type} (members : Members β σ) : Prop :=
  members.isRegular = true → ∀ {depth}, members.depth ≤ depth →
    ∀ {values written}, members.Written values written →
    (∀ x ∈ members.doubles values, Decimal.isFinite x = true → ReadsBack x) →
    ∃ trees, TreesOf depth trees written ∧ members.Fills (members.settle values) trees

namespace Schema

variable {α : Type}

theorem Regrows.optional {content : Schema α} (inner : content.Regrows) :
    (Schema.optional content).Regrows := by
  intro regular depth enough value document written doubles
  cases value with
  | none =>
    obtain rfl : document = .null := written
    exact .itself takes_tree_null takes_absent
  | some value =>
    have written : content.Written value document := written
    have doubles : ∀ x ∈ content.doubles value, Decimal.isFinite x = true → ReadsBack x := by
      intro x member
      exact doubles x (by simpa [Schema.doubles] using member)
    by_cases real : content.isReal = true
    · cases content with
      | real =>
        obtain rfl : document = Schema.real.toJson value := written
        by_cases finite : Decimal.isFinite value = true
        · have back := doubles value (by simp [Schema.doubles]) finite
          obtain ⟨tree, grown, taken, solid⟩ : Grows depth readReal value (.real value) :=
            .real finite back
          have settled : (Schema.optional .real).settle (some value) = some value := by
            simp [settle, isWritable, finite]
          have document : Schema.real.toJson value = .real value := if_pos finite
          rw [settled, document]
          refine ⟨tree, grown, takes_present ?_ taken, solid⟩
          rw [solid]
          simp [isNull, finite]
        · have settled : (Schema.optional .real).settle (some value) = none := by
            simp [settle, isWritable, finite]
          have document : Schema.real.toJson value = .null := if_neg finite
          rw [settled, document]
          exact .itself takes_tree_null takes_absent
      | _ => cases real
    · obtain ⟨solid, present⟩ := (isRegular_optional.mp regular).resolve_left real
      have null := isNull_of_written solid present written
      obtain ⟨tree, grown, taken, same⟩ := inner solid enough written doubles
      rw [settle_some solid]
      exact ⟨tree, grown, takes_present (same.trans null) taken, same⟩

theorem Regrows.list {item : Schema α} (inner : item.Regrows) : (Schema.list item).Regrows := by
  intro regular depth enough values document written doubles
  obtain ⟨depth, rfl⟩ := Nat.exists_eq_add_of_le' (Nat.le_trans (Nat.le_add_left 1 _) enough)
  obtain ⟨items, rfl, each⟩ := written
  have back : ∀ value ∈ values, ∀ x ∈ item.doubles value, Decimal.isFinite x = true →
      ReadsBack x := by
    intro value member x double
    exact doubles x (List.mem_flatMap.mpr ⟨value, member, double⟩)
  have grown : List.Forall₂ (Grows depth item.scan) (values.map item.settle) items := by
    rw [List.forall₂_map_left_iff]
    refine List.Forall₂.imp ?_ ((List.forall₂_and_left _ _).mpr ⟨back, each⟩)
    rintro value document ⟨doubles, written⟩
    exact inner regular (Nat.le_of_succ_le_succ enough) written doubles
  exact .list grown

theorem Regrows.table {entry : Schema α} (inner : entry.Regrows) :
    (Schema.table entry).Regrows := by
  intro regular depth enough table document written doubles
  obtain ⟨depth, rfl⟩ := Nat.exists_eq_add_of_le' (Nat.le_trans (Nat.le_add_left 1 _) enough)
  obtain ⟨entries, members, same, rfl, each⟩ := written
  have back : ∀ held ∈ entries, ∀ x ∈ entry.doubles held.2, Decimal.isFinite x = true →
      ReadsBack x := by
    intro held member x double
    exact doubles x (List.mem_flatMap.mpr ⟨held, same.mem_iff.mp member, double⟩)
  have grown : List.Forall₂ (fun held member =>
      held.1 = member.1 ∧ Grows depth entry.scan held.2 member.2)
      (entries.map fun held => (held.1, entry.settle held.2)) members := by
    rw [List.forall₂_map_left_iff]
    refine List.Forall₂.imp ?_ ((List.forall₂_and_left _ _).mpr ⟨back, each⟩)
    rintro held member ⟨doubles, key, written⟩
    exact ⟨key, inner regular (Nat.le_of_succ_le_succ enough) written doubles⟩
  exact .table (same.map _) grown

end Schema

namespace Members

variable {α β σ : Type}

/-- The tree of a record: entries under the names of its members that hold what is settled of its
values. -/
theorem Regrows.exists_table {members : Members β σ} (inner : members.Regrows)
    (regular : members.isRegular = true) {depth : Nat} (enough : members.depth ≤ depth)
    {values : β} {written : List (String × Json)} (each : members.Written values written)
    (doubles : ∀ x ∈ members.doubles values, Decimal.isFinite x = true → ReadsBack x) :
    ∃ table : Table Json, Takes (scanTree (depth + 1)) (.object table.entries) (.object written) ∧
      (∀ entry ∈ table.entries, entry.1 ∈ members.names) ∧
      members.Fills (members.settle values) table.entries := by
  obtain ⟨trees, grown, fills⟩ := inner regular enough each doubles
  have names := sublist_names_of_written each
  rw [← grown.map_fst] at names
  have moved := Table.entries_ofList_perm (names.nodup (nodup_names regular))
  refine ⟨Table.ofList trees, takes_tree_object grown, fun entry held => ?_,
    fills.congr fun entry _ => moved.mem_iff⟩
  exact names.subset (List.mem_map_of_mem (moved.mem_iff.mp held))

/-- A record is read from entries that hold its values, in the order of their names. -/
theorem Fills.takes {members : Members β σ} (regular : members.isRegular = true) {values : β}
    {table : Table Json} (fills : members.Fills values table.entries)
    (known : ∀ entry ∈ table.entries, entry.1 ∈ members.names) (label : String)
    (view : View α β) :
    Takes (Schema.record label members view).scan (view.build values) (.object table.entries) := by
  obtain ⟨slots, folds, complete⟩ := fills.folds regular table.ordered.nodup known
  exact takes_record folds complete

section Insert

variable {name key : String} {presence : Presence α} {content : Schema α} {rest : Members β σ}
  {value : α} {values : β} {table : Table Json} {document : Json}

/-- A new entry under the name of a member changes its value and no other. -/
theorem Fills.insert_self (regular : (Members.cons name presence content rest).isRegular = true)
    (fills : (Members.cons name presence content rest).Fills (value, values) table.entries)
    {changed : α} (taken : Takes content.scan changed document) :
    (Members.cons name presence content rest).Fills (changed, values)
      (table.insert name document).entries := by
  obtain ⟨new, -, -⟩ := isRegular_cons.mp regular
  refine ⟨.inl ⟨document, table.mem_insert_self name document, taken⟩,
    fills.2.congr fun entry among => Table.mem_insert_of_ne ?_⟩
  rintro rfl
  exact new among

/-- A new entry under another name leaves the value of a member. -/
theorem Fills.insert_of_ne (other : key ≠ name)
    (fills : (Members.cons name presence content rest).Fills (value, values) table.entries)
    {changed : β} (later : rest.Fills changed (table.insert key document).entries) :
    (Members.cons name presence content rest).Fills (value, changed)
      (table.insert key document).entries := by
  refine ⟨?_, later⟩
  rcases fills.1 with ⟨own, held, taken⟩ | ⟨missing, absent⟩
  · exact .inl ⟨own, (Table.mem_insert_of_ne other).mpr held, taken⟩
  · refine .inr ⟨fun entry held same => ?_, absent⟩
    rw [← same] at other
    exact missing entry ((Table.mem_insert_of_ne other).mp held) same

end Insert

theorem Regrows.cons {name : String} {presence : Presence α} {content : Schema α}
    {rest : Members β σ} (head : content.Regrows) (tail : rest.Regrows) :
    (Members.cons name presence content rest).Regrows := by
  rintro regular depth enough ⟨value, values⟩ written each doubles
  obtain ⟨new, regular, others⟩ := isRegular_cons.mp regular
  obtain ⟨first, following⟩ := Nat.max_le.mp enough
  obtain ⟨back, later⟩ := List.forall_mem_append.mp doubles
  rw [Members.Written] at each
  split at each
  · rename_i omitted
    obtain ⟨trees, grown, fills⟩ := tail others following each later
    refine ⟨trees, grown, .inr ⟨?_, Presence.absent?_of_omits omitted⟩, fills⟩
    rintro tree found rfl
    have held : tree.1 ∈ written.map Prod.fst := grown.map_fst ▸ List.mem_map_of_mem found
    exact new ((sublist_names_of_written each).subset held)
  · obtain ⟨document, members, rfl, written, each⟩ := each
    obtain ⟨trees, grown, fills⟩ := tail others following each later
    obtain ⟨tree, taken, read, -⟩ := head regular first written back
    exact ⟨(name, tree) :: trees, .cons ⟨rfl, taken⟩ grown, fills.cons_self new read⟩

end Members

theorem Schema.Regrows.record {α β σ : Type} {members : Members β σ} (label : String)
    (view : View α β) (inner : members.Regrows) :
    (Schema.record label members view).Regrows := by
  intro regular depth enough value document written doubles
  obtain ⟨depth, rfl⟩ := Nat.exists_eq_add_of_le' (Nat.le_trans (Nat.le_add_left 1 _) enough)
  obtain ⟨written, rfl, each⟩ := written
  obtain ⟨table, grown, known, fills⟩ :=
    inner.exists_table regular (Nat.le_of_succ_le_succ enough) each doubles
  exact ⟨_, grown, fills.takes regular known label view, rfl⟩

mutual
/-- The tree of what may be written for a value carries the value. -/
theorem Schema.regrows : {α : Type} → (schema : Schema α) → schema.Regrows
  | _, .text => fun _ _ _ _ _ written _ => written ▸ .itself (takes_tree_string _) (takes_text _ _)
  | _, .path => fun _ _ _ _ _ written _ => written ▸ .itself (takes_tree_string _) (takes_text _ _)
  | _, .flag => fun _ _ _ _ _ written _ => written ▸ .itself (takes_tree_flag _) (takes_flag _)
  | _, .integer => fun _ _ _ value _ written _ => by
    have greatest := Int64.toInt_lt value
    have largest : largestWord = 2 ^ 64 - 1 := rfl
    obtain rfl := written
    exact .itself (takes_tree_integer (Int64.le_toInt value) (by omega)) (takes_integer value)
  | _, .natural => fun _ _ _ value _ written _ => by
    have smallest : Int64.minValue.toInt = -2 ^ 63 := rfl
    have greatest := value.toNat_lt
    have largest : largestWord = 2 ^ 64 - 1 := rfl
    obtain rfl := written
    exact .itself (takes_tree_integer (by omega) (by omega)) (takes_natural value)
  | _, .real => fun regular => by cases regular
  | _, .instant => fun _ _ _ _ _ written _ =>
    written ▸ .itself (takes_tree_string _) (takes_instant _)
  | _, .choice kind => fun _ _ _ _ _ written _ =>
    written ▸ .itself (takes_tree_string _) (takes_choice kind _)
  | _, .optional content => .optional content.regrows
  | _, .list item => .list item.regrows
  | _, .table entry => .table entry.regrows
  | _, .record label members view => .record label view members.regrows

theorem Members.regrows : {β σ : Type} → (members : Members β σ) → members.Regrows
  | _, _, .nil => fun _ _ _ _ _ written _ => by
    obtain rfl := written
    exact ⟨[], .nil, trivial⟩
  | _, _, .cons _ _ content rest => .cons content.regrows rest.regrows
end

end MonitorFeed
