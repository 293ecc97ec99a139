import MonitorFeed.Json.Sequence
import MonitorFeed.Json.Tree
import MonitorFeed.Proofs.Decimal.Numeral
import MonitorFeed.Proofs.Json.Number
import MonitorFeed.Proofs.Json.Text

/-!
Documents on one line, and the loops that read them back. A reader that takes each item of a list,
or each member of an object, from its written form takes the whole list or object.
-/

namespace MonitorFeed.Json

theorem skipSpace_cons {c : Char} (visible : isSpace c = false) (rest : List Char) :
    skipSpace (c :: rest) = c :: rest := by
  simp [skipSpace, visible]

/-- A numeral is no white space, no bracket and no letter that begins a word. -/
theorem numeral_ne {c : Char} (numeral : Decimal.isNumeral c = true) :
    isSpace c = false ∧ c ≠ ']' ∧ c ≠ 'n' := by
  simp only [Decimal.isNumeral, Bool.or_eq_true, decide_eq_true_eq] at numeral
  rcases numeral with (((digit | rfl) | rfl) | rfl) | rfl
  · have range := Char.isDigit_iff_toNat.mp digit
    refine ⟨?_, ?_, ?_⟩
    · simp only [isSpace, Bool.or_eq_false_iff, decide_eq_false_iff_not]
      refine ⟨⟨⟨?_, ?_⟩, ?_⟩, ?_⟩ <;> (rintro rfl; revert range; decide)
    · rintro rfl
      revert range
      decide
    · rintro rfl
      revert range
      decide
  all_goals exact ⟨rfl, by decide, by decide⟩

/-- Documents that are written as the null word. -/
def isNull : Json → Bool
  | .null => true
  | .real value => !Decimal.isFinite value
  | _ => false

/-- The characters with which a document that is no number begins. -/
def openings : List Char := ['n', 't', 'f', '"', '[', '\x7b']

/-- A written document begins like a number, a word, a string or an opening bracket, and only a null
begins like one. -/
theorem exists_compact_head (document : Json) :
    ∃ c tail, document.compact = c :: tail ∧ (Decimal.isNumeral c = true ∨ c ∈ openings) ∧
      (c = 'n' → document.isNull = true) := by
  have ofNumeral {text : List Char} (numeral : Decimal.Numeral text) :
      ∃ c tail, text = c :: tail ∧ (Decimal.isNumeral c = true ∨ c ∈ openings) ∧
        (c = 'n' → document.isNull = true) := by
    cases text with
    | nil => exact absurd rfl numeral.1
    | cons c tail =>
      have first := numeral.2 c List.mem_cons_self
      exact ⟨c, tail, rfl, .inl first, fun null => absurd null (numeral_ne first).2.2⟩
  cases document with
  | null => exact ⟨_, _, rfl, .inr (by decide), fun _ => rfl⟩
  | flag value =>
    cases value <;> exact ⟨_, _, rfl, .inr (by decide), fun null => by cases null⟩
  | integer value => exact ofNumeral (Decimal.Numeral.integerText value)
  | real value =>
    simp only [compact, writeReal]
    split
    · rename_i finite
      exact ofNumeral (Decimal.Numeral.write _ finite)
    · rename_i infinite
      exact ⟨_, _, rfl, .inr (by decide), fun _ => by simp [isNull, infinite]⟩
  | string value => exact ⟨_, _, rfl, .inr (by decide), fun null => by cases null⟩
  | list items => exact ⟨_, _, rfl, .inr (by decide), fun null => by cases null⟩
  | object members => exact ⟨_, _, rfl, .inr (by decide), fun null => by cases null⟩

/-- A written document begins with a character that is neither white space nor a closing bracket,
and only a null begins like one. -/
theorem exists_compact_cons (document : Json) :
    ∃ c tail, document.compact = c :: tail ∧ isSpace c = false ∧ c ≠ ']' ∧
      (c = 'n' → document.isNull = true) := by
  have word : ∀ c ∈ openings, isSpace c = false ∧ c ≠ ']' := by simp [openings, isSpace]
  obtain ⟨c, tail, same, begins, null⟩ := exists_compact_head document
  rcases begins with numeral | opening
  · exact ⟨c, tail, same, (numeral_ne numeral).1, (numeral_ne numeral).2.1, null⟩
  · exact ⟨c, tail, same, (word c opening).1, (word c opening).2, null⟩

theorem closes_comma (rest : List Char) : Closes (',' :: rest) :=
  closes_cons.mpr rfl

theorem closes_bracket (rest : List Char) : Closes (']' :: rest) :=
  closes_cons.mpr rfl

theorem closes_brace (rest : List Char) : Closes ('\x7d' :: rest) :=
  closes_cons.mpr rfl

/-- Pieces with a character each have at least as many characters as there are pieces. -/
private theorem length_le_flatMap {β : Type} {piece : β → List Char}
    (nonempty : ∀ item, piece item ≠ []) (items : List β) :
    items.length ≤ (items.flatMap piece).length := by
  induction items with
  | nil => exact Nat.le_refl _
  | cons item items ih =>
    have head := List.length_pos_iff.mpr (nonempty item)
    simp only [List.flatMap_cons, List.length_append, List.length_cons]
    omega

/-- Items after the first one, each behind its comma. -/
def laterItems (documents : List Json) : List Char :=
  documents.flatMap fun document => ',' :: document.compact

theorem compactItems_cons (document : Json) (documents : List Json) :
    compactItems (document :: documents) = document.compact ++ laterItems documents := by
  induction documents generalizing document with
  | nil => simp [compactItems, laterItems]
  | cons next rest ih => simp [compactItems, ih, laterItems]

/-- Items after the first one are a comma and the items that follow it. -/
theorem laterItems_cons (document : Json) (documents : List Json) :
    laterItems (document :: documents) = ',' :: compactItems (document :: documents) := by
  simp [laterItems, compactItems_cons]

theorem closes_laterItems (documents : List Json) (rest : List Char) :
    Closes (laterItems documents ++ ']' :: rest) := by
  cases documents with
  | nil => exact closes_bracket rest
  | cons document documents => exact closes_comma _

/-- A reader takes a value from the written form of a document, and nothing more. -/
def Takes {α : Type} (read : List Char → Except Fault (α × List Char)) (value : α)
    (document : Json) : Prop :=
  ∀ rest, Closes rest → read (document.compact ++ rest) = .ok (value, rest)

/-- The text of a document holds the value that is taken from it and nothing else. -/
theorem Takes.readWhole {α : Type} {read : List Char → Except Fault (α × List Char)} {value : α}
    {document : Json} (taken : Takes read value document) :
    Json.readWhole read (String.ofList document.compact) = .ok value := by
  have whole := taken [] Closes.nil
  rw [List.append_nil] at whole
  simp only [Json.readWhole, String.toList_ofList, whole]
  rfl

section Items

variable {α : Type} {item : List Char → Except Fault (α × List Char)}

private theorem nextItem_end (first : Bool) (rest : List Char) :
    nextItem first (']' :: rest) = .ok (false, ']' :: rest) := by
  simp [nextItem, skipSpace_cons (c := ']') rfl]

private theorem nextItem_first (document : Json) (rest : List Char) :
    nextItem true (document.compact ++ rest) = .ok (true, document.compact ++ rest) := by
  obtain ⟨c, tail, same, visible, bracket, -⟩ := exists_compact_cons document
  simp [nextItem, same, skipSpace_cons visible, bracket]

private theorem nextItem_later (document : Json) (rest : List Char) :
    nextItem false (',' :: (document.compact ++ rest)) = .ok (true, document.compact ++ rest) := by
  obtain ⟨c, tail, same, visible, bracket, -⟩ := exists_compact_cons document
  simp [nextItem, same, skipSpace_cons visible, skipSpace_cons (c := ',') rfl, bracket]

private theorem scanItems_later {values : List α} {documents : List Json}
    (taken : List.Forall₂ (Takes item) values documents) {steps : Nat}
    (enough : documents.length < steps) (rest : List Char) :
    scanItems item steps false (laterItems documents ++ ']' :: rest) =
      .ok (values, ']' :: rest) := by
  induction taken generalizing steps with
  | nil =>
    obtain ⟨steps, rfl⟩ := Nat.exists_eq_succ_of_ne_zero (Nat.ne_of_gt enough)
    simp [scanItems, laterItems, nextItem_end, bind, Except.bind, pure, Except.pure]
  | @cons value document values documents head tail ih =>
    obtain ⟨steps, rfl⟩ := Nat.exists_eq_succ_of_ne_zero (Nat.ne_of_gt (Nat.zero_lt_of_lt enough))
    have read := head _ (closes_laterItems documents rest)
    have later := ih (Nat.lt_of_succ_lt_succ enough)
    have next := nextItem_later document (laterItems documents ++ ']' :: rest)
    have text : laterItems (document :: documents) ++ ']' :: rest =
        ',' :: (document.compact ++ (laterItems documents ++ ']' :: rest)) := by
      simp [laterItems]
    rw [text]
    simp [scanItems, next, read, later, bind, Except.bind, pure, Except.pure]

/-- A list is read item by item up to its closing bracket. -/
theorem scanItems_compact {values : List α} {documents : List Json}
    (taken : List.Forall₂ (Takes item) values documents) {steps : Nat}
    (enough : documents.length < steps) (rest : List Char) :
    scanItems item steps true (compactItems documents ++ ']' :: rest) =
      .ok (values, ']' :: rest) := by
  obtain ⟨steps, rfl⟩ := Nat.exists_eq_succ_of_ne_zero (Nat.ne_of_gt (Nat.zero_lt_of_lt enough))
  cases taken with
  | nil => simp [scanItems, compactItems, nextItem_end, bind, Except.bind, pure, Except.pure]
  | @cons value document values documents head tail =>
    have read := head _ (closes_laterItems documents rest)
    have later := scanItems_later tail (Nat.lt_of_succ_lt_succ enough) rest
    have next := nextItem_first document (laterItems documents ++ ']' :: rest)
    rw [compactItems_cons, List.append_assoc]
    simp [scanItems, next, read, later, bind, Except.bind, pure, Except.pure]

/-- A list of documents has at least as many characters as items. -/
theorem length_le_compactItems (documents : List Json) :
    documents.length ≤ (compactItems documents).length := by
  cases documents with
  | nil => exact Nat.zero_le _
  | cons document documents =>
    obtain ⟨c, tail, same, -⟩ := exists_compact_cons document
    have later : documents.length ≤ (laterItems documents).length :=
      length_le_flatMap (fun _ => List.cons_ne_nil _ _) documents
    simp only [compactItems_cons, same, List.length_append, List.length_cons]
    omega

/-- The text of an item is part of that of the list. -/
theorem length_compact_le {item : Json} {items : List Json} (held : item ∈ items) :
    item.compact.length ≤ (compactItems items).length := by
  induction items with
  | nil => cases held
  | cons head rest ih =>
    rw [compactItems_cons, List.length_append]
    rcases List.mem_cons.mp held with rfl | later
    · exact Nat.le_add_right _ _
    · obtain ⟨next, rest, rfl⟩ := List.exists_cons_of_ne_nil (List.ne_nil_of_mem later)
      have within := ih later
      rw [laterItems_cons, List.length_cons]
      omega

end Items

/-- Members after the first one, each behind its comma. -/
def laterMembers (members : List (String × Json)) : List Char :=
  members.flatMap fun member => ',' :: (writeText member.1 ++ ':' :: member.2.compact)

theorem compactMembers_cons (name : String) (document : Json) (members : List (String × Json)) :
    compactMembers ((name, document) :: members) =
      writeText name ++ ':' :: (document.compact ++ laterMembers members) := by
  induction members generalizing name document with
  | nil => simp [compactMembers, laterMembers]
  | cons next rest ih => simp [compactMembers, ih, laterMembers]

theorem laterMembers_cons (member : String × Json) (members : List (String × Json)) :
    laterMembers (member :: members) = ',' :: compactMembers (member :: members) := by
  rw [compactMembers_cons member.1 member.2]
  simp [laterMembers]

theorem closes_laterMembers (members : List (String × Json)) (rest : List Char) :
    Closes (laterMembers members ++ '\x7d' :: rest) := by
  cases members with
  | nil => exact closes_brace rest
  | cons member members => exact closes_comma _

section Members

variable {σ : Type} {member : String → List Char → σ → Except Fault (σ × List Char)}

/-- What reading members one after the other makes of a state. -/
inductive Folds (member : String → List Char → σ → Except Fault (σ × List Char)) :
    σ → List (String × Json) → σ → Prop where
  | nil (state : σ) : Folds member state [] state
  | cons {state next last : σ} {name : String} {document : Json} {members : List (String × Json)}
      (read : ∀ rest, Closes rest →
        member name (':' :: (document.compact ++ rest)) state = .ok (next, rest))
      (later : Folds member next members last) :
      Folds member state ((name, document) :: members) last

/-- What was read before some members goes on with them. -/
theorem Folds.append {state middle last : σ} {before after : List (String × Json)}
    (first : Folds member state before middle) (second : Folds member middle after last) :
    Folds member state (before ++ after) last := by
  induction first with
  | nil state => exact second
  | cons read later ih => exact .cons read (ih second)

theorem Folds.exists_of_append {state last : σ} {before after : List (String × Json)}
    (folds : Folds member state (before ++ after) last) :
    ∃ middle, Folds member state before middle ∧ Folds member middle after last := by
  induction before generalizing state with
  | nil => exact ⟨state, .nil state, folds⟩
  | cons entry before ih =>
    cases folds with
    | cons read later =>
      obtain ⟨middle, first, second⟩ := ih later
      exact ⟨middle, .cons read first, second⟩

private theorem nextKey_end (first : Bool) (rest : List Char) :
    nextKey first ('\x7d' :: rest) = .ok (none, '\x7d' :: rest) := by
  simp [nextKey, skipSpace_cons (c := '\x7d') rfl]

private theorem scanKey_written (name : String) (rest : List Char) :
    scanKey (name.toList.flatMap escape ++ '"' :: rest) = .ok (some name, rest) := by
  simp [scanKey, scanText_written, bind, Except.bind, pure, Except.pure]

private theorem nextKey_first (name : String) (rest : List Char) :
    nextKey true (writeText name ++ rest) = .ok (some name, rest) := by
  rw [writeText_append]
  simp [nextKey, skipSpace_cons (c := '"') rfl, scanKey_written]

private theorem nextKey_later (name : String) (rest : List Char) :
    nextKey false (',' :: (writeText name ++ rest)) = .ok (some name, rest) := by
  rw [writeText_append]
  simp [nextKey, skipSpace_cons (c := '"') rfl, skipSpace_cons (c := ',') rfl,
    scanKey_written]

private theorem foldMembers_later {state last : σ} {members : List (String × Json)}
    (folds : Folds member state members last) {steps : Nat} (enough : members.length < steps)
    (rest : List Char) :
    foldMembers member steps false state (laterMembers members ++ '\x7d' :: rest) =
      .ok (last, '\x7d' :: rest) := by
  induction folds generalizing steps with
  | nil state =>
    obtain ⟨steps, rfl⟩ := Nat.exists_eq_succ_of_ne_zero (Nat.ne_of_gt enough)
    simp [foldMembers, laterMembers, nextKey_end, bind, Except.bind, pure, Except.pure]
  | @cons state next last name document members read later ih =>
    obtain ⟨steps, rfl⟩ := Nat.exists_eq_succ_of_ne_zero (Nat.ne_of_gt (Nat.zero_lt_of_lt enough))
    have taken := read _ (closes_laterMembers members rest)
    have onward := ih (Nat.lt_of_succ_lt_succ enough)
    have key := nextKey_later name
      (':' :: (document.compact ++ (laterMembers members ++ '\x7d' :: rest)))
    have text : laterMembers ((name, document) :: members) ++ '\x7d' :: rest =
        ',' :: (writeText name ++
          ':' :: (document.compact ++ (laterMembers members ++ '\x7d' :: rest))) := by
      simp [laterMembers]
    rw [text]
    simp [foldMembers, key, taken, onward, bind, Except.bind]

/-- An object is read member by member up to its closing brace. -/
theorem foldMembers_compact {state last : σ} {members : List (String × Json)}
    (folds : Folds member state members last) {steps : Nat} (enough : members.length < steps)
    (rest : List Char) :
    foldMembers member steps true state (compactMembers members ++ '\x7d' :: rest) =
      .ok (last, '\x7d' :: rest) := by
  obtain ⟨steps, rfl⟩ := Nat.exists_eq_succ_of_ne_zero (Nat.ne_of_gt (Nat.zero_lt_of_lt enough))
  cases folds with
  | nil => simp [foldMembers, compactMembers, nextKey_end, bind, Except.bind, pure, Except.pure]
  | @cons state next last name document members read later =>
    have taken := read _ (closes_laterMembers members rest)
    have onward := foldMembers_later later (Nat.lt_of_succ_lt_succ enough) rest
    have key := nextKey_first name
      (':' :: (document.compact ++ (laterMembers members ++ '\x7d' :: rest)))
    rw [compactMembers_cons, List.append_assoc, List.cons_append, List.append_assoc]
    simp [foldMembers, key, taken, onward, bind, Except.bind]

/-- The colon after a name. -/
theorem colon_cons (rest : List Char) : colon (':' :: rest) = .ok rest := by
  simp [colon, skipSpace_cons (c := ':') rfl]

/-- An object has at least as many characters as members. -/
theorem length_le_compactMembers (members : List (String × Json)) :
    members.length ≤ (compactMembers members).length := by
  cases members with
  | nil => exact Nat.zero_le _
  | cons head members =>
    obtain ⟨name, document⟩ := head
    have later : members.length ≤ (laterMembers members).length :=
      length_le_flatMap (fun _ => List.cons_ne_nil _ _) members
    simp only [compactMembers_cons, List.length_append, List.length_cons]
    omega

theorem length_compact_le_of_member {member : String × Json} {members : List (String × Json)}
    (held : member ∈ members) : member.2.compact.length ≤ (compactMembers members).length := by
  induction members with
  | nil => cases held
  | cons head rest ih =>
    rw [compactMembers_cons head.1 head.2, List.length_append, List.length_cons,
      List.length_append]
    rcases List.mem_cons.mp held with rfl | later
    · omega
    · obtain ⟨next, rest, rfl⟩ := List.exists_cons_of_ne_nil (List.ne_nil_of_mem later)
      have within := ih later
      rw [laterMembers_cons, List.length_cons]
      omega

end Members

end MonitorFeed.Json
