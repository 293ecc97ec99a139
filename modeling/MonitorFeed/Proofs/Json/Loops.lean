import MonitorFeed.Json.Sequence
import MonitorFeed.Proofs.Json.Compact
import MonitorFeed.Proofs.Json.Lexemes

/-!
The loops over the items of a list and the members of an object, on any text that spells them. A
loop comes to the verdict of its items, whether each of them is accepted or not.
-/

namespace MonitorFeed.Json

/-- A reader comes to a verdict on a text wherever it stands, white space before it. -/
def Reads {α : Type} (read : List Char → Except Fault (α × List Char)) (text : List Char)
    (verdict : Option α) : Prop :=
  ∀ gap rest, Blank gap → Closes rest →
    (read (gap ++ (text ++ rest))).toOption = verdict.map fun value => (value, rest)

theorem blank_nil : Blank [] :=
  List.forall_mem_nil _

theorem blank_space : Blank [' '] :=
  List.forall_mem_singleton.mpr rfl

theorem blank_newline : Blank ['\n'] :=
  List.forall_mem_singleton.mpr rfl

theorem closes_append {gap rest : List Char} (blank : Blank gap) (closes : Closes rest) :
    Closes (gap ++ rest) := by
  cases gap with
  | nil => exact closes
  | cons c gap =>
    have space := blank c List.mem_cons_self
    simp only [isSpace, Bool.or_eq_true, decide_eq_true_eq] at space
    rcases space with ((rfl | rfl) | rfl) | rfl <;> exact closes_cons.mpr rfl

namespace Node

/-- Whether the text of a node may begin with a character. -/
def begins : Node → Char → Bool
  | .null, c => c = 'n'
  | .flag value, c => c = 't' && value || c = 'f' && !value
  | .number _, c => c = '-' || c.isDigit
  | .string _, c => c = '"'
  | .list _, c => c = '['
  | .object _, c => c = '\x7b'

variable {node : Node} {c : Char}

theorem ne_of_begins {other : Char} (begins : node.begins c = true)
    (differs : node.begins other = false) : c ≠ other := by
  rintro rfl
  rw [begins] at differs
  cases differs

theorem visible_of_begins (begins : node.begins c = true) : isSpace c = false ∧ c ≠ ']' := by
  have hidden (other : Char) (space : isSpace other = true) : node.begins other = false := by
    simp only [isSpace, Bool.or_eq_true, decide_eq_true_eq] at space
    rcases space with ((rfl | rfl) | rfl) | rfl <;> cases node <;> rfl
  refine ⟨?_, ne_of_begins begins (by cases node <;> rfl)⟩
  rw [Bool.eq_false_iff]
  intro space
  exact ne_of_begins begins (hidden c space) rfl

/-- Only a number begins with a digit. -/
theorem isDigit_of_begins (begins : node.begins c = true) (other : ∀ token, node ≠ .number token) :
    c.isDigit = false := by
  cases node with
  | number token => exact absurd rfl (other token)
  | flag value =>
    simp only [Node.begins, Bool.or_eq_true, Bool.and_eq_true, decide_eq_true_eq] at begins
    rcases begins with ⟨rfl, -⟩ | ⟨rfl, -⟩ <;> rfl
  | _ =>
    obtain rfl := of_decide_eq_true begins
    rfl

/-- What spells a node begins as the node does. -/
theorem Spells.exists_cons {text : List Char} (spells : node.Spells text) :
    ∃ c tail, text = c :: tail ∧ node.begins c = true := by
  cases node with
  | null =>
    obtain rfl := spells
    exact ⟨_, _, rfl, rfl⟩
  | flag value =>
    obtain rfl := spells
    cases value <;> exact ⟨_, _, rfl, rfl⟩
  | number token =>
    obtain rfl := spells
    obtain ⟨negative, whole, fraction, exponent, canonical⟩ := token
    cases negative with
    | true => exact ⟨_, _, rfl, rfl⟩
    | false =>
      have digit := whole.spelled _ List.mem_cons_self
      exact ⟨_, _, rfl, by simp only [begins, digit, Bool.or_true]⟩
  | string pieces =>
    obtain rfl := spells
    exact ⟨_, _, rfl, rfl⟩
  | list items =>
    obtain ⟨inside, rfl, -⟩ := spells
    exact ⟨_, _, rfl, rfl⟩
  | object members =>
    obtain ⟨inside, rfl, -⟩ := spells
    exact ⟨_, _, rfl, rfl⟩

end Node

section Items

theorem closes_items {items : List Node} {text : List Char}
    (spells : Node.SpellsItems false items text) (rest : List Char) : Closes (text ++ rest) := by
  cases items with
  | nil =>
    obtain ⟨gap, blank, rfl⟩ := spells
    rw [List.append_assoc]
    exact closes_append blank (closes_bracket rest)
  | cons item items =>
    obtain ⟨gap, lead, spelled, others, blank, -, -, -, rfl⟩ := spells
    rw [List.append_assoc]
    exact closes_append blank (closes_comma _)

theorem length_le_items : (items : List Node) → (first : Bool) → (text : List Char) →
    Node.SpellsItems first items text → items.length ≤ text.length
  | [], _, _, _ => Nat.zero_le _
  | item :: items, first, text, spells => by
    obtain ⟨gap, lead, spelled, others, -, -, spells, rest, rfl⟩ := spells
    obtain ⟨c, tail, rfl, -⟩ := spells.exists_cons
    have shorter := length_le_items items false others rest
    simp only [List.length_cons, List.length_append]
    omega

theorem nextItem_close (first : Bool) {gap : List Char} (blank : Blank gap)
    (rest : List Char) : nextItem first (gap ++ ']' :: rest) = .ok (false, ']' :: rest) := by
  simp only [nextItem, skipSpace_append blank, skipSpace_cons (c := ']') rfl, ↓reduceIte]

private theorem nextItem_spelled (first : Bool) {gap lead : List Char} (blank : Blank gap)
    (blankLead : Blank lead) {c : Char} (visible : isSpace c = false ∧ c ≠ ']')
    (rest : List Char) :
    nextItem first (gap ++ (separator first ++ (lead ++ c :: rest))) = .ok (true, c :: rest) := by
  have start : skipSpace (lead ++ c :: rest) = c :: rest := by
    rw [skipSpace_append blankLead, skipSpace_cons visible.1]
  cases first with
  | true =>
    simp only [nextItem, separator, skipSpace_append blank, ↓reduceIte, List.nil_append, start,
      visible.2]
  | false =>
    simp only [nextItem, separator, skipSpace_append blank, ↓reduceIte, Bool.false_eq_true,
      List.singleton_append, skipSpace_cons (c := ',') rfl, start, visible.2, Char.reduceEq]

/-- The next item is found where its node is spelled. -/
theorem nextItem_node (first : Bool) {node : Node} {gap lead spelled : List Char}
    (blank : Blank gap) (blankLead : Blank lead) (spells : node.Spells spelled)
    (others rest : List Char) :
    nextItem first (gap ++ (separator first ++ (lead ++ (spelled ++ others))) ++ rest) =
      .ok (true, spelled ++ (others ++ rest)) := by
  obtain ⟨c, tail, rfl, begins⟩ := spells.exists_cons
  have visible := Node.visible_of_begins begins
  simpa using nextItem_spelled first blank blankLead visible (tail ++ (others ++ rest))

variable {α : Type} {item : List Char → Except Fault (α × List Char)} {accept : Node → Option α}

/-- A list is accepted when each of its items is. -/
theorem scanItems_spelled : (items : List Node) → (first : Bool) → (inside : List Char) →
    Node.SpellsItems first items inside →
    (∀ (node : Node) text, node.Spells text → Reads item text (accept node)) →
    (steps : Nat) → items.length < steps → (rest : List Char) →
    (scanItems item steps first (inside ++ rest)).toOption =
      (items.mapM accept).map fun values => (values, ']' :: rest)
  | [], first, inside, spells, _, steps, enough, rest => by
    obtain ⟨steps, rfl⟩ := Nat.exists_eq_succ_of_ne_zero (Nat.ne_of_gt enough)
    obtain ⟨gap, blank, rfl⟩ := spells
    rw [List.append_assoc]
    simp only [scanItems, List.singleton_append, nextItem_close first blank, bind, Except.bind]
    rfl
  | node :: items, first, inside, spells, each, steps, enough, rest => by
    obtain ⟨steps, rfl⟩ := Nat.exists_eq_succ_of_ne_zero (Nat.ne_of_gt (Nat.zero_lt_of_lt enough))
    obtain ⟨gap, lead, spelled, others, blank, blankLead, spells, later, rfl⟩ := spells
    have next := nextItem_node first blank blankLead spells others rest
    have read := each node spelled spells [] (others ++ rest) blank_nil (closes_items later rest)
    have onward := scanItems_spelled items false others later each steps
      (Nat.lt_of_succ_lt_succ enough) rest
    have opened : scanItems item (steps + 1) first
          (gap ++ (separator first ++ (lead ++ (spelled ++ others))) ++ rest) =
        (item (spelled ++ (others ++ rest)) >>= fun read =>
          scanItems item steps false read.2 >>= fun later =>
            pure (read.1 :: later.1, later.2)) := by
      rw [scanItems, next]
      rfl
    rw [List.nil_append] at read
    rw [opened, toOption_bind, read, List.mapM_cons]
    cases accept node with
    | none => rfl
    | some value =>
      simp only [Option.map_some, Option.bind_some, toOption_bind, onward]
      cases items.mapM accept <;> rfl

end Items

section Members

theorem closes_members {members : List (List Piece × Node)} {text : List Char}
    (spells : Node.SpellsMembers false members text) (rest : List Char) :
    Closes (text ++ rest) := by
  cases members with
  | nil =>
    obtain ⟨gap, blank, rfl⟩ := spells
    rw [List.append_assoc]
    exact closes_append blank (closes_brace rest)
  | cons member members =>
    obtain ⟨gap, lead, pause, space, spelled, others, blank, -, -, -, -, -, rfl⟩ := spells
    rw [List.append_assoc]
    exact closes_append blank (closes_comma _)

theorem length_le_members : (members : List (List Piece × Node)) → (first : Bool) →
    (text : List Char) → Node.SpellsMembers first members text → members.length ≤ text.length
  | [], _, _, _ => Nat.zero_le _
  | (key, node) :: members, first, text, spells => by
    obtain ⟨gap, lead, pause, space, spelled, others, -, -, -, -, -, rest, rfl⟩ := spells
    have shorter := length_le_members members false others rest
    simp only [List.length_cons, List.length_append]
    omega

private theorem nextKey_close (first : Bool) {gap : List Char} (blank : Blank gap)
    (rest : List Char) : nextKey first (gap ++ '\x7d' :: rest) = .ok (none, '\x7d' :: rest) := by
  simp only [nextKey, skipSpace_append blank, skipSpace_cons (c := '\x7d') rfl, ↓reduceIte]

/-- A name is read as what its pieces mean. -/
private theorem nextKey_spelled (first : Bool) {gap lead : List Char} (blank : Blank gap)
    (blankLead : Blank lead) (key : List Piece) (rest : List Char) :
    (nextKey first (gap ++ (separator first ++ (lead ++ (Piece.quoted key ++ rest))))).toOption =
      (Piece.string? key).map fun name => (some name, rest) := by
  have start : skipSpace (lead ++ (Piece.quoted key ++ rest)) =
      '"' :: (Piece.closed key ++ rest) := by
    rw [skipSpace_append blankLead, Piece.quoted, List.cons_append, skipSpace_cons rfl]
  have opened : nextKey first (gap ++ (separator first ++ (lead ++ (Piece.quoted key ++ rest)))) =
      scanKey (Piece.closed key ++ rest) := by
    cases first with
    | true =>
      simp only [nextKey, separator, skipSpace_append blank, ↓reduceIte, List.nil_append, start,
        Char.reduceEq]
    | false =>
      simp only [nextKey, separator, skipSpace_append blank, ↓reduceIte, Bool.false_eq_true,
        List.singleton_append, skipSpace_cons (c := ',') rfl, start, Char.reduceEq]
  rw [opened, scanKey, toOption_bind, toOption_scanText]
  cases Piece.string? key <;> rfl

theorem colon_blank {pause : List Char} (blank : Blank pause) (rest : List Char) :
    colon (pause ++ ':' :: rest) = .ok rest := by
  rw [colon, skipSpace_append blank, ← colon, colon_cons]

variable {σ : Type}

/-- A reader of one member takes a node under a name as a step says, on any text that spells it. -/
def ReadsMember (member : String → List Char → σ → Except Fault (σ × List Char))
    (step : σ → String × Node → Option σ) (entry : String × Node) : Prop :=
  ∀ state spelled pause space rest, entry.2.Spells spelled → Blank pause → Blank space →
    Closes rest →
    (member entry.1 (pause ++ ':' :: (space ++ (spelled ++ rest))) state).toOption =
      (step state entry).map fun state => (state, rest)

variable {member : String → List Char → σ → Except Fault (σ × List Char)}
  {step : σ → String × Node → Option σ}

/-- The members of an object are taken one after the other, as long as each of them can be. -/
theorem foldMembers_spelled : (members : List (List Piece × Node)) → (first : Bool) →
    (inside : List Char) → Node.SpellsMembers first members inside →
    (∀ entry, ReadsMember member step entry) →
    (state : σ) → (steps : Nat) → members.length < steps → (rest : List Char) →
    (foldMembers member steps first state (inside ++ rest)).toOption =
      ((decodeMembers members).bind (List.foldlM step state)).map
        fun state => (state, '\x7d' :: rest)
  | [], first, inside, spells, _, state, steps, enough, rest => by
    obtain ⟨steps, rfl⟩ := Nat.exists_eq_succ_of_ne_zero (Nat.ne_of_gt enough)
    obtain ⟨gap, blank, rfl⟩ := spells
    rw [List.append_assoc, foldMembers, List.singleton_append, nextKey_close first blank]
    rfl
  | (key, node) :: members, first, inside, spells, each, state, steps, enough, rest => by
    obtain ⟨steps, rfl⟩ := Nat.exists_eq_succ_of_ne_zero (Nat.ne_of_gt (Nat.zero_lt_of_lt enough))
    obtain ⟨gap, lead, pause, space, spelled, others, blank, blankLead, blankPause, blankSpace,
      spells, later, rfl⟩ := spells
    have next := nextKey_spelled first blank blankLead key
      (pause ++ ':' :: (space ++ (spelled ++ (others ++ rest))))
    have text : gap ++ (separator first ++ (lead ++ (Piece.quoted key ++
          (pause ++ ':' :: (space ++ (spelled ++ others)))))) ++ rest =
        gap ++ (separator first ++ (lead ++ (Piece.quoted key ++
          (pause ++ ':' :: (space ++ (spelled ++ (others ++ rest))))))) := by
      simp only [List.append_assoc, List.cons_append]
    rw [text, foldMembers, toOption_bind, next, decodeMembers_cons]
    cases named : Piece.string? key with
    | none => rfl
    | some name =>
      have read := each (name, node) state spelled pause space _ spells blankPause blankSpace
        (closes_members later rest)
      have onward (state : σ) := foldMembers_spelled members false others later each state steps
        (Nat.lt_of_succ_lt_succ enough) rest
      have stepped :
          ((decodeMembers members).map ((name, node) :: ·)).bind (List.foldlM step state) =
            (step state (name, node)).bind fun state =>
              (decodeMembers members).bind (List.foldlM step state) := by
        cases decodeMembers members with
        | none => cases step state (name, node) <;> rfl
        | some entries => rfl
      rw [Option.bind_some, stepped]
      simp only [Option.map_some, Option.bind_some, toOption_bind, read]
      cases step state (name, node) with
      | none => rfl
      | some next => exact onward next

end Members

end MonitorFeed.Json
