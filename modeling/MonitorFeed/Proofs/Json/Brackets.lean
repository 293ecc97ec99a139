import MonitorFeed.Proofs.Json.Extent

/-!
What is taken of a text between brackets. The loops over items and members, whether they read them or
pass over them, take a list or an object of nodes as soon as each step takes a node.
-/

namespace MonitorFeed.Json

/-- What was taken of a text spells items and the bracket that closes them. -/
def SpansItems (first : Bool) (text rest : List Char) : Prop :=
  ∃ items inside, Node.SpellsItems first items inside ∧ text = inside ++ rest

/-- What was taken of a text spells members and the bracket that closes them. -/
def SpansMembers (first : Bool) (text rest : List Char) : Prop :=
  ∃ members inside, Node.SpellsMembers first members inside ∧ text = inside ++ rest

/-- What was taken of a text spells a colon and the value of a member. -/
def SpansEntry (text rest : List Char) : Prop :=
  ∃ pause after, Blank pause ∧ text = pause ++ ':' :: after ∧ Spans after rest

/-- A reader takes nothing but nodes. -/
def TakesNodes {α : Type} (read : List Char → Except Fault (α × List Char)) : Prop :=
  ∀ {text value rest}, read text = .ok (value, rest) → Spans text rest

/-- A skipper passes over nothing but nodes. -/
def SkipsNodes (skip : List Char → Except Fault (List Char)) : Prop :=
  ∀ {text rest}, skip text = .ok rest → Spans text rest

variable {text rest after gap lead : List Char} {first : Bool}

section Items

theorem SpansItems.close (first : Bool) (blank : Blank gap) (rest : List Char) :
    SpansItems first (gap ++ ']' :: rest) rest :=
  ⟨[], gap ++ [']'], ⟨gap, blank, rfl⟩, by simp⟩

theorem SpansItems.cons (blank : Blank gap) (blankLead : Blank lead)
    (spans : Spans text after) (later : SpansItems false after rest) :
    SpansItems first (gap ++ (separator first ++ (lead ++ text))) rest := by
  obtain ⟨inner, node, spelled, blankInner, spells, rfl⟩ := spans
  obtain ⟨items, inside, spellsItems, rfl⟩ := later
  refine ⟨node :: items, gap ++ (separator first ++ (lead ++ inner ++ (spelled ++ inside))),
    ⟨gap, lead ++ inner, spelled, inside, blank, blankLead.append blankInner, spells, spellsItems,
      rfl⟩, ?_⟩
  simp only [List.append_assoc]

/-- Where the closing bracket stands at once, nothing else is taken. -/
theorem SpansItems.eq_of_close (inside : SpansItems first (']' :: text) rest)
    (later : first = false) : rest = text := by
  obtain ⟨items, inside, spells, same⟩ := inside
  have visible {gap others : List Char} {c : Char} (blank : Blank gap)
      (begins : ']' :: text = gap ++ c :: others) : gap = [] ∧ c = ']' ∧ others = text := by
    cases gap with
    | nil =>
      obtain ⟨rfl, rfl⟩ := List.cons_eq_cons.mp begins
      exact ⟨rfl, rfl, rfl⟩
    | cons d gap =>
      obtain ⟨rfl, -⟩ := List.cons_eq_cons.mp begins
      cases blank _ List.mem_cons_self
  cases items with
  | nil =>
    obtain ⟨gap, blank, rfl⟩ := spells
    rw [List.append_assoc] at same
    exact (visible blank same).2.2
  | cons item items =>
    obtain ⟨gap, lead, spelled, others, blank, -, -, -, rfl⟩ := spells
    rw [later, List.append_assoc] at same
    cases (visible blank same).2.1

theorem SpansItems.spans (inside : SpansItems true text rest) : Spans ('[' :: text) rest := by
  obtain ⟨items, inside, spells, rfl⟩ := inside
  have list : (Node.list items).Spells ('[' :: inside) := ⟨inside, rfl, spells⟩
  exact list.spans rest

theorem exists_of_nextItem {more : Bool} (found : nextItem first text = .ok (more, after)) :
    if more then
      ∃ gap lead, Blank gap ∧ Blank lead ∧ text = gap ++ (separator first ++ (lead ++ after))
    else ∃ gap tail, Blank gap ∧ text = gap ++ after ∧ after = ']' :: tail := by
  obtain ⟨gap, blank, begins⟩ := exists_skipSpace text
  unfold nextItem at found
  split at found
  · cases found
  rename_i c tail start
  rw [start] at begins
  split at found
  · rename_i bracket
    obtain ⟨rfl, rfl⟩ := Prod.mk.inj (Except.ok.inj found)
    exact ⟨gap, tail, blank, begins, by rw [bracket]⟩
  split at found
  · rename_i initial
    obtain ⟨rfl, rfl⟩ := Prod.mk.inj (Except.ok.inj found)
    refine ⟨gap, [], blank, blank_nil, ?_⟩
    rw [begins, initial]
    rfl
  split at found
  · rename_i other comma
    split at found
    · cases found
    · rename_i d more next
      obtain ⟨lead, blankLead, goesOn⟩ := exists_of_skipSpace next
      split at found
      · cases found
      · obtain ⟨rfl, rfl⟩ := Prod.mk.inj (Except.ok.inj found)
        refine ⟨gap, lead, blank, blankLead, ?_⟩
        rw [begins, comma, goesOn, Bool.eq_false_iff.mpr other]
        rfl
  · cases found

theorem exists_of_closeList (closed : closeList text = .ok rest) :
    ∃ gap, Blank gap ∧ text = gap ++ ']' :: rest := by
  unfold closeList at closed
  split at closed
  · cases closed
  rename_i c tail start
  split at closed
  · rename_i bracket
    obtain rfl := Except.ok.inj closed
    exact exists_of_skipSpace (start.trans (by rw [bracket]))
  · split at closed
    · split at closed <;> cases closed
    · cases closed

theorem spans_scanItems {α : Type} {item : List Char → Except Fault (α × List Char)}
    (each : TakesNodes item) {steps : Nat} {values : List α}
    (read : scanItems item steps first text = .ok (values, rest)) :
    SpansItems first text (rest.drop 1) := by
  induction steps generalizing first text values rest with
  | zero => cases read
  | succ steps ih =>
    obtain ⟨⟨more, begun⟩, found, taken⟩ := bind_eq_ok_iff.mp read
    have place := exists_of_nextItem found
    cases more with
    | false =>
      obtain ⟨gap, tail, blank, rfl, rfl⟩ := place
      obtain ⟨-, rfl⟩ := Prod.mk.inj (Except.ok.inj taken)
      exact .close first blank tail
    | true =>
      obtain ⟨gap, lead, blank, blankLead, rfl⟩ := place
      obtain ⟨⟨value, middle⟩, one, taken⟩ := bind_eq_ok_iff.mp taken
      obtain ⟨⟨others, left⟩, more, taken⟩ := bind_eq_ok_iff.mp taken
      obtain ⟨-, rfl⟩ := Prod.mk.inj (Except.ok.inj taken)
      exact .cons blank blankLead (each one) (ih more)

theorem spans_skipItems {skip : List Char → Except Fault (List Char)} (each : SkipsNodes skip)
    {steps : Nat} (passed : skipItems skip steps first text = .ok rest) :
    SpansItems first text rest := by
  induction steps generalizing first text with
  | zero => cases passed
  | succ steps ih =>
    obtain ⟨gap, blank, begins⟩ := exists_skipSpace text
    simp only [skipItems] at passed
    split at passed
    · cases passed
    rename_i c tail start
    rw [begins, start]
    split at passed
    · rename_i bracket
      obtain rfl := Except.ok.inj passed
      rw [bracket]
      exact .close first blank tail
    split at passed
    · rename_i initial
      obtain ⟨middle, skipped, later⟩ := bind_eq_ok_iff.mp passed
      rw [initial]
      exact .cons blank blank_nil (each skipped) (ih later)
    split at passed
    · rename_i other comma
      obtain ⟨middle, skipped, later⟩ := bind_eq_ok_iff.mp passed
      rw [comma, Bool.eq_false_iff.mpr other]
      exact .cons blank blank_nil (each skipped) (ih later)
    · cases passed

end Items

section Members

theorem SpansMembers.close (first : Bool) (blank : Blank gap) (rest : List Char) :
    SpansMembers first (gap ++ '\x7d' :: rest) rest :=
  ⟨[], gap ++ ['\x7d'], ⟨gap, blank, rfl⟩, by simp⟩

theorem SpansMembers.cons (blank : Blank gap) (blankLead : Blank lead)
    (key : List Piece) (spans : SpansEntry text after) (later : SpansMembers false after rest) :
    SpansMembers first (gap ++ (separator first ++ (lead ++ (Piece.quoted key ++ text)))) rest := by
  obtain ⟨pause, value, blankPause, rfl, spans⟩ := spans
  obtain ⟨space, node, spelled, blankSpace, spells, rfl⟩ := spans
  obtain ⟨members, inside, spellsMembers, rfl⟩ := later
  refine ⟨(key, node) :: members, gap ++ (separator first ++ (lead ++ (Piece.quoted key ++
    (pause ++ ':' :: (space ++ (spelled ++ inside)))))),
    ⟨gap, lead, pause, space, spelled, inside, blank, blankLead, blankPause, blankSpace, spells,
      spellsMembers, rfl⟩, ?_⟩
  simp only [List.append_assoc, List.cons_append]

theorem SpansMembers.spans (inside : SpansMembers true text rest) :
    Spans ('\x7b' :: text) rest := by
  obtain ⟨members, inside, spells, rfl⟩ := inside
  have object : (Node.object members).Spells ('\x7b' :: inside) := ⟨inside, rfl, spells⟩
  exact object.spans rest

theorem exists_of_colon (taken : colon text = .ok rest) :
    ∃ pause, Blank pause ∧ text = pause ++ ':' :: rest := by
  unfold colon at taken
  split at taken
  · cases taken
  rename_i c tail start
  split at taken
  · rename_i mark
    obtain rfl := Except.ok.inj taken
    exact exists_of_skipSpace (start.trans (by rw [mark]))
  · cases taken

theorem SpansEntry.of_colon (taken : colon text = .ok after) (spans : Spans after rest) :
    SpansEntry text rest := by
  obtain ⟨pause, blank, same⟩ := exists_of_colon taken
  exact ⟨pause, after, blank, same, spans⟩

private theorem exists_of_scanKey {key : Option String}
    (read : scanKey text = .ok (key, after)) :
    ∃ name pieces, key = some name ∧ '"' :: text = Piece.quoted pieces ++ after := by
  obtain ⟨⟨name, left⟩, scanned, read⟩ := bind_eq_ok_iff.mp read
  obtain ⟨rfl, rfl⟩ := Prod.mk.inj (Except.ok.inj read)
  obtain ⟨pieces, rfl⟩ := exists_pieces_of_scanText scanned
  exact ⟨name, pieces, rfl, rfl⟩

theorem exists_of_nextKey {key : Option String}
    (found : nextKey first text = .ok (key, after)) :
    (key = none ∧ ∃ gap tail, Blank gap ∧ text = gap ++ after ∧ after = '\x7d' :: tail) ∨
    ∃ name gap lead pieces, key = some name ∧ Blank gap ∧ Blank lead ∧
      text = gap ++ (separator first ++ (lead ++ (Piece.quoted pieces ++ after))) := by
  obtain ⟨gap, blank, begins⟩ := exists_skipSpace text
  unfold nextKey at found
  split at found
  · cases found
  rename_i c tail start
  rw [start] at begins
  split at found
  · rename_i brace
    obtain ⟨rfl, rfl⟩ := Prod.mk.inj (Except.ok.inj found)
    exact .inl ⟨rfl, gap, tail, blank, begins, by rw [brace]⟩
  right
  split at found
  · rename_i initial
    split at found
    · rename_i quote
      obtain ⟨name, pieces, rfl, spelled⟩ := exists_of_scanKey found
      refine ⟨name, gap, [], pieces, rfl, blank, blank_nil, ?_⟩
      rw [begins, quote, spelled, initial]
      rfl
    · cases found
  split at found
  · rename_i other comma
    split at found
    · cases found
    · rename_i d more next
      obtain ⟨lead, blankLead, goesOn⟩ := exists_of_skipSpace next
      split at found
      · rename_i quote
        obtain ⟨name, pieces, rfl, spelled⟩ := exists_of_scanKey found
        refine ⟨name, gap, lead, pieces, rfl, blank, blankLead, ?_⟩
        rw [begins, comma, goesOn, quote, spelled, Bool.eq_false_iff.mpr other]
        rfl
      · split at found <;> cases found
  · cases found

theorem spans_foldMembers {σ : Type}
    {member : String → List Char → σ → Except Fault (σ × List Char)}
    (each : ∀ {key text state next rest}, member key text state = .ok (next, rest) →
      SpansEntry text rest) {steps : Nat} {state last : σ}
    (read : foldMembers member steps first state text = .ok (last, rest)) :
    SpansMembers first text (rest.drop 1) := by
  induction steps generalizing first text state with
  | zero => cases read
  | succ steps ih =>
    obtain ⟨⟨key, begun⟩, found, taken⟩ := bind_eq_ok_iff.mp read
    rcases exists_of_nextKey found with ⟨rfl, gap, tail, blank, rfl, rfl⟩ |
      ⟨name, gap, lead, pieces, rfl, blank, blankLead, rfl⟩
    · obtain ⟨-, rfl⟩ := Prod.mk.inj (Except.ok.inj taken)
      exact .close first blank tail
    · obtain ⟨⟨next, middle⟩, one, more⟩ := bind_eq_ok_iff.mp taken
      exact .cons blank blankLead pieces (each one) (ih more)

private theorem exists_of_skipMember {skip : List Char → Except Fault (List Char)}
    (each : SkipsNodes skip) (passed : skipMember skip text = .ok rest) :
    ∃ lead pieces after, Blank lead ∧ text = lead ++ (Piece.quoted pieces ++ after) ∧
      SpansEntry after rest := by
  unfold skipMember at passed
  split at passed
  · cases passed
  rename_i c tail start
  obtain ⟨lead, blank, begins⟩ := exists_of_skipSpace start
  split at passed
  · rename_i quote
    obtain ⟨after, named, valued⟩ := bind_eq_ok_iff.mp passed
    obtain ⟨pieces, spelled⟩ := exists_pieces_of_skipText named
    refine ⟨lead, pieces, after, blank, ?_, ?_⟩
    · rw [begins, quote, spelled]
      rfl
    split at valued
    · cases valued
    · rename_i d more next
      split at valued
      · rename_i mark
        obtain ⟨pause, blankPause, same⟩ := exists_of_skipSpace next
        exact ⟨pause, more, blankPause, by rw [same, mark], each valued⟩
      · cases valued
  · cases passed

theorem spans_skipMembers {skip : List Char → Except Fault (List Char)} (each : SkipsNodes skip)
    {steps : Nat} (passed : skipMembers skip steps first text = .ok rest) :
    SpansMembers first text rest := by
  induction steps generalizing first text with
  | zero => cases passed
  | succ steps ih =>
    obtain ⟨gap, blank, begins⟩ := exists_skipSpace text
    simp only [skipMembers] at passed
    split at passed
    · cases passed
    rename_i c tail start
    rw [begins, start]
    split at passed
    · rename_i brace
      obtain rfl := Except.ok.inj passed
      rw [brace]
      exact .close first blank tail
    split at passed
    · rename_i initial
      obtain ⟨middle, skipped, later⟩ := bind_eq_ok_iff.mp passed
      obtain ⟨lead, pieces, after, blankLead, same, spans⟩ := exists_of_skipMember each skipped
      rw [initial, same]
      exact .cons blank blankLead pieces spans (ih later)
    split at passed
    · rename_i other comma
      obtain ⟨middle, skipped, later⟩ := bind_eq_ok_iff.mp passed
      obtain ⟨lead, pieces, after, blankLead, same, spans⟩ := exists_of_skipMember each skipped
      rw [comma, same, Bool.eq_false_iff.mpr other]
      exact .cons blank blankLead pieces spans (ih later)
    · cases passed

end Members

section Leaves

theorem spans_word (node : Node) {c : Char} {letters : List Char}
    (spells : node.Spells (c :: letters)) (read : word letters text = .ok rest) :
    Spans (c :: text) rest := by
  rw [eq_of_word read]
  exact spells.spans rest

theorem spans_quoted {pieces : List Piece} (spelled : text = Piece.closed pieces ++ rest) :
    Spans ('"' :: text) rest := by
  have string : (Node.string pieces).Spells (Piece.quoted pieces) := rfl
  rw [spelled]
  exact string.spans rest

theorem spans_token (token : Token) (spelled : text = token.text ++ rest) : Spans text rest := by
  have number : (Node.number token).Spells token.text := rfl
  rw [spelled]
  exact number.spans rest

theorem spans_negative {token : Token} (negative : token.negative = true)
    (spelled : text = token.unsigned ++ rest) : Spans ('-' :: text) rest := by
  refine spans_token token ?_
  rw [spelled, Token.text, if_pos negative, List.cons_append]

theorem spans_unsigned {token : Token} (positive : token.negative = false)
    (spelled : text = token.unsigned ++ rest) : Spans text rest := by
  refine spans_token token ?_
  rw [spelled, Token.text, if_neg (Bool.eq_false_iff.mp positive)]

end Leaves

/-- Whatever is passed over is a node, at every depth. -/
theorem skipsNodes_skipNested (depth : Nat) : SkipsNodes (skipNested depth) := by
  intro text rest passed
  induction depth generalizing text rest with
  | zero => cases passed
  | succ depth ih =>
    obtain ⟨gap, blank, begins⟩ := exists_skipSpace text
    rw [skipNested] at passed
    split at passed
    · cases passed
    rename_i c tail start
    rw [begins, start]
    refine Spans.after blank ?_
    split at passed
    · rename_i letter
      subst letter
      exact spans_word .null rfl passed
    split at passed
    · rename_i letter
      subst letter
      exact spans_word (.flag true) rfl passed
    split at passed
    · rename_i letter
      subst letter
      exact spans_word (.flag false) rfl passed
    split at passed
    · rename_i sign
      subst sign
      obtain ⟨token, negative, spelled⟩ := exists_token_of_skipNumber passed true
      exact spans_negative negative spelled
    split at passed
    · obtain ⟨token, positive, spelled⟩ := exists_token_of_skipNumber passed false
      exact spans_unsigned positive spelled
    split at passed
    · rename_i quote
      subst quote
      obtain ⟨pieces, spelled⟩ := exists_pieces_of_skipText passed
      exact spans_quoted spelled
    split at passed
    · rename_i bracket
      subst bracket
      exact (spans_skipItems ih passed).spans
    split at passed
    · rename_i brace
      subst brace
      exact (spans_skipMembers ih passed).spans
    · cases passed

theorem skipsNodes_skipValue : SkipsNodes skipValue := by
  intro text rest passed
  exact skipsNodes_skipNested _ passed

end MonitorFeed.Json
