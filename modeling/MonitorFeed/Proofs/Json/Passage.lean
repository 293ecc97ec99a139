import MonitorFeed.Json.Skip
import MonitorFeed.Proofs.Json.Loops

/-!
Passing over values. What spells a node is passed over as a whole, whatever its strings mean, however
large its numbers are and however deep it goes, and what follows it is left as it is.
-/

namespace MonitorFeed.Json

section Strings

theorem skipChars_skip (skipped rest : List Char) :
    skipChars skipped.length (skipped ++ rest) = skipChars 0 rest := by
  induction skipped with
  | nil => rfl
  | cons c skipped ih => exact ih

private theorem skipChars_escape (escape : List Char) {rest : List Char}
    (counted : skipEscape (escape ++ rest) = .ok escape.length) :
    skipChars 0 ('\\' :: (escape ++ rest)) = skipChars 0 rest := by
  rw [skipChars.eq_3]
  simp only [Char.reduceEq, ↓reduceIte, counted, bind, Except.bind, skipChars_skip]

/-- A piece of a string is passed over whether or not it means a character: a surrogate needs no
partner. -/
theorem skipChars_piece (piece : Piece) (rest : List Char) :
    skipChars 0 (piece.text ++ rest) = skipChars 0 rest := by
  cases piece with
  | plain c usual =>
    obtain ⟨quote, slash, visible⟩ := usual
    rw [Piece.text, List.singleton_append, skipChars.eq_3]
    simp only [quote, slash, Nat.not_lt.mpr visible, ↓reduceIte]
  | short letter c meaning =>
    refine skipChars_escape [letter] ?_
    have known : (shortEscape? letter).isSome = true := by rw [meaning]; rfl
    simp only [List.singleton_append, skipEscape, ne_of_shortEscape? meaning, known, ↓reduceIte,
      List.length_singleton]
  | unit digits value four meaning =>
    refine skipChars_escape ('u' :: digits) ?_
    simp only [List.cons_append, skipEscape, ↓reduceIte, codeUnit_digits four meaning,
      List.length_cons, four]
    rfl

theorem skipText_closed (pieces : List Piece) (rest : List Char) :
    skipText (Piece.closed pieces ++ rest) = .ok rest := by
  induction pieces with
  | nil => rfl
  | cons piece pieces ih =>
    have text : Piece.closed (piece :: pieces) ++ rest =
        piece.text ++ (Piece.closed pieces ++ rest) := by
      simp [Piece.closed]
    rw [text, skipText, skipChars_piece]
    exact ih

end Strings

section Numbers

variable {rest : List Char}

private theorem startsWithDigit_digits (digits : Digits) (rest : List Char) :
    startsWithDigit (digits.text ++ rest) = true :=
  digits.spelled _ List.mem_cons_self

theorem skipExponent_eq (text : List Char) :
    skipExponent text =
      if startsWithDigit (takeSign text).2 then .ok ((takeSign text).2.dropWhile Char.isDigit)
      else failNext .invalidNumber (takeSign text).2 := by
  unfold skipExponent takeSign
  split <;> simp

theorem skipExponent_spelled (exponent : Exponent) (closes : Closes rest) :
    skipExponent (exponent.signText ++ (exponent.digits.text ++ rest)) = .ok rest := by
  obtain ⟨below, taken⟩ := exists_takeSign exponent
  rw [skipExponent_eq, taken rest, if_pos (startsWithDigit_digits exponent.digits rest),
    Digits.text, dropDigits exponent.digits.spelled closes.stops]

theorem skipRealTail_spelled (token : Token) (closes : Closes rest) :
    skipRealTail (token.exponentText ++ rest) = .ok rest := by
  obtain ⟨negative, whole, fraction, exponent, canonical⟩ := token
  cases exponent with
  | none =>
    change skipRealTail rest = .ok rest
    unfold skipRealTail
    split
    · cases closes_cons.mp closes
    · cases closes_cons.mp closes
    · rfl
  | some exponent =>
    have lettered : skipRealTail (exponent.text ++ rest) =
        skipExponent (exponent.signText ++ (exponent.digits.text ++ rest)) := by
      rw [← List.append_assoc]
      obtain ⟨capital, sign, digits⟩ := exponent
      cases capital <;> rfl
    exact lettered.trans (skipExponent_spelled exponent closes)

theorem skipTail_spelled (token : Token) (closes : Closes rest) :
    skipTail (token.fractionText ++ (token.exponentText ++ rest)) = .ok rest := by
  have onward := skipRealTail_spelled token closes
  have stops := startsWithDigit_exponent token.exponent closes
  rw [← Token.exponentText] at stops
  obtain ⟨negative, whole, fraction, exponent, canonical⟩ := token
  cases fraction with
  | some digits =>
    change (if startsWithDigit (digits.text ++ _) then
      skipRealTail ((digits.text ++ _).dropWhile Char.isDigit) else _) = .ok rest
    rw [if_pos (startsWithDigit_digits digits _), Digits.text, dropDigits digits.spelled stops]
    exact onward
  | none =>
    rw [Token.fractionText, Option.elim_none, List.nil_append]
    unfold skipTail
    split
    · rename_i same
      -- What follows an exponent, or stands in its place, is no point.
      exfalso
      cases exponent with
      | none =>
        obtain rfl : rest = _ := same
        cases closes_cons.mp closes
      | some exponent =>
        obtain ⟨capital, sign, digits⟩ := exponent
        cases capital <;> cases (List.cons_eq_cons.mp same).1
    · exact onward

/-- A number is passed over whatever its size. -/
theorem skipNumber_spelled (token : Token) (closes : Closes rest) :
    skipNumber (token.unsigned ++ rest) = .ok rest := by
  have onward := skipTail_spelled token closes
  have stops : startsWithDigit (token.fractionText ++ (token.exponentText ++ rest)) = false := by
    cases fraction : token.fraction with
    | none =>
      rw [Token.fractionText, fraction]
      exact startsWithDigit_exponent token.exponent closes
    | some digits => rw [Token.fractionText, fraction]; rfl
  obtain ⟨digit, others⟩ := List.forall_mem_cons.mp token.whole.spelled
  have text : token.unsigned ++ rest = token.whole.first ::
      (token.whole.others ++ (token.fractionText ++ (token.exponentText ++ rest))) := by
    simp [Token.unsigned, Digits.text]
  rw [text]
  by_cases zero : token.whole.first = '0'
  · have alone := token.canonical zero
    have value : Decimal.digit? '0' = some 0 := rfl
    simp only [skipNumber, zero, alone, List.nil_append, value, stops, Bool.false_eq_true,
      ↓reduceIte, onward]
  · have value := Decimal.digit?_of_isDigit digit
    have positive : token.whole.first.toNat - '0'.toNat ≠ 0 := by
      have range := Char.isDigit_iff_toNat.mp digit
      intro none
      exact zero (Char.toNat_inj.mp (by omega))
    simp only [skipNumber, value, dropDigits others stops, onward]

end Numbers

/-- A text is passed over wherever it stands, white space before it. -/
def Passes (skip : List Char → Except Fault (List Char)) (text : List Char) : Prop :=
  ∀ gap rest, Blank gap → Closes rest → skip (gap ++ (text ++ rest)) = .ok rest

section Loops

variable {skip : List Char → Except Fault (List Char)} {bound : Nat}

theorem skipItems_spelled
    (passes : ∀ (node : Node) text, node.Spells text → text.length < bound → Passes skip text) :
    (items : List Node) → (first : Bool) → (inside : List Char) →
    Node.SpellsItems first items inside → inside.length < bound →
    (steps : Nat) → items.length < steps → (rest : List Char) →
    skipItems skip steps first (inside ++ rest) = .ok rest
  | [], first, inside, spells, _, steps, enough, rest => by
    obtain ⟨steps, rfl⟩ := Nat.exists_eq_succ_of_ne_zero (Nat.ne_of_gt enough)
    obtain ⟨gap, blank, rfl⟩ := spells
    rw [List.append_assoc]
    simp only [skipItems, skipSpace_append blank, List.singleton_append,
      skipSpace_cons (c := ']') rfl, ↓reduceIte]
  | node :: items, first, inside, spells, short, steps, enough, rest => by
    obtain ⟨steps, rfl⟩ := Nat.exists_eq_succ_of_ne_zero (Nat.ne_of_gt (Nat.zero_lt_of_lt enough))
    obtain ⟨gap, lead, spelled, others, blank, blankLead, spells, later, rfl⟩ := spells
    simp only [List.length_append] at short
    have passed := passes node spelled spells (by omega)
    have onward := skipItems_spelled passes items false others later (by omega) steps
      (Nat.lt_of_succ_lt_succ enough) rest
    obtain ⟨c, tail, rfl, begins⟩ := spells.exists_cons
    obtain ⟨visible, inside⟩ := Node.visible_of_begins begins
    have closes := closes_items later rest
    cases first with
    | true =>
      have start : skipSpace (gap ++ (separator true ++ (lead ++ (c :: tail ++ others))) ++ rest) =
          c :: (tail ++ (others ++ rest)) := by
        simp only [separator, ↓reduceIte, List.nil_append, List.append_assoc,
          skipSpace_append blank, skipSpace_append blankLead, List.cons_append,
          skipSpace_cons visible]
      have here := passed [] (others ++ rest) blank_nil closes
      rw [List.nil_append, List.cons_append] at here
      simp only [skipItems, start, inside, ↓reduceIte, here, bind, Except.bind, onward]
    | false =>
      have start : skipSpace (gap ++ (separator false ++ (lead ++ (c :: tail ++ others))) ++ rest) =
          ',' :: (lead ++ (c :: tail ++ (others ++ rest))) := by
        simp only [separator, Bool.false_eq_true, ↓reduceIte, List.append_assoc,
          skipSpace_append blank, List.cons_append, List.nil_append, skipSpace_cons (c := ',') rfl]
      simp only [skipItems, start, Char.reduceEq, Bool.false_eq_true, ↓reduceIte,
        passed lead (others ++ rest) blankLead closes, bind, Except.bind, onward]

/-- A member is passed over, its name whether or not it means a string. -/
theorem skipMember_spelled (key : List Piece) {lead pause space spelled rest : List Char}
    (blankLead : Blank lead) (blankPause : Blank pause) (blankSpace : Blank space)
    (passes : Passes skip spelled) (closes : Closes rest) :
    skipMember skip (lead ++ (Piece.quoted key ++ (pause ++ ':' :: (space ++ (spelled ++ rest))))) =
      .ok rest := by
  have start : skipSpace (lead ++ (Piece.quoted key ++
      (pause ++ ':' :: (space ++ (spelled ++ rest))))) =
        '"' :: (Piece.closed key ++ (pause ++ ':' :: (space ++ (spelled ++ rest)))) := by
    rw [skipSpace_append blankLead, Piece.quoted, List.cons_append, skipSpace_cons rfl]
  simp only [skipMember, start, ↓reduceIte, skipText_closed, bind, Except.bind,
    skipSpace_append blankPause, skipSpace_cons (c := ':') rfl,
    passes space rest blankSpace closes]

theorem skipMembers_spelled
    (passes : ∀ (node : Node) text, node.Spells text → text.length < bound → Passes skip text) :
    (members : List (List Piece × Node)) → (first : Bool) → (inside : List Char) →
    Node.SpellsMembers first members inside → inside.length < bound →
    (steps : Nat) → members.length < steps → (rest : List Char) →
    skipMembers skip steps first (inside ++ rest) = .ok rest
  | [], first, inside, spells, _, steps, enough, rest => by
    obtain ⟨steps, rfl⟩ := Nat.exists_eq_succ_of_ne_zero (Nat.ne_of_gt enough)
    obtain ⟨gap, blank, rfl⟩ := spells
    rw [List.append_assoc]
    simp only [skipMembers, skipSpace_append blank, List.singleton_append,
      skipSpace_cons (c := '\x7d') rfl, ↓reduceIte]
  | (key, node) :: members, first, inside, spells, short, steps, enough, rest => by
    obtain ⟨steps, rfl⟩ := Nat.exists_eq_succ_of_ne_zero (Nat.ne_of_gt (Nat.zero_lt_of_lt enough))
    obtain ⟨gap, lead, pause, space, spelled, others, blank, blankLead, blankPause, blankSpace,
      spells, later, rfl⟩ := spells
    simp only [List.length_append, List.length_cons] at short
    have passed := passes node spelled spells (by omega)
    have onward := skipMembers_spelled passes members false others later (by omega) steps
      (Nat.lt_of_succ_lt_succ enough) rest
    have member {lead : List Char} (blankLead : Blank lead) := skipMember_spelled key blankLead
      blankPause blankSpace passed (closes_members later rest)
    cases first with
    | true =>
      have start : skipSpace (gap ++ (separator true ++ (lead ++ (Piece.quoted key ++
          (pause ++ ':' :: (space ++ (spelled ++ others)))))) ++ rest) =
            '"' :: (Piece.closed key ++ (pause ++ ':' :: (space ++ (spelled ++
              (others ++ rest))))) := by
        simp only [separator, ↓reduceIte, List.nil_append, List.append_assoc,
          skipSpace_append blank, skipSpace_append blankLead, Piece.quoted, List.cons_append,
          skipSpace_cons (c := '"') rfl]
      have here := member blank_nil
      rw [List.nil_append, Piece.quoted, List.cons_append] at here
      simp only [skipMembers, start, Char.reduceEq, ↓reduceIte, here, bind, Except.bind, onward]
    | false =>
      have start : skipSpace (gap ++ (separator false ++ (lead ++ (Piece.quoted key ++
          (pause ++ ':' :: (space ++ (spelled ++ others)))))) ++ rest) =
            ',' :: (lead ++ (Piece.quoted key ++ (pause ++ ':' :: (space ++ (spelled ++
              (others ++ rest)))))) := by
        simp only [separator, Bool.false_eq_true, ↓reduceIte, List.append_assoc,
          skipSpace_append blank, List.cons_append, List.nil_append, skipSpace_cons (c := ',') rfl]
      simp only [skipMembers, start, Char.reduceEq, Bool.false_eq_true, ↓reduceIte,
        member blankLead, bind, Except.bind, onward]

end Loops

/-- A node is passed over as soon as the count exceeds the length of its text. -/
theorem skipNested_spelled (depth : Nat) (node : Node) (text : List Char)
    (spells : node.Spells text) (short : text.length < depth) :
    Passes (skipNested depth) text := by
  induction depth generalizing node text with
  | zero => cases short
  | succ depth ih =>
    intro gap rest blank closes
    obtain ⟨c, tail, rfl, begins⟩ := spells.exists_cons
    have shorter : tail.length < depth := Nat.lt_of_succ_lt_succ short
    have start : skipSpace (gap ++ (c :: tail ++ rest)) = c :: (tail ++ rest) := by
      rw [skipSpace_append blank, List.cons_append,
        skipSpace_cons (Node.visible_of_begins begins).1]
    rw [skipNested, start]
    cases node with
    | null =>
      obtain ⟨rfl, rfl⟩ := List.cons_eq_cons.mp (show c :: tail = 'n' :: "ull".toList from spells)
      rfl
    | flag value =>
      cases value with
      | true =>
        obtain ⟨rfl, rfl⟩ := List.cons_eq_cons.mp (show c :: tail = 't' :: "rue".toList from spells)
        rfl
      | false =>
        obtain ⟨rfl, rfl⟩ :=
          List.cons_eq_cons.mp (show c :: tail = 'f' :: "alse".toList from spells)
        rfl
    | number token =>
      have passed := skipNumber_spelled token closes
      cases negative : token.negative with
      | true =>
        simp only [Node.Spells, Token.text, negative, ↓reduceIte] at spells
        obtain ⟨rfl, rfl⟩ := List.cons_eq_cons.mp spells
        exact passed
      | false =>
        simp only [Node.Spells, Token.text, negative, Bool.false_eq_true, ↓reduceIte] at spells
        rw [← spells, List.cons_append] at passed
        have digit : c.isDigit = true := by
          obtain ⟨rfl, -⟩ := List.cons_eq_cons.mp spells
          exact token.whole.spelled _ List.mem_cons_self
        have other (letter : Char) (none : letter.isDigit = false) : c ≠ letter := by
          rintro rfl
          rw [none] at digit
          cases digit
        simp only [other 'n' rfl, other 't' rfl, other 'f' rfl, other '-' rfl, digit, ↓reduceIte,
          passed]
    | string pieces =>
      obtain ⟨rfl, rfl⟩ := List.cons_eq_cons.mp spells
      exact skipText_closed pieces rest
    | list items =>
      obtain ⟨inside, same, spells⟩ := spells
      obtain ⟨rfl, rfl⟩ := List.cons_eq_cons.mp same
      have enough := Nat.lt_of_le_of_lt (length_le_items items true tail spells) shorter
      exact skipItems_spelled ih items true tail spells shorter depth enough rest
    | object members =>
      obtain ⟨inside, same, spells⟩ := spells
      obtain ⟨rfl, rfl⟩ := List.cons_eq_cons.mp same
      have enough := Nat.lt_of_le_of_lt (length_le_members members true tail spells) shorter
      exact skipMembers_spelled ih members true tail spells shorter depth enough rest

/-- Whatever spells a node is passed over. -/
theorem passes_skipValue {node : Node} {text : List Char} (spells : node.Spells text) :
    Passes skipValue text := by
  intro gap rest blank closes
  refine skipNested_spelled _ node text spells ?_ gap rest blank closes
  simp only [List.length_append]
  omega

end MonitorFeed.Json
