import MonitorFeed.Proofs.Json.Passage

/-!
What the scanners take of a text. Whatever is scanned or passed over is spelled by a node, so nothing
but JSON is ever taken.
-/

namespace MonitorFeed.Json

/-- What was taken of a text spells a node, white space before it. -/
def Spans (text rest : List Char) : Prop :=
  ∃ gap node spelled, Blank gap ∧ Node.Spells node spelled ∧ text = gap ++ (spelled ++ rest)

variable {text rest : List Char}

section Words

theorem exists_skipSpace (text : List Char) : ∃ gap, Blank gap ∧ text = gap ++ skipSpace text :=
  ⟨text.takeWhile isSpace, fun _ member => List.mem_takeWhile_imp member,
    List.takeWhile_append_dropWhile.symm⟩

theorem exists_of_skipSpace {other : List Char} (skipped : skipSpace text = other) :
    ∃ gap, Blank gap ∧ text = gap ++ other :=
  skipped ▸ exists_skipSpace text

theorem Blank.append {gap other : List Char} (blank : Blank gap) (blankOther : Blank other) :
    Blank (gap ++ other) :=
  List.forall_mem_append.mpr ⟨blank, blankOther⟩

theorem Spans.after {gap : List Char} (blank : Blank gap) (spans : Spans text rest) :
    Spans (gap ++ text) rest := by
  obtain ⟨inner, node, spelled, blankInner, spells, rfl⟩ := spans
  exact ⟨gap ++ inner, node, spelled, blank.append blankInner, spells, by simp⟩

theorem Node.Spells.spans {node : Node} {spelled : List Char} (spells : node.Spells spelled)
    (rest : List Char) : Spans (spelled ++ rest) rest :=
  ⟨[], node, spelled, blank_nil, spells, rfl⟩

theorem eq_of_word {letters : List Char} (read : word letters text = .ok rest) :
    text = letters ++ rest := by
  induction letters generalizing text with
  | nil => exact Except.ok.inj read
  | cons letter letters ih =>
    cases text with
    | nil => cases read
    | cons c tail =>
      rw [word] at read
      split at read
      · rename_i same
        rw [same, ih read, List.cons_append]
      · cases read

end Words

section Strings

theorem exists_of_codeUnit {value : Nat} (read : codeUnit text = .ok value) :
    ∃ digits after, digits.length = 4 ∧ hexValue? digits = some value ∧
      text = digits ++ after := by
  unfold codeUnit at read
  split at read
  · cases read
  · split at read
    · rename_i a b c d after _
      split at read
      · rename_i meaning
        obtain rfl := Except.ok.inj read
        exact ⟨[a, b, c, d], after, rfl, meaning, rfl⟩
      · cases read
    · cases read

/-- The characters that are counted as a code unit, or as two of them, spell it. -/
theorem exists_pieces_of_unitEscape {c : Char} {count : Nat}
    (read : unitEscape text = .ok (c, count)) :
    ∃ pieces : List Piece, '\\' :: 'u' :: text = pieces.flatMap Piece.text ++ text.drop count := by
  unfold unitEscape at read
  obtain ⟨lead, first, read⟩ := bind_eq_ok_iff.mp read
  obtain ⟨digits, after, four, meaning, rfl⟩ := exists_of_codeUnit first
  have dropped : (digits ++ after).drop 4 = after := by rw [← four, List.drop_left]
  simp only [dropped] at read
  split at read
  · cases read
  split at read
  · split at read
    · cases read
    · split at read
      · cases read
      · obtain ⟨trail, second, read⟩ := bind_eq_ok_iff.mp read
        obtain ⟨others, left, otherFour, otherMeaning, rfl⟩ := exists_of_codeUnit second
        split at read
        · obtain ⟨rfl, rfl⟩ := Prod.mk.inj (Except.ok.inj read)
          refine ⟨[.unit digits lead four meaning, .unit others trail otherFour otherMeaning], ?_⟩
          have whole : digits ++ '\\' :: 'u' :: (others ++ left) =
              (digits ++ '\\' :: 'u' :: others) ++ left := by simp
          have length : (digits ++ '\\' :: 'u' :: others).length = 10 := by
            simp [four, otherFour]
          rw [whole, ← length, List.drop_left]
          simp [Piece.text]
        · cases read
      · cases read
    · cases read
  · obtain ⟨rfl, rfl⟩ := Prod.mk.inj (Except.ok.inj read)
    refine ⟨[.unit digits lead four meaning], ?_⟩
    rw [dropped]
    simp [Piece.text]

theorem exists_pieces_of_unescape {c : Char} {count : Nat}
    (read : unescape text = .ok (c, count)) :
    ∃ pieces : List Piece, '\\' :: text = pieces.flatMap Piece.text ++ text.drop count := by
  cases text with
  | nil => cases read
  | cons letter tail =>
    simp only [unescape] at read
    split at read
    · rename_i unit
      subst unit
      cases escaped : unitEscape tail with
      | error fault =>
        rw [escaped] at read
        cases read
      | ok result =>
        rw [escaped] at read
        obtain ⟨-, rfl⟩ := Prod.mk.inj (Except.ok.inj read)
        exact exists_pieces_of_unitEscape escaped
    · split at read
      · rename_i meaning
        obtain ⟨-, rfl⟩ := Prod.mk.inj (Except.ok.inj read)
        exact ⟨[.short letter _ meaning], rfl⟩
      · cases read

theorem exists_piece_of_skipEscape {count : Nat} (passed : skipEscape text = .ok count) :
    ∃ piece : Piece, '\\' :: text = piece.text ++ text.drop count := by
  cases text with
  | nil => cases passed
  | cons letter tail =>
    simp only [skipEscape] at passed
    split at passed
    · rename_i unit
      subst unit
      cases read : codeUnit tail with
      | error fault =>
        rw [read] at passed
        cases passed
      | ok value =>
        rw [read] at passed
        obtain rfl := Except.ok.inj passed
        obtain ⟨digits, after, four, meaning, rfl⟩ := exists_of_codeUnit read
        refine ⟨.unit digits value four meaning, ?_⟩
        rw [List.drop_succ_cons, ← four, List.drop_left]
        rfl
    · split at passed
      · rename_i known
        obtain rfl := Except.ok.inj passed
        obtain ⟨c, meaning⟩ := Option.isSome_iff_exists.mp known
        exact ⟨.short letter c meaning, rfl⟩
      · cases passed

/-- Pieces may stand before others. -/
private theorem closed_append (pieces : List Piece) {others : List Piece} {after : List Char}
    (begins : text = pieces.flatMap Piece.text ++ after)
    (goesOn : after = Piece.closed others ++ rest) :
    text = Piece.closed (pieces ++ others) ++ rest := by
  rw [begins, goesOn]
  simp [Piece.closed]

/-- What is left of an escape is passed over before the string goes on. -/
theorem exists_pieces_of_textChars {count : Nat} {chars : List Char}
    (read : textChars count text = .ok (chars, rest)) :
    ∃ pieces, text.drop count = Piece.closed pieces ++ rest := by
  induction text generalizing count chars with
  | nil =>
    cases count <;> cases read
  | cons c tail ih =>
    cases count with
    | succ count =>
      rw [textChars] at read
      exact ih read
    | zero =>
      rw [textChars.eq_3] at read
      split at read
      · rename_i quote
        obtain ⟨-, rfl⟩ := Prod.mk.inj (Except.ok.inj read)
        exact ⟨[], by rw [quote]; rfl⟩
      split at read
      · rename_i slash
        obtain ⟨⟨value, skipped⟩, escaped, read⟩ := bind_eq_ok_iff.mp read
        obtain ⟨⟨others, left⟩, later, read⟩ := bind_eq_ok_iff.mp read
        obtain ⟨-, rfl⟩ := Prod.mk.inj (Except.ok.inj read)
        obtain ⟨pieces, begins⟩ := exists_pieces_of_unescape escaped
        obtain ⟨further, goesOn⟩ := ih later
        exact ⟨pieces ++ further, by rw [slash]; exact closed_append pieces begins goesOn⟩
      split at read
      · cases read
      · rename_i quote slash visible
        obtain ⟨⟨others, left⟩, later, read⟩ := bind_eq_ok_iff.mp read
        obtain ⟨-, rfl⟩ := Prod.mk.inj (Except.ok.inj read)
        obtain ⟨further, goesOn⟩ := ih later
        have usual : c ≠ '"' ∧ c ≠ '\\' ∧ 0x20 ≤ c.toNat := ⟨quote, slash, Nat.le_of_not_lt visible⟩
        exact ⟨.plain c usual :: further, closed_append [.plain c usual] rfl goesOn⟩

theorem exists_pieces_of_skipChars {count : Nat} (passed : skipChars count text = .ok rest) :
    ∃ pieces, text.drop count = Piece.closed pieces ++ rest := by
  induction text generalizing count with
  | nil =>
    cases count <;> cases passed
  | cons c tail ih =>
    cases count with
    | succ count =>
      rw [skipChars] at passed
      exact ih passed
    | zero =>
      rw [skipChars.eq_3] at passed
      split at passed
      · rename_i quote
        obtain rfl := Except.ok.inj passed
        exact ⟨[], by rw [quote]; rfl⟩
      split at passed
      · rename_i slash
        obtain ⟨skipped, escaped, later⟩ := bind_eq_ok_iff.mp passed
        obtain ⟨piece, begins⟩ := exists_piece_of_skipEscape escaped
        obtain ⟨further, goesOn⟩ := ih later
        refine ⟨piece :: further, ?_⟩
        rw [slash]
        exact closed_append [piece] (by simpa using begins) goesOn
      split at passed
      · cases passed
      · rename_i quote slash visible
        obtain ⟨further, goesOn⟩ := ih passed
        have usual : c ≠ '"' ∧ c ≠ '\\' ∧ 0x20 ≤ c.toNat := ⟨quote, slash, Nat.le_of_not_lt visible⟩
        exact ⟨.plain c usual :: further, closed_append [.plain c usual] rfl goesOn⟩

theorem exists_pieces_of_scanText {value : String} (read : scanText text = .ok (value, rest)) :
    ∃ pieces, text = Piece.closed pieces ++ rest := by
  obtain ⟨⟨chars, left⟩, scanned, read⟩ := bind_eq_ok_iff.mp read
  obtain ⟨-, rfl⟩ := Prod.mk.inj (Except.ok.inj read)
  exact exists_pieces_of_textChars scanned

theorem exists_pieces_of_skipText (passed : skipText text = .ok rest) :
    ∃ pieces, text = Piece.closed pieces ++ rest :=
  exists_pieces_of_skipChars passed

end Strings

section Numbers

/-- A text that begins with a digit begins with all the digits that are dropped from it. -/
theorem exists_leadingDigits (begins : startsWithDigit text = true) :
    ∃ digits : Digits, text = digits.text ++ text.dropWhile Char.isDigit := by
  cases text with
  | nil => cases begins
  | cons c tail =>
    have digit : c.isDigit = true := begins
    have spelled : ∀ d ∈ c :: tail.takeWhile Char.isDigit, d.isDigit = true :=
      List.forall_mem_cons.mpr ⟨digit, fun _ member => List.mem_takeWhile_imp member⟩
    refine ⟨⟨c, tail.takeWhile Char.isDigit, spelled⟩, ?_⟩
    rw [List.dropWhile_cons_of_pos digit, Digits.text, List.cons_append,
      List.takeWhile_append_dropWhile]

theorem exists_takeSign_append (text : List Char) (capital : Bool) (digits : Digits) :
    ∃ sign, text = Exponent.signText ⟨capital, sign, digits⟩ ++ (takeSign text).2 := by
  unfold takeSign
  split
  · exact ⟨some true, rfl⟩
  · exact ⟨some false, rfl⟩
  · exact ⟨none, rfl⟩

theorem exists_exponent_of_skipExponent (passed : skipExponent text = .ok rest) (capital : Bool) :
    ∃ exponent : Exponent, exponent.capital = capital ∧
      text = exponent.signText ++ (exponent.digits.text ++ rest) := by
  rw [skipExponent_eq] at passed
  split at passed
  · rename_i begins
    obtain rfl := Except.ok.inj passed
    obtain ⟨digits, spelled⟩ := exists_leadingDigits begins
    obtain ⟨sign, signed⟩ := exists_takeSign_append text capital digits
    refine ⟨⟨capital, sign, digits⟩, rfl, ?_⟩
    rw [← spelled]
    exact signed
  · cases passed

theorem exists_exponent_of_skipRealTail (passed : skipRealTail text = .ok rest) :
    ∃ exponent : Option Exponent, text = exponent.elim [] Exponent.text ++ rest := by
  unfold skipRealTail at passed
  split at passed
  · obtain ⟨exponent, small, rfl⟩ := exists_exponent_of_skipExponent passed false
    refine ⟨some exponent, ?_⟩
    simp [Exponent.text, Exponent.letter, small]
  · obtain ⟨exponent, large, rfl⟩ := exists_exponent_of_skipExponent passed true
    refine ⟨some exponent, ?_⟩
    simp [Exponent.text, Exponent.letter, large]
  · obtain rfl := Except.ok.inj passed
    exact ⟨none, rfl⟩

theorem exists_tail_of_skipTail (passed : skipTail text = .ok rest) :
    ∃ (fraction : Option Digits) (exponent : Option Exponent),
      text = (fraction.elim [] fun digits => '.' :: digits.text) ++
        (exponent.elim [] Exponent.text ++ rest) := by
  unfold skipTail at passed
  split at passed
  · split at passed
    · rename_i begins
      obtain ⟨digits, spelled⟩ := exists_leadingDigits begins
      obtain ⟨exponent, goesOn⟩ := exists_exponent_of_skipRealTail passed
      refine ⟨some digits, exponent, ?_⟩
      rw [← goesOn, Option.elim_some, List.cons_append, ← spelled]
    · cases passed
  · obtain ⟨exponent, goesOn⟩ := exists_exponent_of_skipRealTail passed
    exact ⟨none, exponent, goesOn⟩

/-- What is passed over as a number spells one, be it after a minus or not. -/
theorem exists_token_of_skipNumber (passed : skipNumber text = .ok rest) (negative : Bool) :
    ∃ token : Token, token.negative = negative ∧ text = token.unsigned ++ rest := by
  cases text with
  | nil => cases passed
  | cons c tail =>
    simp only [skipNumber] at passed
    split at passed
    · cases passed
    · rename_i zero
      split at passed
      · cases passed
      · obtain ⟨fraction, exponent, goesOn⟩ := exists_tail_of_skipTail passed
        have spelled : ∀ d ∈ [c], d.isDigit = true :=
          List.forall_mem_singleton.mpr (Decimal.isDigit_of_digit? zero)
        refine ⟨⟨negative, ⟨c, [], spelled⟩, fraction, exponent, fun _ => rfl⟩, rfl, ?_⟩
        rw [goesOn]
        simp [Token.unsigned, Token.fractionText, Token.exponentText, Digits.text]
    · rename_i d positive value
      have digit := Decimal.isDigit_of_digit? value
      obtain ⟨fraction, exponent, goesOn⟩ := exists_tail_of_skipTail passed
      have begins : startsWithDigit (c :: tail) = true := digit
      obtain ⟨digits, whole⟩ := exists_leadingDigits begins
      obtain ⟨rfl, -⟩ := List.cons_eq_cons.mp whole
      have leading : digits.first = '0' → digits.others = [] := by
        intro zero
        rw [zero] at value
        exact absurd (Option.some.inj value).symm positive
      refine ⟨⟨negative, digits, fraction, exponent, leading⟩, rfl, ?_⟩
      rw [List.dropWhile_cons_of_pos digit, goesOn] at whole
      rw [whole]
      simp [Token.unsigned, Token.fractionText, Token.exponentText]

theorem dropDigits_of_stops (stops : startsWithDigit text = false) :
    text.dropWhile Char.isDigit = text := by
  have dropped := dropDigits (List.forall_mem_nil _) stops
  rwa [List.nil_append] at dropped

theorem dropDigits_takeDigits (significand count : Nat) :
    (takeDigits significand count text).2.2.dropWhile Char.isDigit =
      text.dropWhile Char.isDigit := by
  induction text generalizing significand count with
  | nil => rfl
  | cons c tail ih =>
    unfold takeDigits
    split
    · rfl
    · rename_i value
      split
      · rw [ih, List.dropWhile_cons_of_pos (Decimal.isDigit_of_digit? value)]
      · rfl

theorem dropDigits_of_takeExponent {value : Nat} :
    (∀ {exponent}, takeExponent value text = .ok (exponent, rest) →
      rest = text.dropWhile Char.isDigit) ∧
    (takeExponent value text = .error rest →
      rest.dropWhile Char.isDigit = text.dropWhile Char.isDigit) := by
  induction text generalizing value with
  | nil =>
    refine ⟨?_, fun taken => by cases taken⟩
    intro exponent taken
    obtain ⟨-, rfl⟩ := Prod.mk.inj (Except.ok.inj taken)
    rfl
  | cons c tail ih =>
    rw [takeExponent]
    split
    · rename_i other
      refine ⟨?_, fun taken => by cases taken⟩
      intro exponent taken
      obtain ⟨-, rfl⟩ := Prod.mk.inj (Except.ok.inj taken)
      have stops : startsWithDigit (c :: tail) = false := by
        rw [startsWithDigit, Bool.eq_false_iff]
        intro digit
        rw [Decimal.digit?_of_isDigit digit] at other
        cases other
      exact (dropDigits_of_stops stops).symm
    · rename_i digit
      rw [List.dropWhile_cons_of_pos (Decimal.isDigit_of_digit? digit)]
      split
      · exact ih
      · constructor
        · intro exponent taken
          cases taken
        · intro taken
          obtain rfl := Except.error.inj taken
          rfl

section Scanned

variable {negative : Bool} {significand : Nat} {start : Int} {number : Number}

private theorem rest_of_finishReal
    (read : finishReal negative significand start text = .ok (number, rest)) : text = rest := by
  unfold finishReal at read
  split at read
  · exact (Prod.mk.inj (Except.ok.inj read)).2
  · cases read

/-- An exponent that is scanned is passed over alike, also where it is too large to be counted. -/
theorem skipExponent_of_scanExponent
    (read : scanExponent negative significand start text = .ok (number, rest)) :
    skipExponent text = .ok rest := by
  rw [scanExponent_eq] at read
  rw [skipExponent_eq]
  generalize (takeSign text).1 = below, (takeSign text).2 = unsigned at read ⊢
  cases unsigned with
  | nil => cases read
  | cons c tail =>
    simp only [scanExponentDigits] at read
    split at read
    · cases read
    · rename_i value
      have digit := Decimal.isDigit_of_digit? value
      have begins : startsWithDigit (c :: tail) = true := digit
      rw [if_pos begins, List.dropWhile_cons_of_pos digit]
      split at read
      · rename_i taken
        rw [← dropDigits_of_takeExponent.1 taken, rest_of_finishReal read]
      · rename_i taken
        split at read
        · cases read
        · rw [← dropDigits_of_takeExponent.2 taken, rest_of_finishReal read]

theorem skipRealTail_of_scanRealTail
    (read : scanRealTail negative significand start text = .ok (number, rest)) :
    skipRealTail text = .ok rest := by
  unfold scanRealTail at read
  unfold skipRealTail
  split at read
  · exact skipExponent_of_scanExponent read
  · exact skipExponent_of_scanExponent read
  · rw [rest_of_finishReal read]

theorem skipTail_of_scanFraction
    (read : scanFraction negative significand start text = .ok (number, rest)) :
    skipTail ('.' :: text) = .ok rest := by
  simp only [scanFraction] at read
  split at read
  · rename_i begins
    rw [dropDigits_takeDigits] at read
    simp only [skipTail, begins, ↓reduceIte, skipRealTail_of_scanRealTail read]
  · split at read <;> cases read

theorem skipTail_of_scanRealTail
    (read : scanRealTail negative significand start text = .ok (number, rest))
    (pointless : ∀ tail, text ≠ '.' :: tail) : skipTail text = .ok rest := by
  unfold skipTail
  split
  · exact absurd rfl (pointless _)
  · exact skipRealTail_of_scanRealTail read

theorem skipTail_of_scanTail (read : scanTail negative significand text = .ok (number, rest)) :
    skipTail text = .ok rest := by
  unfold scanTail at read
  split at read
  · exact skipTail_of_scanFraction read
  · exact skipExponent_of_scanExponent read
  · exact skipExponent_of_scanExponent read
  · rename_i pointless lower upper
    have same : text = rest := by
      split at read
      · exact (Prod.mk.inj (Except.ok.inj read)).2
      · split at read
        · exact (Prod.mk.inj (Except.ok.inj read)).2
        · exact (Prod.mk.inj (Except.ok.inj read)).2
    unfold skipTail skipRealTail
    split
    · exact absurd rfl (pointless _)
    · split
      · exact absurd rfl (lower _)
      · exact absurd rfl (upper _)
      · rw [same]

theorem skipTail_of_scanLong (read : scanLong negative significand text = .ok (number, rest)) :
    skipTail (text.dropWhile Char.isDigit) = .ok rest := by
  simp only [scanLong, List.span_eq_takeWhile_dropWhile] at read
  split at read
  · rename_i begins
    rw [begins]
    exact skipTail_of_scanFraction read
  · rename_i pointless
    exact skipTail_of_scanRealTail read pointless

theorem skipNumber_of_scanNumber (read : scanNumber negative text = .ok (number, rest)) :
    skipNumber text = .ok rest := by
  cases text with
  | nil => cases read
  | cons c tail =>
    simp only [scanNumber] at read
    simp only [skipNumber]
    split at read
    · cases read
    · split at read
      · cases read
      · rename_i stops
        rw [if_neg stops]
        exact skipTail_of_scanTail read
    · rw [← dropDigits_takeDigits]
      split at read
      · exact skipTail_of_scanLong read
      · rename_i stops
        rw [dropDigits_of_stops (Bool.eq_false_iff.mpr stops)]
        exact skipTail_of_scanTail read

end Scanned

theorem exists_token_of_scanNumber {negative : Bool} {number : Number}
    (read : scanNumber negative text = .ok (number, rest)) :
    ∃ token : Token, token.negative = negative ∧ text = token.unsigned ++ rest :=
  exists_token_of_skipNumber (skipNumber_of_scanNumber read) negative

end Numbers

end MonitorFeed.Json
