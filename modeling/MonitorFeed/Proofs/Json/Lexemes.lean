import MonitorFeed.Proofs.Json.Number
import MonitorFeed.Proofs.Json.Syntax
import MonitorFeed.Proofs.Json.Text
import MonitorFeed.Proofs.Result
import Mathlib.Data.List.TakeWhile

/-!
The tokens of JSON text, read wherever they stand. Strings are read as what their pieces mean, and a
number comes to the same wherever it is closed.
-/

namespace MonitorFeed

namespace Json

theorem skipSpace_append {gap : List Char} (blank : Blank gap) (text : List Char) :
    skipSpace (gap ++ text) = skipSpace text := by
  induction gap with
  | nil => rfl
  | cons c gap ih =>
    obtain ⟨space, others⟩ := List.forall_mem_cons.mp blank
    rw [List.cons_append, skipSpace, List.dropWhile_cons_of_pos space]
    exact ih others

section Strings

theorem textChars_skip (skipped rest : List Char) :
    textChars skipped.length (skipped ++ rest) = textChars 0 rest := by
  induction skipped with
  | nil => rfl
  | cons c skipped ih => exact ih

/-- Four hexadecimal digits are a code unit. -/
theorem codeUnit_digits {digits : List Char} {value : Nat} (four : digits.length = 4)
    (meaning : hexValue? digits = some value) (rest : List Char) :
    codeUnit (digits ++ rest) = .ok value := by
  obtain ⟨a, b, c, d, rfl⟩ : ∃ a b c d, digits = [a, b, c, d] := by
    match digits, four with
    | [a, b, c, d], _ => exact ⟨a, b, c, d, rfl⟩
  have whole : ¬ Text.Utf8.size [a, b, c, d] < 4 := by
    have := Char.utf8Size_pos a
    have := Char.utf8Size_pos b
    have := Char.utf8Size_pos c
    have := Char.utf8Size_pos d
    simp only [Text.Utf8.size, List.foldr_cons, List.foldr_nil]
    omega
  simp only [codeUnit, List.cons_append, List.nil_append, List.take_succ_cons, List.take_zero,
    whole, ↓reduceIte, meaning]

/-- An escape is read as its character and passed. -/
private theorem textChars_of_unescape {spelled : List Char} {c : Char} {rest : List Char}
    (read : unescape (spelled ++ rest) = .ok (c, spelled.length)) :
    textChars 0 ('\\' :: (spelled ++ rest)) =
      (textChars 0 rest).map fun read => (c :: read.1, read.2) := by
  rw [textChars.eq_3]
  simp only [Char.reduceEq, ↓reduceIte, read, bind, Except.bind, textChars_skip]
  cases textChars 0 rest <;> rfl

private theorem textChars_of_unescape_error {text : List Char}
    (refused : (unescape text).toOption = none) : (textChars 0 ('\\' :: text)).toOption = none := by
  rw [textChars.eq_3]
  simp only [Char.reduceEq, ↓reduceIte]
  rw [toOption_bind, refused]
  rfl

private theorem unescape_unit (text : List Char) :
    unescape ('u' :: text) = (unitEscape text).map fun (c, count) => (c, count + 1) := rfl

section Units

variable {digits : List Char} {lead : Nat} (four : digits.length = 4)
  (meaning : hexValue? digits = some lead) (rest : List Char)

include four

private theorem drop_digits : (digits ++ rest).drop 4 = rest := by
  rw [← four, List.drop_left]

include meaning

/-- A code unit that is no surrogate is a character. -/
private theorem unitEscape_single (notTrail : isTrailSurrogate lead = false)
    (notLead : isLeadSurrogate lead = false) :
    unitEscape (digits ++ rest) = .ok (Char.ofNat lead, 4) := by
  simp only [unitEscape, codeUnit_digits four meaning, bind, Except.bind, notTrail, notLead,
    Bool.false_eq_true, ↓reduceIte, pure, Except.pure]

private theorem unitEscape_trail (trail : isTrailSurrogate lead = true) :
    (unitEscape (digits ++ rest)).toOption = none := by
  simp only [unitEscape, codeUnit_digits four meaning, bind, Except.bind, trail, ↓reduceIte]
  rfl

/-- A leading surrogate that another code unit follows. -/
private theorem unitEscape_pair (notTrail : isTrailSurrogate lead = false)
    (leads : isLeadSurrogate lead = true) {second : List Char} {trail : Nat}
    (secondFour : second.length = 4) (secondMeaning : hexValue? second = some trail) :
    (unitEscape (digits ++ '\\' :: 'u' :: (second ++ rest))).toOption =
      if isTrailSurrogate trail then some (joinSurrogates lead trail, 10) else none := by
  simp only [unitEscape, codeUnit_digits four meaning, bind, Except.bind, notTrail, leads,
    Bool.false_eq_true, ↓reduceIte, drop_digits four, codeUnit_digits secondFour secondMeaning]
  split <;> rfl

/-- A leading surrogate that no code unit follows. -/
private theorem unitEscape_lone (notTrail : isTrailSurrogate lead = false)
    (leads : isLeadSurrogate lead = true) (alone : ∀ more, rest ≠ '\\' :: 'u' :: more) :
    (unitEscape (digits ++ rest)).toOption = none := by
  simp only [unitEscape, codeUnit_digits four meaning, bind, Except.bind, notTrail, leads,
    Bool.false_eq_true, ↓reduceIte, drop_digits four]
  split
  · rfl
  · split
    · rfl
    · exact absurd rfl (alone _)
    · rfl
  · rfl

private theorem textChars_trail (trail : isTrailSurrogate lead = true) :
    (textChars 0 ('\\' :: ('u' :: digits ++ rest))).toOption = none := by
  refine textChars_of_unescape_error ?_
  rw [List.cons_append, unescape_unit, toOption_map, unitEscape_trail four meaning _ trail]
  rfl

private theorem textChars_lone (notTrail : isTrailSurrogate lead = false)
    (leads : isLeadSurrogate lead = true) (alone : ∀ more, rest ≠ '\\' :: 'u' :: more) :
    (textChars 0 ('\\' :: ('u' :: digits ++ rest))).toOption = none := by
  refine textChars_of_unescape_error ?_
  rw [List.cons_append, unescape_unit, toOption_map,
    unitEscape_lone four meaning _ notTrail leads alone]
  rfl

/-- Two code units that may be a pair of surrogates. -/
private theorem textChars_pair (notTrail : isTrailSurrogate lead = false)
    (leads : isLeadSurrogate lead = true) {second : List Char} {trail : Nat}
    (secondFour : second.length = 4) (secondMeaning : hexValue? second = some trail) :
    (textChars 0 ('\\' :: ('u' :: digits ++ '\\' :: 'u' :: (second ++ rest)))).toOption =
      if isTrailSurrogate trail then
        (textChars 0 rest).toOption.map fun read => (joinSurrogates lead trail :: read.1, read.2)
      else none := by
  have pair := unitEscape_pair four meaning rest notTrail leads secondFour secondMeaning
  split
  · rename_i paired
    rw [if_pos paired, toOption_eq_some_iff] at pair
    have text : 'u' :: digits ++ '\\' :: 'u' :: (second ++ rest) =
        ('u' :: digits ++ '\\' :: 'u' :: second) ++ rest := by simp
    have length : ('u' :: digits ++ '\\' :: 'u' :: second).length = 11 := by
      simp [four, secondFour]
    rw [← toOption_map, text]
    refine congrArg _ (textChars_of_unescape ?_)
    rw [length, ← text, List.cons_append, unescape_unit, pair]
    rfl
  · rename_i single
    rw [if_neg single] at pair
    refine textChars_of_unescape_error ?_
    rw [List.cons_append, unescape_unit, toOption_map, pair]
    rfl

private theorem textChars_single (notTrail : isTrailSurrogate lead = false)
    (notLead : isLeadSurrogate lead = false) :
    textChars 0 ('\\' :: ('u' :: digits ++ rest)) =
      (textChars 0 rest).map fun read => (Char.ofNat lead :: read.1, read.2) := by
  refine textChars_of_unescape ?_
  rw [List.cons_append, unescape_unit, unitEscape_single four meaning _ notTrail notLead,
    List.length_cons, four]
  rfl

end Units

private theorem textChars_plain {c : Char} (usual : c ≠ '"' ∧ c ≠ '\\' ∧ 0x20 ≤ c.toNat)
    (rest : List Char) :
    textChars 0 (c :: rest) = (textChars 0 rest).map fun read => (c :: read.1, read.2) := by
  obtain ⟨quote, slash, plain⟩ := usual
  rw [textChars.eq_3]
  simp only [quote, slash, Nat.not_lt.mpr plain, ↓reduceIte, bind, Except.bind]
  cases textChars 0 rest <;> rfl

theorem closed_unit (digits : List Char) {value : Nat} (four : digits.length = 4)
    (meaning : hexValue? digits = some value) (pieces : List Piece) (rest : List Char) :
    Piece.closed (.unit digits value four meaning :: pieces) ++ rest =
      '\\' :: ('u' :: digits ++ (Piece.closed pieces ++ rest)) := by
  simp [Piece.closed, Piece.text]

theorem ne_of_shortEscape? {letter c : Char} (meaning : shortEscape? letter = some c) :
    letter ≠ 'u' := by
  rintro rfl
  cases meaning

/-- What does not begin with a code unit spells none. -/
private theorem closed_ne_unit {piece : Piece}
    (other : ∀ digits value four meaning, piece ≠ .unit digits value four meaning)
    (pieces : List Piece) (rest more : List Char) :
    Piece.closed (piece :: pieces) ++ rest ≠ '\\' :: 'u' :: more := by
  intro same
  cases piece with
  | plain c usual => exact usual.2.1 (List.cons_eq_cons.mp same).1
  | short letter c meaning =>
    exact ne_of_shortEscape? meaning (List.cons_eq_cons.mp (List.cons_eq_cons.mp same).2).1
  | unit digits value four meaning => exact other _ _ _ _ rfl

section Meanings

variable {digits : List Char} {lead : Nat} {four : digits.length = 4}
  {meaning : hexValue? digits = some lead} {pieces : List Piece}

private theorem meaning?_of_trail (trail : isTrailSurrogate lead = true) :
    Piece.meaning? (.unit digits lead four meaning :: pieces) = none := by
  rw [Piece.meaning?.eq_def]
  simp only [trail, ↓reduceIte]

private theorem meaning?_of_single (notTrail : isTrailSurrogate lead = false)
    (notLead : isLeadSurrogate lead = false) :
    Piece.meaning? (.unit digits lead four meaning :: pieces) =
      (Piece.meaning? pieces).map (Char.ofNat lead :: ·) := by
  rw [Piece.meaning?.eq_def]
  simp only [notTrail, notLead, Bool.false_eq_true, ↓reduceIte]

end Meanings

/-- A string is read as what its pieces mean, whatever follows it. -/
theorem toOption_textChars : (pieces : List Piece) → (rest : List Char) →
    (textChars 0 (Piece.closed pieces ++ rest)).toOption =
      (Piece.meaning? pieces).map fun chars => (chars, rest)
  | [], rest => rfl
  | .plain c usual :: pieces, rest => by
    have text : Piece.closed (.plain c usual :: pieces) ++ rest =
        c :: (Piece.closed pieces ++ rest) := rfl
    rw [text, textChars_plain usual, toOption_map, toOption_textChars pieces rest, Piece.meaning?]
    cases Piece.meaning? pieces <;> rfl
  | .short letter c meaning :: pieces, rest => by
    have text : Piece.closed (.short letter c meaning :: pieces) ++ rest =
        '\\' :: letter :: (Piece.closed pieces ++ rest) := rfl
    rw [text, textChars_short (ne_of_shortEscape? meaning) meaning, toOption_map,
      toOption_textChars pieces rest, Piece.meaning?]
    cases Piece.meaning? pieces <;> rfl
  | .unit digits lead four meaning :: pieces, rest => by
    rw [closed_unit]
    by_cases trail : isTrailSurrogate lead = true
    · rw [textChars_trail four meaning _ trail, meaning?_of_trail trail]
      rfl
    have notTrail : isTrailSurrogate lead = false := Bool.eq_false_iff.mpr trail
    by_cases leads : isLeadSurrogate lead = true
    · cases pieces with
      | nil =>
        have alone (more : List Char) : Piece.closed [] ++ rest ≠ '\\' :: 'u' :: more := by
          intro same
          cases (List.cons_eq_cons.mp same).1
        rw [textChars_lone four meaning _ notTrail leads alone]
        simp only [Piece.meaning?, notTrail, leads, Bool.false_eq_true, ↓reduceIte, Option.map_none]
      | cons piece others =>
        cases piece with
        | unit second value secondFour secondMeaning =>
          have text : Piece.closed (.unit second value secondFour secondMeaning :: others) ++ rest =
              '\\' :: 'u' :: (second ++ (Piece.closed others ++ rest)) := closed_unit ..
          rw [text, textChars_pair four meaning _ notTrail leads secondFour secondMeaning]
          by_cases paired : isTrailSurrogate value = true
          · simp only [Piece.meaning?, notTrail, leads, paired, Bool.false_eq_true, ↓reduceIte,
              toOption_textChars others rest]
            cases Piece.meaning? others <;> rfl
          · simp only [Piece.meaning?, notTrail, leads, paired, Bool.false_eq_true, ↓reduceIte,
              Option.map_none]
        | _ =>
          rw [textChars_lone four meaning _ notTrail leads
            (closed_ne_unit (fun _ _ _ _ same => by cases same) others rest)]
          simp only [Piece.meaning?, notTrail, leads, Bool.false_eq_true, ↓reduceIte,
            Option.map_none]
    · have notLead : isLeadSurrogate lead = false := Bool.eq_false_iff.mpr leads
      rw [textChars_single four meaning _ notTrail notLead, meaning?_of_single notTrail notLead,
        toOption_map, toOption_textChars pieces rest]
      cases Piece.meaning? pieces <;> rfl

theorem toOption_scanText (pieces : List Piece) (rest : List Char) :
    (scanText (Piece.closed pieces ++ rest)).toOption =
      (Piece.string? pieces).map fun value => (value, rest) := by
  have read := toOption_textChars pieces rest
  rw [scanText, toOption_bind, read, Piece.string?]
  cases Piece.meaning? pieces <;> rfl

end Strings

/-- A reader comes to a verdict on a text wherever it is closed, and takes the whole of it. -/
def Agrees {α : Type} (read : List Char → Except Fault (α × List Char)) (text : List Char)
    (verdict : Option α) : Prop :=
  ∀ rest, Closes rest → (read (text ++ rest)).toOption = verdict.map fun value => (value, rest)

/-- A reader comes to a double, or to a fault, on a text wherever it is closed. -/
def AgreesOnReal (read : List Char → Except Fault (Number × List Char)) (text : List Char) : Prop :=
  ∃ real? : Option Float, Agrees read text (real?.map .real)

section Numbers

variable (negative : Bool) (significand : Nat)

theorem agreesOnReal_finishReal (exponent : Int) :
    AgreesOnReal (finishReal negative significand exponent) [] := by
  refine ⟨(scaleReal significand exponent).map fun value => if negative then -value else value,
    fun rest _ => ?_⟩
  rw [List.nil_append, finishReal]
  cases scaleReal significand exponent <;> rfl

theorem dropDigits {digits rest : List Char} (spelled : ∀ c ∈ digits, c.isDigit = true)
    (stops : startsWithDigit rest = false) : (digits ++ rest).dropWhile Char.isDigit = rest := by
  rw [dropDigits_append stops, List.dropWhile_eq_nil_iff.mpr spelled, List.nil_append]

/-- Digits are taken into an exponent to their end, or up to the one that makes it too large. -/
theorem takeExponent_spelled {digits : List Char} (spelled : ∀ c ∈ digits, c.isDigit = true)
    (value : Nat) :
    (∃ exponent, ∀ rest, startsWithDigit rest = false →
      takeExponent value (digits ++ rest) = .ok (exponent, rest)) ∨
    ∃ left, (∀ c ∈ left, c.isDigit = true) ∧
      ∀ rest, takeExponent value (digits ++ rest) = .error (left ++ rest) := by
  induction digits generalizing value with
  | nil =>
    refine .inl ⟨value, fun rest stops => ?_⟩
    cases rest with
    | nil => rfl
    | cons c rest => simp only [List.nil_append, takeExponent, digit?_of_startsWithDigit stops]
  | cons c digits ih =>
    obtain ⟨digit, others⟩ := List.forall_mem_cons.mp spelled
    have value? := Decimal.digit?_of_isDigit digit
    by_cases within : value * 10 + (c.toNat - '0'.toNat) ≤ largestExponent
    · simp only [List.cons_append, takeExponent, value?, within, ↓reduceIte]
      exact ih others _
    · refine .inr ⟨digits, others, fun rest => ?_⟩
      simp only [List.cons_append, takeExponent, value?, within, ↓reduceIte]

/-- Digits are taken into a significand as far as it is kept exactly; what is left are digits. -/
theorem takeDigits_spelled {digits : List Char} (spelled : ∀ c ∈ digits, c.isDigit = true)
    (count : Nat) : ∃ taken counted left, (∀ c ∈ left, c.isDigit = true) ∧
      ∀ rest, startsWithDigit rest = false →
        takeDigits significand count (digits ++ rest) = (taken, counted, left ++ rest) :=
  ⟨_, _, _, fun c member => spelled c ((suffix_takeDigits _ _).subset member),
    fun _ stops => takeDigits_append stops significand count⟩

/-- The digits of an exponent come to some double, wherever they stand. -/
theorem agreesOnReal_exponentDigits (start : Int) (below : Bool) (digits : Digits) :
    AgreesOnReal (scanExponentDigits negative significand start below) digits.text := by
  obtain ⟨first, others, spelled⟩ := digits
  obtain ⟨digit, spelled⟩ := List.forall_mem_cons.mp spelled
  have value? := Decimal.digit?_of_isDigit digit
  rcases takeExponent_spelled spelled (first.toNat - '0'.toNat) with
    ⟨exponent, taken⟩ | ⟨left, digits, taken⟩
  · obtain ⟨real?, agrees⟩ := agreesOnReal_finishReal negative significand
      (if below then start - exponent else start + exponent)
    refine ⟨real?, fun rest closes => ?_⟩
    simp only [Digits.text, List.cons_append, scanExponentDigits, value?, taken rest closes.stops]
    exact agrees rest closes
  · by_cases large : significand ≠ 0 ∧ below = false
    · refine ⟨none, fun rest closes => ?_⟩
      simp only [Digits.text, List.cons_append, scanExponentDigits, value?, taken rest, large,
        ne_eq, not_false_eq_true, and_self, ↓reduceIte]
      rfl
    · obtain ⟨real?, agrees⟩ := agreesOnReal_finishReal negative 0 0
      refine ⟨real?, fun rest closes => ?_⟩
      simp only [Digits.text, List.cons_append, scanExponentDigits, value?, taken rest, large,
        ↓reduceIte, dropDigits digits closes.stops]
      exact agrees rest closes

theorem takeSign_of_isDigit {c : Char} (digit : c.isDigit = true) (text : List Char) :
    takeSign (c :: text) = (false, c :: text) := by
  unfold takeSign
  split
  · rename_i same
    obtain ⟨rfl, -⟩ := List.cons_eq_cons.mp same
    cases digit
  · rename_i same
    obtain ⟨rfl, -⟩ := List.cons_eq_cons.mp same
    cases digit
  · rfl

/-- The sign of an exponent is taken from before its digits. -/
theorem exists_takeSign (exponent : Exponent) : ∃ below, ∀ rest,
    takeSign (exponent.signText ++ (exponent.digits.text ++ rest)) =
      (below, exponent.digits.text ++ rest) := by
  obtain ⟨capital, sign, digits⟩ := exponent
  cases sign with
  | none => exact ⟨false, fun rest => takeSign_of_isDigit (digits.spelled _ List.mem_cons_self) _⟩
  | some minus => cases minus <;> exact ⟨_, fun rest => rfl⟩

/-- An exponent comes to some double, wherever it stands. -/
theorem agreesOnReal_scanExponent (start : Int) (exponent : Exponent) :
    AgreesOnReal (scanExponent negative significand start)
      (exponent.signText ++ exponent.digits.text) := by
  obtain ⟨below, taken⟩ := exists_takeSign exponent
  obtain ⟨real?, agrees⟩ :=
    agreesOnReal_exponentDigits negative significand start below exponent.digits
  refine ⟨real?, fun rest closes => ?_⟩
  rw [scanExponent_eq, List.append_assoc, taken rest]
  exact agrees rest closes

theorem agreesOnReal_scanRealTail (start : Int) (exponent : Option Exponent) :
    AgreesOnReal (scanRealTail negative significand start) (exponent.elim [] Exponent.text) := by
  cases exponent with
  | none =>
    obtain ⟨real?, agrees⟩ := agreesOnReal_finishReal negative significand start
    refine ⟨real?, fun rest closes => ?_⟩
    have plain : scanRealTail negative significand start rest =
        finishReal negative significand start rest := by
      unfold scanRealTail
      split
      · cases closes_cons.mp closes
      · cases closes_cons.mp closes
      · rfl
    exact plain ▸ agrees rest closes
  | some exponent =>
    obtain ⟨real?, agrees⟩ := agreesOnReal_scanExponent negative significand start exponent
    refine ⟨real?, fun rest closes => ?_⟩
    have lettered : scanRealTail negative significand start (exponent.text ++ rest) =
        scanExponent negative significand start
          (exponent.signText ++ exponent.digits.text ++ rest) := by
      obtain ⟨capital, sign, digits⟩ := exponent
      cases capital <;> rfl
    exact lettered ▸ agrees rest closes

/-- Before an exponent, or the end of a number, there is no digit. -/
theorem startsWithDigit_exponent (exponent : Option Exponent) {rest : List Char}
    (closes : Closes rest) : startsWithDigit (exponent.elim [] Exponent.text ++ rest) = false := by
  cases exponent with
  | none => exact closes.stops
  | some exponent =>
    obtain ⟨capital, sign, digits⟩ := exponent
    cases capital <;> rfl

theorem agreesOnReal_scanFraction (start : Int) (digits : Digits) (exponent : Option Exponent) :
    AgreesOnReal (scanFraction negative significand start)
      (digits.text ++ exponent.elim [] Exponent.text) := by
  obtain ⟨taken, counted, left, spelled, taking⟩ := takeDigits_spelled significand digits.spelled 0
  obtain ⟨real?, agrees⟩ := agreesOnReal_scanRealTail negative taken (start - counted) exponent
  refine ⟨real?, fun rest closes => ?_⟩
  have stops := startsWithDigit_exponent exponent closes
  have digit : startsWithDigit (digits.text ++ (exponent.elim [] Exponent.text ++ rest)) = true :=
    digits.spelled _ List.mem_cons_self
  have begun := taking _ stops
  rw [← Digits.text] at begun
  rw [List.append_assoc]
  simp only [scanFraction, begun, digit, ↓reduceIte, dropDigits spelled stops]
  exact agrees rest closes

/-- Nothing goes on with the digits of a number that is closed. -/
theorem scanTail_closed {rest : List Char} (closes : Closes rest) :
    scanTail negative significand rest = .ok (ofWord negative significand, rest) := by
  unfold scanTail
  split
  · cases closes_cons.mp closes
  · cases closes_cons.mp closes
  · cases closes_cons.mp closes
  · rw [ofWord]
    split
    · rfl
    · split <;> rfl

section Tails

variable (fraction : Option Digits) (exponent : Option Exponent)

/-- What follows the whole part of a number. -/
private abbrev tailText : List Char :=
  (fraction.elim [] fun digits => '.' :: digits.text) ++ exponent.elim [] Exponent.text

private theorem startsWithDigit_tail {rest : List Char} (closes : Closes rest) :
    startsWithDigit (tailText fraction exponent ++ rest) = false := by
  cases fraction with
  | none => exact startsWithDigit_exponent exponent closes
  | some digits => rfl

private theorem agreesOnReal_scanTail (broken : ¬(fraction = none ∧ exponent = none)) :
    AgreesOnReal (scanTail negative significand) (tailText fraction exponent) := by
  cases fraction with
  | some digits => exact agreesOnReal_scanFraction negative significand 0 digits exponent
  | none =>
    cases exponent with
    | none => exact absurd ⟨rfl, rfl⟩ broken
    | some exponent =>
      obtain ⟨real?, agrees⟩ := agreesOnReal_scanExponent negative significand 0 exponent
      refine ⟨real?, fun rest closes => ?_⟩
      have lettered : scanTail negative significand (exponent.text ++ rest) =
          scanExponent negative significand 0
            (exponent.signText ++ exponent.digits.text ++ rest) := by
        obtain ⟨capital, sign, digits⟩ := exponent
        cases capital <;> rfl
      exact lettered ▸ agrees rest closes

private theorem agreesOnReal_scanLong {digits : List Char}
    (spelled : ∀ c ∈ digits, c.isDigit = true) :
    AgreesOnReal (scanLong negative significand) (digits ++ tailText fraction exponent) := by
  have spans {rest : List Char} (closes : Closes rest) :
      (digits ++ tailText fraction exponent ++ rest).span Char.isDigit =
        (digits, tailText fraction exponent ++ rest) := by
    have stops := startsWithDigit_tail fraction exponent closes
    rw [List.append_assoc, List.span_eq_takeWhile_dropWhile, dropDigits spelled stops,
      leadingDigits_append stops, List.takeWhile_eq_self_iff.mpr spelled]
  cases fraction with
  | some fraction =>
    obtain ⟨real?, agrees⟩ :=
      agreesOnReal_scanFraction negative significand digits.length fraction exponent
    refine ⟨real?, fun rest closes => ?_⟩
    simp only [scanLong, spans closes]
    exact agrees rest closes
  | none =>
    obtain ⟨real?, agrees⟩ :=
      agreesOnReal_scanRealTail negative significand digits.length exponent
    refine ⟨real?, fun rest closes => ?_⟩
    have plain : tailText none exponent ++ rest = exponent.elim [] Exponent.text ++ rest := rfl
    simp only [scanLong, spans closes]
    split
    · rename_i begins
      exfalso
      rw [plain] at begins
      cases exponent with
      | none =>
        subst begins
        cases closes_cons.mp closes
      | some exponent =>
        obtain ⟨capital, sign, digits⟩ := exponent
        cases capital <;> cases (List.cons_eq_cons.mp begins).1
    · exact agrees rest closes

end Tails

private theorem scanNumber_zero {rest : List Char} (stops : startsWithDigit rest = false) :
    scanNumber negative ('0' :: rest) = scanTail negative 0 rest := by
  have zero : Decimal.digit? '0' = some 0 := rfl
  simp only [scanNumber, zero, stops, Bool.false_eq_true, ↓reduceIte]

private theorem scanNumber_digit {c : Char} (digit : c.isDigit = true) (leading : c ≠ '0')
    (rest : List Char) :
    scanNumber negative (c :: rest) =
      let (significand, _, rest) := takeDigits (c.toNat - '0'.toNat) 0 rest
      if startsWithDigit rest then scanLong negative significand rest
      else scanTail negative significand rest := by
  have value? := Decimal.digit?_of_isDigit digit
  have positive : c.toNat - '0'.toNat ≠ 0 := by
    have range := Char.isDigit_iff_toNat.mp digit
    intro none
    exact leading (Char.toNat_inj.mp (by omega))
  simp only [scanNumber, value?]

/-- Digits that are all taken into a significand spell a word. -/
theorem ofDigitChars_le_of_takeDigits {digits : List Char}
    (spelled : ∀ c ∈ digits, c.isDigit = true) {start count : Nat} (within : start ≤ largestWord)
    (whole : (takeDigits start count digits).2.2 = []) :
    Nat.ofDigitChars 10 digits start ≤ largestWord := by
  induction digits generalizing start count with
  | nil => exact within
  | cons c digits ih =>
    obtain ⟨digit, others⟩ := List.forall_mem_cons.mp spelled
    have next : start * 10 + (c.toNat - '0'.toNat) = 10 * start + (c.toNat - '0'.toNat) := by
      rw [Nat.mul_comm]
    simp only [takeDigits, Decimal.digit?_of_isDigit digit] at whole
    split at whole
    · rename_i fits
      rw [Nat.ofDigitChars_cons, ← next]
      exact ih others fits whole
    · cases whole

theorem Digits.value_eq (digits : Digits) : digits.value =
    Nat.ofDigitChars 10 digits.others (digits.first.toNat - '0'.toNat) := by
  rw [Digits.value, Digits.text, Nat.ofDigitChars_cons, Nat.mul_zero, Nat.zero_add]

/-- A number whose magnitude fits a word is scanned as it. -/
private theorem agrees_word (token : Token) (whole : token.fraction = none)
    (plain : token.exponent = none) (fits : token.whole.value ≤ largestWord) :
    Agrees (scanNumber token.negative) token.unsigned
      (some (ofWord token.negative token.whole.value)) := by
  obtain ⟨negative, ⟨first, others, spelled⟩, fraction, exponent, canonical⟩ := token
  obtain rfl : fraction = none := whole
  obtain rfl : exponent = none := plain
  intro rest closes
  have unsigned :
      Token.unsigned ⟨negative, ⟨first, others, spelled⟩, none, none, canonical⟩ ++ rest =
        first :: (others ++ rest) := by
    simp [Token.unsigned, Token.fractionText, Token.exponentText, Digits.text]
  rw [unsigned]
  by_cases zero : first = '0'
  · subst zero
    obtain rfl : others = [] := canonical rfl
    rw [List.nil_append, scanNumber_zero negative closes.stops, scanTail_closed _ _ closes]
    rfl
  · obtain ⟨digit, spelled⟩ := List.forall_mem_cons.mp spelled
    rw [Digits.value_eq] at fits ⊢
    rw [scanNumber_digit negative digit zero, takeDigits_digits spelled fits closes]
    simp only [closes.stops, Bool.false_eq_true, ↓reduceIte, scanTail_closed _ _ closes]
    rfl

/-- Any other number is scanned as a double. -/
private theorem agreesOnReal_scanNumber (token : Token) (other : token.word? = none) :
    AgreesOnReal (scanNumber token.negative) token.unsigned := by
  have broken (within : token.whole.value ≤ largestWord) :
      ¬(token.fraction = none ∧ token.exponent = none) := by
    rintro ⟨whole, plain⟩
    simp [Token.word?, whole, plain, within] at other
  obtain ⟨negative, ⟨first, others, spelled⟩, fraction, exponent, canonical⟩ := token
  rw [Digits.value_eq] at broken
  have unsigned :
      Token.unsigned ⟨negative, ⟨first, others, spelled⟩, fraction, exponent, canonical⟩ =
        first :: (others ++ tailText fraction exponent) := rfl
  rw [unsigned]
  by_cases zero : first = '0'
  · subst zero
    obtain rfl : others = [] := canonical rfl
    obtain ⟨real?, agrees⟩ := agreesOnReal_scanTail negative 0 fraction exponent
      (broken (Nat.zero_le _))
    refine ⟨real?, fun rest closes => ?_⟩
    have stops := startsWithDigit_tail fraction exponent closes
    rw [List.nil_append, List.cons_append, scanNumber_zero negative stops]
    exact agrees rest closes
  · obtain ⟨digit, spelled⟩ := List.forall_mem_cons.mp spelled
    have start : first.toNat - '0'.toNat ≤ largestWord := by
      have range := Char.isDigit_iff_toNat.mp digit
      have last : '9'.toNat - '0'.toNat ≤ largestWord := by decide
      omega
    have all : (takeDigits (first.toNat - '0'.toNat) 0 others).2.2 = [] →
        Nat.ofDigitChars 10 others (first.toNat - '0'.toNat) ≤ largestWord :=
      ofDigitChars_le_of_takeDigits spelled start
    obtain ⟨taken, counted, left, digits, taking⟩ :=
      takeDigits_spelled (first.toNat - '0'.toNat) spelled 0
    have alone := taking [] rfl
    rw [List.append_nil, List.append_nil] at alone
    rw [alone] at all
    have scanned {rest : List Char} (closes : Closes rest) :
        scanNumber negative (first :: (others ++ tailText fraction exponent) ++ rest) =
          if startsWithDigit (left ++ (tailText fraction exponent ++ rest)) then
            scanLong negative taken (left ++ (tailText fraction exponent ++ rest))
          else scanTail negative taken (left ++ (tailText fraction exponent ++ rest)) := by
      have stops := startsWithDigit_tail fraction exponent closes
      rw [List.cons_append, scanNumber_digit negative digit zero, List.append_assoc,
        taking _ stops]
    cases left with
    | nil =>
      obtain ⟨real?, agrees⟩ := agreesOnReal_scanTail negative taken fraction exponent
        (broken (all rfl))
      refine ⟨real?, fun rest closes => ?_⟩
      have stops := startsWithDigit_tail fraction exponent closes
      rw [scanned closes, List.nil_append, stops]
      exact agrees rest closes
    | cons c left =>
      obtain ⟨real?, agrees⟩ := agreesOnReal_scanLong negative taken fraction exponent digits
      refine ⟨real?, fun rest closes => ?_⟩
      have more : startsWithDigit (c :: left ++ (tailText fraction exponent ++ rest)) = true :=
        digits c List.mem_cons_self
      rw [scanned closes, more, ← List.append_assoc]
      exact agrees rest closes

/-- A number is scanned as what it spells, wherever it is closed. -/
theorem agrees_scanNumber (token : Token) :
    Agrees (scanNumber token.negative) token.unsigned token.number? := by
  cases word : token.word? with
  | some magnitude =>
    have parts := word
    simp only [Token.word?, Option.ite_none_right_eq_some, Option.isNone_iff_eq_none,
      Option.some.injEq] at parts
    obtain ⟨⟨whole, plain, fits⟩, rfl⟩ := parts
    rw [Token.number?, word]
    exact agrees_word token whole plain fits
  | none =>
    obtain ⟨real?, agrees⟩ := agreesOnReal_scanNumber token word
    have alone := agrees [] Closes.nil
    rw [List.append_nil] at alone
    have same : token.number? = real?.map .real := by
      rw [Token.number?, word, Token.real?, alone]
      cases real? <;> rfl
    exact same ▸ agrees

end Numbers

end Json

end MonitorFeed
