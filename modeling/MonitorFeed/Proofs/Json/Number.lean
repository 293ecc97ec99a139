import MonitorFeed.Json.Number
import MonitorFeed.Proofs.Decimal.Digits
import Mathlib.Data.List.TakeDrop

/-!
Numbers of JSON text. A number that is read from a whole text is also read where something follows
that cannot go on with it, and a canonical integer is read as itself.
-/

namespace MonitorFeed.Json

/-- The characters with which a number that has begun may go on. -/
def goesOn (c : Char) : Bool :=
  c.isDigit || c = '.' || c = 'e' || c = 'E'

/-- A remainder in front of which a number has ended. -/
def Closes (rest : List Char) : Prop :=
  ∀ c ∈ rest.head?, goesOn c = false

theorem Closes.nil : Closes [] := by
  simp [Closes]

theorem closes_cons {c : Char} {rest : List Char} : Closes (c :: rest) ↔ goesOn c = false := by
  simp [Closes]

theorem Closes.isDigit {c : Char} {rest : List Char} (closes : Closes (c :: rest)) :
    c.isDigit = false := by
  have stops := closes_cons.mp closes
  simp only [goesOn, Bool.or_eq_false_iff] at stops
  exact stops.1.1.1

theorem Closes.digit? {c : Char} {rest : List Char} (closes : Closes (c :: rest)) :
    Decimal.digit? c = none := by
  simp [Decimal.digit?, closes.isDigit]

theorem Closes.stops {rest : List Char} (closes : Closes rest) :
    startsWithDigit rest = false := by
  cases rest with
  | nil => rfl
  | cons c tail => exact closes.isDigit

theorem digit?_of_startsWithDigit {c : Char} {rest : List Char}
    (stops : startsWithDigit (c :: rest) = false) : Decimal.digit? c = none := by
  have stops : c.isDigit = false := stops
  simp [Decimal.digit?, stops]

variable {text more : List Char}

/-- What is left of a text is an end of it. -/
theorem suffix_takeDigits (significand count : Nat) :
    (takeDigits significand count text).2.2 <:+ text := by
  induction text generalizing significand count with
  | nil => exact List.suffix_refl _
  | cons c rest ih =>
    unfold takeDigits
    split
    · exact List.suffix_refl _
    · split
      · exact (ih _ _).trans (List.suffix_cons _ _)
      · exact List.suffix_refl _

theorem takeDigits_append (stops : startsWithDigit more = false) (significand count : Nat) :
    takeDigits significand count (text ++ more) =
      ((takeDigits significand count text).1, (takeDigits significand count text).2.1,
        (takeDigits significand count text).2.2 ++ more) := by
  induction text generalizing significand count with
  | nil =>
    cases more with
    | nil => rfl
    | cons c rest => simp [takeDigits, digit?_of_startsWithDigit stops]
  | cons c rest ih =>
    simp only [List.cons_append, takeDigits]
    split
    · rfl
    · split
      · exact ih _ _
      · rfl

theorem startsWithDigit_append (stops : startsWithDigit more = false) :
    startsWithDigit (text ++ more) = startsWithDigit text := by
  cases text with
  | nil => exact stops
  | cons c rest => rfl

theorem dropDigits_append (stops : startsWithDigit more = false) :
    (text ++ more).dropWhile Char.isDigit = text.dropWhile Char.isDigit ++ more := by
  induction text with
  | nil =>
    cases more with
    | nil => rfl
    | cons c rest =>
      have stops : c.isDigit = false := stops
      simp [stops]
  | cons c rest ih =>
    by_cases digit : c.isDigit = true
    · simp [digit, ih]
    · simp [digit]

theorem leadingDigits_append (stops : startsWithDigit more = false) :
    (text ++ more).takeWhile Char.isDigit = text.takeWhile Char.isDigit := by
  induction text with
  | nil =>
    cases more with
    | nil => rfl
    | cons c rest =>
      have stops : c.isDigit = false := stops
      simp [stops]
  | cons c rest ih =>
    by_cases digit : c.isDigit = true
    · simp [digit, ih]
    · simp [digit]

/-- A reader whose result does not depend on what closes the text: it leaves an end of the text, and
reads the same from the text with something closing after it. -/
def Stable {α : Type} (read : List Char → Except Fault (α × List Char)) : Prop :=
  ∀ {text value rest}, read text = .ok (value, rest) →
    rest <:+ text ∧ ∀ more, Closes more → read (text ++ more) = .ok (value, rest ++ more)

theorem stable_finishReal (negative : Bool) (significand : Nat) (exponent : Int) :
    Stable (finishReal negative significand exponent) := by
  intro text value rest read
  unfold finishReal at read ⊢
  split at read
  · obtain ⟨rfl, rfl⟩ := Prod.mk.inj (Except.ok.inj read)
    exact ⟨List.suffix_refl _, fun _ _ => rfl⟩
  · cases read

private theorem takeExponent_ok {value exponent : Nat} {rest : List Char}
    (read : takeExponent value text = .ok (exponent, rest)) :
    rest <:+ text ∧ ∀ more, Closes more →
      takeExponent value (text ++ more) = .ok (exponent, rest ++ more) := by
  induction text generalizing value with
  | nil =>
    obtain ⟨rfl, rfl⟩ := Prod.mk.inj (Except.ok.inj read)
    refine ⟨List.suffix_refl _, fun more closes => ?_⟩
    cases more with
    | nil => rfl
    | cons c rest => simp [takeExponent, closes.digit?]
  | cons c tail ih =>
    simp only [takeExponent, List.cons_append] at read ⊢
    split at read
    · obtain ⟨rfl, rfl⟩ := Prod.mk.inj (Except.ok.inj read)
      exact ⟨List.suffix_refl _, fun _ _ => rfl⟩
    · split at read
      · rename_i within
        obtain ⟨suffix, same⟩ := ih read
        refine ⟨suffix.trans (List.suffix_cons _ _), fun more closes => ?_⟩
        simp only [within, ↓reduceIte]
        exact same more closes
      · cases read

private theorem takeExponent_error {value : Nat} {rest : List Char}
    (read : takeExponent value text = .error rest) :
    rest <:+ text ∧ ∀ more, takeExponent value (text ++ more) = .error (rest ++ more) := by
  induction text generalizing value with
  | nil => cases read
  | cons c tail ih =>
    simp only [takeExponent, List.cons_append] at read ⊢
    split at read
    · cases read
    · split at read
      · rename_i within
        obtain ⟨suffix, same⟩ := ih read
        refine ⟨suffix.trans (List.suffix_cons _ _), fun more => ?_⟩
        simp only [within, ↓reduceIte]
        exact same more
      · rename_i beyond
        obtain rfl := Except.error.inj read
        refine ⟨List.suffix_cons _ _, fun more => ?_⟩
        simp only [beyond, ↓reduceIte]

/-- The digits of an exponent whose sign has been taken. -/
def scanExponentDigits (negative : Bool) (significand : Nat) (start : Int) (below : Bool) :
    List Char → Except Fault (Number × List Char)
  | [] => failHere .endInValue []
  | c :: rest =>
    match Decimal.digit? c with
    | none => failNext .invalidNumber (c :: rest)
    | some d =>
      match takeExponent d rest with
      | .ok (exponent, rest) =>
        finishReal negative significand (if below then start - exponent else start + exponent) rest
      | .error rest =>
        if significand ≠ 0 ∧ below = false then failHere .numberOutOfRange rest
        else finishReal negative 0 0 (rest.dropWhile Char.isDigit)

private theorem stable_scanExponentDigits (negative : Bool) (significand : Nat) (start : Int)
    (below : Bool) : Stable (scanExponentDigits negative significand start below) := by
  intro text value rest read
  cases text with
  | nil => cases read
  | cons c tail =>
    simp only [scanExponentDigits, List.cons_append] at read ⊢
    split at read
    · cases read
    · split at read
      · rename_i exponent left taken
        obtain ⟨taken, again⟩ := takeExponent_ok taken
        obtain ⟨suffix, same⟩ := stable_finishReal _ _ _ read
        refine ⟨(suffix.trans taken).trans (List.suffix_cons _ _), fun more closes => ?_⟩
        simp only [again more closes, same more closes]
      · rename_i left taken
        obtain ⟨taken, again⟩ := takeExponent_error taken
        split at read
        · cases read
        · rename_i small
          obtain ⟨suffix, same⟩ := stable_finishReal _ _ _ read
          refine ⟨((suffix.trans (List.dropWhile_suffix _)).trans taken).trans
            (List.suffix_cons _ _), fun more closes => ?_⟩
          simp only [again more, small, ↓reduceIte, dropDigits_append closes.stops,
            same more closes]

/-- The sign of an exponent, and what follows it. -/
def takeSign : List Char → Bool × List Char
  | '-' :: rest => (true, rest)
  | '+' :: rest => (false, rest)
  | text => (false, text)

private theorem takeSign_cons (c : Char) (tail : List Char) :
    (takeSign (c :: tail)).2 <:+ c :: tail ∧ ∀ more,
      takeSign (c :: tail ++ more) =
        ((takeSign (c :: tail)).1, (takeSign (c :: tail)).2 ++ more) := by
  by_cases minus : c = '-'
  · subst c
    exact ⟨List.suffix_cons _ _, fun _ => rfl⟩
  · by_cases plus : c = '+'
    · subst c
      exact ⟨List.suffix_cons _ _, fun _ => rfl⟩
    · have unsigned (tail : List Char) : takeSign (c :: tail) = (false, c :: tail) := by
        unfold takeSign
        split
        · rename_i same
          exact absurd (List.cons_eq_cons.mp same).1 minus
        · rename_i same
          exact absurd (List.cons_eq_cons.mp same).1 plus
        · rfl
      rw [unsigned]
      exact ⟨List.suffix_refl _, fun more => unsigned (tail ++ more)⟩

theorem scanExponent_eq (negative : Bool) (significand : Nat) (start : Int)
    (text : List Char) :
    scanExponent negative significand start text =
      scanExponentDigits negative significand start (takeSign text).1 (takeSign text).2 := rfl

theorem stable_scanExponent (negative : Bool) (significand : Nat) (start : Int) :
    Stable (scanExponent negative significand start) := by
  intro text value rest read
  cases text with
  | nil => cases read
  | cons c tail =>
    obtain ⟨shorter, sign⟩ := takeSign_cons c tail
    rw [scanExponent_eq] at read
    obtain ⟨suffix, same⟩ := stable_scanExponentDigits _ _ _ _ read
    refine ⟨suffix.trans shorter, fun more closes => ?_⟩
    rw [scanExponent_eq, sign more]
    exact same more closes

/-- A character with which a number goes on comes from the text, not from what closes it. -/
private theorem append_ne_cons {c : Char} {rest : List Char} (closes : Closes more)
    (goes : goesOn c = true) (other : ∀ tail, text ≠ c :: tail) : text ++ more ≠ c :: rest := by
  intro same
  cases text with
  | nil =>
    subst same
    rw [closes_cons.mp closes] at goes
    cases goes
  | cons d tail =>
    obtain ⟨rfl, -⟩ := List.cons_eq_cons.mp same
    exact other tail rfl

theorem stable_scanRealTail (negative : Bool) (significand : Nat) (exponent : Int) :
    Stable (scanRealTail negative significand exponent) := by
  intro text value rest read
  unfold scanRealTail at read
  split at read
  · obtain ⟨suffix, same⟩ := stable_scanExponent _ _ _ read
    exact ⟨suffix.trans (List.suffix_cons _ _), same⟩
  · obtain ⟨suffix, same⟩ := stable_scanExponent _ _ _ read
    exact ⟨suffix.trans (List.suffix_cons _ _), same⟩
  · rename_i lower upper
    obtain ⟨suffix, same⟩ := stable_finishReal _ _ _ read
    refine ⟨suffix, fun more closes => ?_⟩
    unfold scanRealTail
    split
    · rename_i begins
      exact absurd begins (append_ne_cons closes rfl lower)
    · rename_i begins
      exact absurd begins (append_ne_cons closes rfl upper)
    · exact same more closes

theorem stable_scanFraction (negative : Bool) (significand : Nat) (exponent : Int) :
    Stable (scanFraction negative significand exponent) := by
  intro text value rest read
  simp only [scanFraction] at read ⊢
  split at read
  · rename_i digit
    obtain ⟨suffix, same⟩ := stable_scanRealTail _ _ _ read
    refine ⟨(suffix.trans (List.dropWhile_suffix _)).trans (suffix_takeDigits _ _), ?_⟩
    intro more closes
    simp only [startsWithDigit_append closes.stops, takeDigits_append closes.stops, digit,
      ↓reduceIte, dropDigits_append closes.stops]
    exact same more closes
  · split at read <;> cases read

private theorem stable_done (number : Number) : Stable fun text => .ok (number, text) := by
  intro text value rest read
  obtain ⟨rfl, rfl⟩ := Prod.mk.inj (Except.ok.inj read)
  exact ⟨List.suffix_refl _, fun _ _ => rfl⟩

/-- What an integer comes to does not depend on what follows its digits. -/
private theorem stable_integer (negative : Bool) (significand : Nat) :
    Stable (α := Number) fun text =>
      if negative = false then .ok (.natural significand, text)
      else if 0 < significand ∧ significand ≤ 1 <<< 63 then .ok (.negative significand, text)
      else .ok (.real (-(Decimal.nearest significand 1).toFloat), text) := by
  by_cases positive : negative = false
  · simp only [positive, ↓reduceIte]
    exact stable_done _
  · by_cases inside : 0 < significand ∧ significand ≤ 1 <<< 63
    · simp only [positive, inside, and_self, ↓reduceIte]
      exact stable_done _
    · simp only [positive, inside, ↓reduceIte]
      exact stable_done _

theorem stable_scanTail (negative : Bool) (significand : Nat) :
    Stable (scanTail negative significand) := by
  intro text value rest read
  unfold scanTail at read
  split at read
  · obtain ⟨suffix, same⟩ := stable_scanFraction _ _ _ read
    exact ⟨suffix.trans (List.suffix_cons _ _), same⟩
  · obtain ⟨suffix, same⟩ := stable_scanExponent _ _ _ read
    exact ⟨suffix.trans (List.suffix_cons _ _), same⟩
  · obtain ⟨suffix, same⟩ := stable_scanExponent _ _ _ read
    exact ⟨suffix.trans (List.suffix_cons _ _), same⟩
  · rename_i point lower upper
    obtain ⟨suffix, same⟩ := stable_integer negative significand read
    refine ⟨suffix, fun more closes => ?_⟩
    unfold scanTail
    split
    · rename_i begins
      exact absurd begins (append_ne_cons closes rfl point)
    · rename_i begins
      exact absurd begins (append_ne_cons closes rfl lower)
    · rename_i begins
      exact absurd begins (append_ne_cons closes rfl upper)
    · exact same more closes

theorem stable_scanLong (negative : Bool) (significand : Nat) :
    Stable (scanLong negative significand) := by
  intro text value rest read
  simp only [scanLong, List.span_eq_takeWhile_dropWhile] at read ⊢
  have shorter : text.dropWhile Char.isDigit <:+ text := List.dropWhile_suffix _
  split at read
  · rename_i left begins
    obtain ⟨suffix, same⟩ := stable_scanFraction _ _ _ read
    have inside : left <:+ text.dropWhile Char.isDigit := by
      rw [begins]
      exact List.suffix_cons _ _
    refine ⟨(suffix.trans inside).trans shorter, fun more closes => ?_⟩
    simp only [dropDigits_append closes.stops, leadingDigits_append closes.stops, begins,
      List.cons_append]
    exact same more closes
  · rename_i point
    obtain ⟨suffix, same⟩ := stable_scanRealTail _ _ _ read
    refine ⟨suffix.trans shorter, fun more closes => ?_⟩
    simp only [dropDigits_append closes.stops, leadingDigits_append closes.stops]
    split
    · rename_i begins
      exact absurd begins (append_ne_cons closes rfl point)
    · exact same more closes

/-- A number is read the same wherever the text that spells it stands. -/
theorem stable_scanNumber (negative : Bool) : Stable (scanNumber negative) := by
  intro text value rest read
  cases text with
  | nil => cases read
  | cons c tail =>
    simp only [scanNumber, List.cons_append] at read ⊢
    split at read
    · cases read
    · split at read
      · cases read
      · rename_i single
        obtain ⟨suffix, same⟩ := stable_scanTail _ _ read
        refine ⟨suffix.trans (List.suffix_cons _ _), fun more closes => ?_⟩
        simp only [startsWithDigit_append closes.stops, single, same more closes]
        rfl
    · rename_i d _ _
      have shorter : (takeDigits d 0 tail).2.2 <:+ tail := suffix_takeDigits d 0
      split at read
      · rename_i long
        obtain ⟨suffix, same⟩ := stable_scanLong _ _ read
        refine ⟨(suffix.trans shorter).trans (List.suffix_cons _ _), fun more closes => ?_⟩
        simp only [takeDigits_append closes.stops, startsWithDigit_append closes.stops, long,
          ↓reduceIte]
        exact same more closes
      · rename_i short
        obtain ⟨suffix, same⟩ := stable_scanTail _ _ read
        refine ⟨(suffix.trans shorter).trans (List.suffix_cons _ _), fun more closes => ?_⟩
        simp only [takeDigits_append closes.stops, startsWithDigit_append closes.stops, short]
        exact same more closes

/-- Digits are taken into a significand as long as they spell a word. -/
theorem takeDigits_digits {digits rest : List Char} {significand count : Nat}
    (spelled : ∀ c ∈ digits, c.isDigit = true)
    (within : Nat.ofDigitChars 10 digits significand ≤ largestWord) (closes : Closes rest) :
    takeDigits significand count (digits ++ rest) =
      (Nat.ofDigitChars 10 digits significand, count + digits.length, rest) := by
  induction digits generalizing significand count with
  | nil =>
    cases rest with
    | nil => rfl
    | cons c tail => simp [takeDigits, closes.digit?]
  | cons c digits ih =>
    have digit := Decimal.digit?_of_isDigit (spelled c List.mem_cons_self)
    have next : significand * 10 + (c.toNat - '0'.toNat) =
        10 * significand + (c.toNat - '0'.toNat) := by
      rw [Nat.mul_comm]
    rw [Nat.ofDigitChars_cons] at within ⊢
    have reached := Nat.le_trans (Decimal.le_ofDigitChars digits _) within
    simp only [takeDigits, List.cons_append, digit, next, reached, ↓reduceIte]
    rw [ih (fun c member => spelled c (List.mem_cons_of_mem _ member)) within]
    simp only [List.length_cons, Nat.add_assoc, Nat.add_comm 1]

/-- What the digits of an integer come to when nothing goes on with them. -/
def integerOf (negative : Bool) (magnitude : Nat) : Number :=
  if negative then .negative magnitude else .natural magnitude

/-- The magnitudes that an integer of a sign may have. -/
def Fits (negative : Bool) (magnitude : Nat) : Prop :=
  if negative then 0 < magnitude ∧ magnitude ≤ 1 <<< 63 else magnitude ≤ largestWord

theorem Fits.within {negative : Bool} {magnitude : Nat} (fits : Fits negative magnitude) :
    magnitude ≤ largestWord := by
  cases negative with
  | false => exact fits
  | true => exact Nat.le_trans fits.2 (by decide)

private theorem scanTail_closes {negative : Bool} {magnitude : Nat} {rest : List Char}
    (fits : Fits negative magnitude) (closes : Closes rest) :
    scanTail negative magnitude rest = .ok (integerOf negative magnitude, rest) := by
  unfold scanTail
  split
  · cases closes_cons.mp closes
  · cases closes_cons.mp closes
  · cases closes_cons.mp closes
  · cases negative with
    | false => rfl
    | true =>
      have inside : 0 < magnitude ∧ magnitude ≤ 1 <<< 63 := fits
      simp only [inside, and_self, ↓reduceIte, Bool.true_eq_false, integerOf]

/-- The canonical digits of an integer are read as it. -/
theorem scanNumber_naturalText {negative : Bool} {magnitude : Nat} {rest : List Char}
    (fits : Fits negative magnitude) (closes : Closes rest) :
    scanNumber negative (Decimal.naturalText magnitude ++ rest) =
      .ok (integerOf negative magnitude, rest) := by
  by_cases zero : magnitude = 0
  · subst magnitude
    have ended := closes.stops
    have digit : Decimal.digit? '0' = some 0 := rfl
    simp only [Decimal.naturalText_zero, List.cons_append, List.nil_append, scanNumber, digit,
      ended, Bool.false_eq_true, ↓reduceIte]
    exact scanTail_closes fits closes
  · have leads := Decimal.head?_naturalText_ne (Nat.pos_of_ne_zero zero)
    have spelled (c : Char) (member : c ∈ Decimal.naturalText magnitude) : c.isDigit = true :=
      Decimal.isDigit_of_mem_naturalText member
    have value := Decimal.ofDigitChars_naturalText magnitude
    cases text : Decimal.naturalText magnitude with
    | nil => exact absurd text (Decimal.naturalText_ne_nil _)
    | cons c tail =>
      rw [text] at leads spelled value
      rw [Nat.ofDigitChars_cons, Nat.mul_zero, Nat.zero_add] at value
      have digit := Decimal.digit?_of_isDigit (spelled c List.mem_cons_self)
      have positive : c.toNat - '0'.toNat ≠ 0 := by
        have range := Char.isDigit_iff_toNat.mp (spelled c List.mem_cons_self)
        intro none
        apply leads
        have same : c = '0' := Char.toNat_inj.mp (by omega)
        rw [List.head?_cons, same]
      have taken : takeDigits (c.toNat - '0'.toNat) 0 (tail ++ rest) =
          (magnitude, 0 + tail.length, rest) := by
        rw [takeDigits_digits (fun c member => spelled c (List.mem_cons_of_mem _ member))
          (by rw [value]; exact fits.within) closes, value]
      have ended := closes.stops
      simp only [List.cons_append, scanNumber, digit, taken, ended, Bool.false_eq_true, ↓reduceIte]
      exact scanTail_closes fits closes

/-- A number whose integers are within their words. -/
def Number.IsWord : Number → Prop
  | .natural value => value ≤ largestWord
  | .negative magnitude => 0 < magnitude ∧ magnitude ≤ 1 <<< 63
  | .real _ => True

section Words

variable {negative : Bool} {significand : Nat} {exponent : Int} {number : Number} {rest : List Char}

private theorem isWord_finishReal
    (read : finishReal negative significand exponent text = .ok (number, rest)) :
    number.IsWord := by
  unfold finishReal at read
  split at read
  · obtain ⟨rfl, -⟩ := Prod.mk.inj (Except.ok.inj read)
    trivial
  · cases read

private theorem isWord_scanExponent
    (read : scanExponent negative significand exponent text = .ok (number, rest)) :
    number.IsWord := by
  rw [scanExponent_eq] at read
  unfold scanExponentDigits at read
  split at read
  · cases read
  · split at read
    · cases read
    · split at read
      · exact isWord_finishReal read
      · split at read
        · cases read
        · exact isWord_finishReal read

private theorem isWord_scanRealTail
    (read : scanRealTail negative significand exponent text = .ok (number, rest)) :
    number.IsWord := by
  unfold scanRealTail at read
  split at read
  · exact isWord_scanExponent read
  · exact isWord_scanExponent read
  · exact isWord_finishReal read

private theorem isWord_scanFraction
    (read : scanFraction negative significand exponent text = .ok (number, rest)) :
    number.IsWord := by
  simp only [scanFraction] at read
  split at read
  · exact isWord_scanRealTail read
  · split at read <;> cases read

private theorem isWord_scanLong
    (read : scanLong negative significand text = .ok (number, rest)) : number.IsWord := by
  simp only [scanLong] at read
  split at read
  · exact isWord_scanFraction read
  · exact isWord_scanRealTail read

private theorem isWord_scanTail (within : significand ≤ largestWord)
    (read : scanTail negative significand text = .ok (number, rest)) : number.IsWord := by
  unfold scanTail at read
  split at read
  · exact isWord_scanFraction read
  · exact isWord_scanExponent read
  · exact isWord_scanExponent read
  · split at read
    · obtain ⟨rfl, -⟩ := Prod.mk.inj (Except.ok.inj read)
      exact within
    · split at read
      · rename_i inside
        obtain ⟨rfl, -⟩ := Prod.mk.inj (Except.ok.inj read)
        exact inside
      · obtain ⟨rfl, -⟩ := Prod.mk.inj (Except.ok.inj read)
        trivial

/-- Digits are taken as long as the significand is a word. -/
theorem takeDigits_le (within : significand ≤ largestWord) (count : Nat) :
    (takeDigits significand count text).1 ≤ largestWord := by
  induction text generalizing significand count with
  | nil => exact within
  | cons c text ih =>
    unfold takeDigits
    split
    · exact within
    · split
      · rename_i fits
        exact ih fits _
      · exact within

/-- An integer that is scanned is within its words. -/
theorem isWord_scanNumber (read : scanNumber negative text = .ok (number, rest)) :
    number.IsWord := by
  cases text with
  | nil => cases read
  | cons c tail =>
    simp only [scanNumber] at read
    split at read
    · cases read
    · split at read
      · cases read
      · exact isWord_scanTail (Nat.zero_le _) read
    · rename_i d _ digit
      have first : d ≤ largestWord :=
        Nat.le_trans (Nat.le_of_lt (Decimal.lt_of_digit? digit)) (by decide)
      split at read
      · exact isWord_scanLong read
      · exact isWord_scanTail (takeDigits_le first 0) read

end Words

end MonitorFeed.Json
