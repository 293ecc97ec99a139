import MonitorFeed.Timestamp

/-!
Decimal text and the numbers it spells. A canonical integer is read back as itself, and an instant
as its milliseconds.
-/

namespace MonitorFeed.Decimal

theorem digit?_of_isDigit {c : Char} (digit : c.isDigit = true) :
    digit? c = some (c.toNat - '0'.toNat) := by
  simp [digit?, digit]

theorem isDigit_of_digit? {c : Char} {d : Nat} (digit : digit? c = some d) : c.isDigit = true := by
  unfold digit? at digit
  split at digit
  · assumption
  · cases digit

theorem lt_of_digit? {c : Char} {d : Nat} (digit : digit? c = some d) : d < 10 := by
  unfold digit? at digit
  split at digit
  · rename_i decimal
    obtain rfl := Option.some.inj digit
    have range := Char.isDigit_iff_toNat.mp decimal
    simp at range ⊢
    omega
  · cases digit

theorem isDigit_of_mem_naturalText {c : Char} {n : Nat} (member : c ∈ naturalText n) :
    c.isDigit = true :=
  Nat.isDigit_of_mem_toDigits (by decide) (by decide) member

theorem naturalText_ne_nil (n : Nat) : naturalText n ≠ [] :=
  Nat.toDigits_ne_nil

theorem naturalText_eq_cons (n : Nat) :
    ∃ c rest, naturalText n = c :: rest ∧ c.isDigit = true := by
  cases text : naturalText n with
  | nil => exact absurd text (naturalText_ne_nil n)
  | cons c rest => exact ⟨c, rest, rfl, isDigit_of_mem_naturalText (n := n) (by simp [text])⟩

/-- The digits of a number spell it. -/
@[simp] theorem ofDigitChars_naturalText (n : Nat) : Nat.ofDigitChars 10 (naturalText n) 0 = n :=
  Nat.ofDigitChars_ten_toDigits

/-- Further digits never make a number smaller. -/
theorem le_ofDigitChars (digits : List Char) (start : Nat) :
    start ≤ Nat.ofDigitChars 10 digits start := by
  rw [Nat.ofDigitChars_eq_ofDigitChars_zero]
  have grown : 1 ≤ 10 ^ digits.length := Nat.one_le_pow _ _ (by decide)
  calc start = 1 * start := (Nat.one_mul _).symm
    _ ≤ 10 ^ digits.length * start := Nat.mul_le_mul_right _ grown
    _ ≤ _ := Nat.le_add_right _ _

/-- Only zero begins with a zero. -/
theorem head?_naturalText_ne {n : Nat} (positive : 0 < n) : (naturalText n).head? ≠ some '0' := by
  induction n using Nat.strongRecOn with
  | ind n ih =>
    by_cases single : n < 10
    · have text : naturalText n = [n.digitChar] := Nat.toDigits_of_lt_base single
      rw [text]
      simpa [Nat.digitChar_eq_zero] using Nat.ne_of_gt positive
    · have split : naturalText n = naturalText (n / 10) ++ [(n % 10).digitChar] :=
        Nat.toDigits_of_base_le (by decide) (by omega)
      have kept := ih (n / 10) (by omega) (by omega)
      cases text : naturalText (n / 10) with
      | nil => exact absurd text (naturalText_ne_nil _)
      | cons c rest => simpa [split, text] using kept

theorem naturalText_zero : naturalText 0 = ['0'] := Nat.toDigits_zero 10

/-- Digits are gathered as long as the number they spell stays within the limit. -/
theorem gather_digits {limit : Nat} {beyond : IntegerFault} {digits : List Char} {start : Nat}
    (spelled : ∀ c ∈ digits, c.isDigit = true)
    (within : Nat.ofDigitChars 10 digits start ≤ limit) :
    gather limit beyond start digits = .ok (Nat.ofDigitChars 10 digits start) := by
  induction digits generalizing start with
  | nil => rfl
  | cons c rest ih =>
    have digit := digit?_of_isDigit (spelled c List.mem_cons_self)
    have next : start * 10 + (c.toNat - '0'.toNat) = 10 * start + (c.toNat - '0'.toNat) := by
      rw [Nat.mul_comm]
    rw [Nat.ofDigitChars_cons] at within ⊢
    have reached := Nat.le_trans (le_ofDigitChars rest _) within
    simp only [gather, digit, next, reached, ↓reduceIte]
    exact ih (fun c member => spelled c (List.mem_cons_of_mem _ member)) within

theorem readDigits_naturalText {limit n : Nat} {beyond : IntegerFault} (within : n ≤ limit) :
    readDigits limit beyond (naturalText n) = .ok n := by
  cases text : naturalText n with
  | nil => exact absurd text (naturalText_ne_nil n)
  | cons c rest =>
    have read : gather limit beyond 0 (naturalText n) = .ok (Nat.ofDigitChars 10 (naturalText n) 0) :=
      gather_digits (fun _ member => isDigit_of_mem_naturalText member) (by simpa using within)
    rw [ofDigitChars_naturalText, text] at read
    exact read

/-- A text that begins with a digit has no sign. -/
theorem readInteger_of_isDigit {c : Char} {rest : List Char} (digit : c.isDigit = true) :
    readInteger (c :: rest) = (readDigits (1 <<< 63 - 1) .tooLarge (c :: rest)).map Int.ofNat := by
  unfold readInteger
  split
  · contradiction
  · rename_i same
    obtain ⟨rfl, -⟩ := List.cons_eq_cons.mp same
    contradiction
  · rename_i same
    obtain ⟨rfl, -⟩ := List.cons_eq_cons.mp same
    contradiction
  · rfl

/-- The canonical text of a signed 64-bit integer is read as it. -/
theorem readInteger_integerText {n : Int} (least : Int64.minValue.toInt ≤ n)
    (greatest : n ≤ Int64.maxValue.toInt) :
    readInteger (integerText n) = .ok n := by
  rw [Int64.toInt_minValue] at least
  rw [Int64.toInt_maxValue] at greatest
  cases n with
  | ofNat n =>
    have read : readDigits (1 <<< 63 - 1) .tooLarge (naturalText n) = .ok n :=
      readDigits_naturalText (by have := Int.ofNat_eq_natCast n; omega)
    cases text : naturalText n with
    | nil => exact absurd text (naturalText_ne_nil n)
    | cons c rest =>
      have digit : c.isDigit = true :=
        isDigit_of_mem_naturalText (n := n) (by simp [text])
      rw [integerText, text, readInteger_of_isDigit digit, ← text, read]
      rfl
  | negSucc n =>
    have read : readDigits (1 <<< 63) .tooSmall (naturalText (n + 1)) = .ok (n + 1) :=
      readDigits_naturalText (by omega)
    simp only [integerText, readInteger, read]
    rfl

theorem isBlank_of_isDigit {c : Char} (digit : c.isDigit = true) : Text.isBlank c = false := by
  have range := Char.isDigit_iff_toNat.mp digit
  simp only [Text.isBlank, Bool.or_eq_false_iff]
  simp at range ⊢
  omega

/-- Integer texts hold nothing that trimming would remove. -/
theorem isBlank_of_mem_integerText {c : Char} {n : Int} (member : c ∈ integerText n) :
    Text.isBlank c = false := by
  cases n with
  | ofNat n => exact isBlank_of_isDigit (isDigit_of_mem_naturalText member)
  | negSucc n =>
    rcases List.mem_cons.mp member with rfl | digit
    · decide
    · exact isBlank_of_isDigit (isDigit_of_mem_naturalText digit)

end MonitorFeed.Decimal

namespace MonitorFeed

theorem Text.trim_of_not_blank {text : List Char} (kept : ∀ c ∈ text, isBlank c = false) :
    trim text = text := by
  have unchanged (text : List Char) (kept : ∀ c ∈ text, isBlank c = false) :
      text.dropWhile isBlank = text := by
    cases text with
    | nil => rfl
    | cons c rest => simp [kept c List.mem_cons_self]
  unfold trim
  rw [unchanged text kept, unchanged text.reverse (by simpa using kept), List.reverse_reverse]

namespace Timestamp

/-- The calendar does not go beyond what a signed word counts. -/
theorem millis_mem_word (instant : Timestamp) :
    Int64.minValue.toInt ≤ instant.millis ∧ instant.millis ≤ Int64.maxValue.toInt := by
  have inside := instant.representable
  rw [Int64.toInt_minValue, Int64.toInt_maxValue]
  constructor <;> omega

theorem ofInteger_millis (instant : Timestamp) : ofInteger instant.millis = .ok instant := by
  have small := Int.not_lt.mpr instant.millis_mem_word.2
  obtain ⟨millis, inside⟩ := instant
  have within : Representable millis := inside
  simp only [ofInteger, ofMillis?, small, within, ↓reduceIte, ↓reduceDIte]

/-- An instant is read back from its text. -/
theorem ofText_text (instant : Timestamp) : ofText instant.text = .ok instant := by
  have trimmed : Text.trim instant.text = instant.text :=
    Text.trim_of_not_blank fun _ member => Decimal.isBlank_of_mem_integerText member
  have read : Decimal.readInteger instant.text = .ok instant.millis :=
    Decimal.readInteger_integerText instant.millis_mem_word.1 instant.millis_mem_word.2
  simp only [ofText, trimmed, read, ofInteger_millis]

end Timestamp

end MonitorFeed
