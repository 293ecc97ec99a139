import MonitorFeed.Proofs.Decimal.Digits
import MonitorFeed.Proofs.Json.Syntax
import Mathlib.Data.List.TakeWhile

/-!
Signed integers in decimal. What is read is what is spelled, digits after a single sign or none, as
far as a signed word holds it; anything else is refused.
-/

namespace MonitorFeed

open Json (Digits)

namespace Decimal

/-- A text spells an integer: one digit or more, perhaps after a single sign. -/
inductive Spells : List Char → Int → Prop where
  | plain (digits : Digits) : Spells digits.text digits.value
  | plus (digits : Digits) : Spells ('+' :: digits.text) digits.value
  | minus (digits : Digits) : Spells ('-' :: digits.text) (-(digits.value : Int))

section Gathering

variable {limit start value : Nat} {beyond : IntegerFault} {text : List Char}

/-- Digits whose number exceeds the limit are not gathered. -/
theorem gather_beyond (spelled : ∀ c ∈ text, c.isDigit = true) (within : start ≤ limit)
    (exceeds : limit < Nat.ofDigitChars 10 text start) :
    gather limit beyond start text = .error beyond := by
  induction text generalizing start with
  | nil => exact absurd exceeds (Nat.not_lt.mpr within)
  | cons c rest ih =>
    obtain ⟨digit, others⟩ := List.forall_mem_cons.mp spelled
    have next : start * 10 + (c.toNat - '0'.toNat) = 10 * start + (c.toNat - '0'.toNat) := by
      rw [Nat.mul_comm]
    rw [Nat.ofDigitChars_cons] at exceeds
    simp only [gather, digit?_of_isDigit digit, next]
    split
    · rename_i reached
      exact ih others reached exceeds
    · rfl

/-- Nothing but digits is gathered. -/
theorem isDigit_of_gather (gathered : gather limit beyond start text = .ok value) :
    ∀ c ∈ text, c.isDigit = true := by
  induction text generalizing start with
  | nil => exact List.forall_mem_nil _
  | cons c rest ih =>
    cases digit : c.isDigit with
    | false => simp [gather, digit?, digit] at gathered
    | true =>
      simp only [gather, digit?_of_isDigit digit] at gathered
      split at gathered
      · exact List.forall_mem_cons.mpr ⟨digit, ih gathered⟩
      · cases gathered

theorem readDigits_text (digits : Digits) :
    readDigits limit beyond digits.text =
      if digits.value ≤ limit then .ok digits.value else .error beyond := by
  change gather limit beyond 0 digits.text = _
  split
  · rename_i within
    exact gather_digits digits.spelled within
  · rename_i exceeds
    exact gather_beyond digits.spelled (Nat.zero_le _) (Nat.lt_of_not_le exceeds)

theorem exists_digits_of_readDigits {f : Nat → Int} {n : Int}
    (read : (readDigits limit beyond text).map f = .ok n) :
    ∃ digits : Digits, digits.text = text ∧ f digits.value = n := by
  cases text with
  | nil => cases read
  | cons c rest =>
    cases gathered : readDigits limit beyond (c :: rest) with
    | error fault =>
      rw [gathered] at read
      cases read
    | ok value =>
      have spelled := isDigit_of_gather gathered
      have again : readDigits limit beyond (c :: rest) = _ := readDigits_text ⟨c, rest, spelled⟩
      refine ⟨⟨c, rest, spelled⟩, rfl, ?_⟩
      rw [gathered] at again
      rw [gathered] at read
      split at again
      · obtain rfl := Except.ok.inj again
        exact Except.ok.inj read
      · cases again

end Gathering

section Integers

variable {text : List Char} {n : Int}

/-- A text that spells an integer is read as it, unless it leaves the signed words. -/
theorem readInteger_of_spells (spells : Spells text n) :
    readInteger text =
      if n < Int64.minValue.toInt then .error .tooSmall
      else if Int64.maxValue.toInt < n then .error .tooLarge else .ok n := by
  rw [Int64.toInt_minValue, Int64.toInt_maxValue]
  have unsigned (digits : Digits) :
      (readDigits (1 <<< 63 - 1) .tooLarge digits.text).map Int.ofNat =
        if (digits.value : Int) < -2 ^ 63 then .error .tooSmall
        else if 2 ^ 63 - 1 < (digits.value : Int) then .error .tooLarge
        else .ok (digits.value : Int) := by
    have above : ¬ (digits.value : Int) < -2 ^ 63 := by omega
    rw [readDigits_text, if_neg above]
    by_cases within : digits.value ≤ 1 <<< 63 - 1
    · have small : ¬ (2 ^ 63 - 1 : Int) < digits.value := by omega
      rw [if_pos within, if_neg small]
      rfl
    · have large : (2 ^ 63 - 1 : Int) < digits.value := by omega
      rw [if_neg within, if_pos large]
      rfl
  cases spells with
  | plain digits =>
    have digit := digits.spelled _ List.mem_cons_self
    rw [Digits.text, readInteger_of_isDigit digit]
    exact unsigned digits
  | plus digits => exact unsigned digits
  | minus digits =>
    have below : ¬ (2 ^ 63 - 1 : Int) < -(digits.value : Int) := by omega
    rw [readInteger, readDigits_text, if_neg below]
    by_cases within : digits.value ≤ 1 <<< 63
    · have large : ¬ -(digits.value : Int) < -2 ^ 63 := by omega
      rw [if_pos within, if_neg large]
      rfl
    · have small : -(digits.value : Int) < -2 ^ 63 := by omega
      rw [if_neg within, if_pos small]
      rfl

/-- What is read as an integer spells it. -/
theorem spells_of_readInteger (read : readInteger text = .ok n) : Spells text n := by
  unfold readInteger at read
  split at read
  · cases read
  · rename_i text
    have negated : (readDigits (1 <<< 63) .tooSmall text).map (fun value : Nat => -(value : Int)) =
        .ok n := by
      rw [← read]
      cases readDigits (1 <<< 63) .tooSmall text <;> rfl
    obtain ⟨digits, rfl, rfl⟩ := exists_digits_of_readDigits negated
    exact .minus digits
  · obtain ⟨digits, rfl, rfl⟩ := exists_digits_of_readDigits read
    exact .plus digits
  · obtain ⟨digits, rfl, rfl⟩ := exists_digits_of_readDigits read
    exact .plain digits

/-- The digits of a number, which begin with a zero only if there are no others. -/
theorem exists_digits (n : Nat) : ∃ digits : Digits, digits.text = naturalText n ∧
    digits.value = n ∧ (digits.first = '0' → digits.others = []) := by
  obtain ⟨c, rest, text, -⟩ := naturalText_eq_cons n
  have spelled : ∀ d ∈ c :: rest, d.isDigit = true := by
    rw [← text]
    exact fun _ => isDigit_of_mem_naturalText
  refine ⟨⟨c, rest, spelled⟩, text.symm, ?_, ?_⟩
  · rw [Digits.value, Digits.text, ← text, ofDigitChars_naturalText]
  · rintro rfl
    cases Nat.eq_zero_or_pos n with
    | inl zero =>
      rw [zero, naturalText_zero] at text
      exact (List.cons_eq_cons.mp text).2.symm
    | inr positive => exact absurd (by rw [text]; rfl) (head?_naturalText_ne positive)

theorem spells_integerText (n : Int) : Spells (integerText n) n := by
  cases n with
  | ofNat n =>
    obtain ⟨digits, text, value, -⟩ := exists_digits n
    have spells := Spells.plain digits
    rwa [text, value] at spells
  | negSucc n =>
    obtain ⟨digits, text, value, -⟩ := exists_digits (n + 1)
    have spells := Spells.minus digits
    rwa [text, value] at spells

/-- What spells an integer holds nothing that trimming would remove. -/
theorem Spells.isBlank (spells : Spells text n) : ∀ c ∈ text, Text.isBlank c = false := by
  have kept (digits : Digits) : ∀ c ∈ digits.text, Text.isBlank c = false :=
    fun c member => isBlank_of_isDigit (digits.spelled c member)
  cases spells with
  | plain digits => exact kept digits
  | plus digits => exact List.forall_mem_cons.mpr ⟨by decide, kept digits⟩
  | minus digits => exact List.forall_mem_cons.mpr ⟨by decide, kept digits⟩

end Integers

end Decimal

namespace Text

private theorem dropWhile_blank {blanks : List Char} (blank : ∀ c ∈ blanks, isBlank c = true)
    (text : List Char) : (blanks ++ text).dropWhile isBlank = text.dropWhile isBlank := by
  rw [List.dropWhile_append, List.dropWhile_eq_nil_iff.mpr blank, List.isEmpty_nil, if_pos rfl]

/-- White space at the ends of a text that holds none is trimmed. -/
theorem trim_append {lead text trail : List Char} (blankLead : ∀ c ∈ lead, isBlank c = true)
    (blankTrail : ∀ c ∈ trail, isBlank c = true) (kept : ∀ c ∈ text, isBlank c = false) :
    trim (lead ++ (text ++ trail)) = text := by
  cases text with
  | nil =>
    rw [trim, dropWhile_blank blankLead, List.nil_append, List.dropWhile_eq_nil_iff.mpr blankTrail]
    rfl
  | cons c rest =>
    have first := kept c List.mem_cons_self
    have unchanged := trim_of_not_blank kept
    have all : ∀ c ∈ trail.reverse, isBlank c = true := by simpa using blankTrail
    rw [trim, List.dropWhile_cons_of_neg (by simp [first])] at unchanged
    rw [trim, dropWhile_blank blankLead, List.cons_append,
      List.dropWhile_cons_of_neg (by simp [first]), ← List.cons_append, List.reverse_append,
      dropWhile_blank all, unchanged]

/-- A text is what trimming leaves of it, with white space at its ends. -/
theorem exists_append_trim (text : List Char) :
    ∃ lead trail, (∀ c ∈ lead, isBlank c = true) ∧ (∀ c ∈ trail, isBlank c = true) ∧
      text = lead ++ (trim text ++ trail) := by
  refine ⟨text.takeWhile isBlank, ((text.dropWhile isBlank).reverse.takeWhile isBlank).reverse,
    ?_, ?_, ?_⟩
  · exact fun c member => List.mem_takeWhile_imp member
  · exact fun c member => List.mem_takeWhile_imp (List.mem_reverse.mp member)
  · rw [trim, ← List.reverse_append, List.takeWhile_append_dropWhile, List.reverse_reverse,
      List.takeWhile_append_dropWhile]

end Text

end MonitorFeed
