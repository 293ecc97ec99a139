import MonitorFeed.Proofs.Decimal.Finite
import MonitorFeed.Proofs.Json.Number
import MonitorFeed.Schema.Reader

/-!
The numbers that are scanned are finite. A product that is too large is refused, and the divisors of
a negative exponent are all large.
-/

namespace MonitorFeed.Json

/-- The powers of ten that a double may be divided by. -/
private theorem isLarge_powerOfTen :
    ∀ exponent < 309, 0 < exponent → Decimal.isLarge (powerOfTen exponent) = true := by
  decide +kernel

theorem isFinite_divideByPower {value : Float} (finite : Decimal.isFinite value = true)
    (steps : Nat) {exponent : Nat} (positive : 0 < exponent) :
    Decimal.isFinite (divideByPower steps value exponent) = true := by
  induction steps generalizing value exponent with
  | zero => exact finite
  | succ steps ih =>
    unfold divideByPower
    split
    · exact Decimal.isFinite_div finite (isLarge_powerOfTen exponent (by omega) positive)
    · exact ih (Decimal.isFinite_div finite (isLarge_powerOfTen 308 (by decide) (by decide)))
        (by omega)

variable {negative : Bool} {significand : Nat} {exponent : Int} {text rest : List Char}
  {number : Number}

theorem isFinite_nearest (within : significand ≤ largestWord) :
    Decimal.isFinite (Decimal.nearest significand 1).toFloat = true :=
  Decimal.isFinite_nearest (Nat.lt_of_le_of_lt within (by decide))

theorem isFinite_scaleReal (within : significand ≤ largestWord) {value : Float}
    (scaled : scaleReal significand exponent = some value) : Decimal.isFinite value = true := by
  have finite := isFinite_nearest within
  simp only [scaleReal] at scaled
  split at scaled
  · obtain rfl := Option.some.inj scaled
    exact isFinite_divideByPower finite 3 (by omega)
  · split at scaled
    · split at scaled
      · obtain rfl := Option.some.inj scaled
        exact finite
      · cases scaled
    · split at scaled
      · rename_i checked
        obtain rfl := Option.some.inj scaled
        exact checked
      · cases scaled

private theorem finite_finishReal (within : significand ≤ largestWord)
    (read : finishReal negative significand exponent text = .ok (number, rest)) :
    Decimal.isFinite number.toFloat = true := by
  unfold finishReal at read
  split at read
  · rename_i value scaled
    obtain ⟨rfl, -⟩ := Prod.mk.inj (Except.ok.inj read)
    have finite := isFinite_scaleReal within scaled
    cases negative with
    | false => exact finite
    | true => exact Decimal.isFinite_neg finite
  · cases read

private theorem finite_scanExponent (within : significand ≤ largestWord)
    (read : scanExponent negative significand exponent text = .ok (number, rest)) :
    Decimal.isFinite number.toFloat = true := by
  rw [scanExponent_eq] at read
  unfold scanExponentDigits at read
  split at read
  · cases read
  · split at read
    · cases read
    · split at read
      · exact finite_finishReal within read
      · split at read
        · cases read
        · exact finite_finishReal (Nat.zero_le _) read

private theorem finite_scanRealTail (within : significand ≤ largestWord)
    (read : scanRealTail negative significand exponent text = .ok (number, rest)) :
    Decimal.isFinite number.toFloat = true := by
  unfold scanRealTail at read
  split at read
  · exact finite_scanExponent within read
  · exact finite_scanExponent within read
  · exact finite_finishReal within read

private theorem finite_scanFraction (within : significand ≤ largestWord)
    (read : scanFraction negative significand exponent text = .ok (number, rest)) :
    Decimal.isFinite number.toFloat = true := by
  simp only [scanFraction] at read
  split at read
  · exact finite_scanRealTail (takeDigits_le within 0) read
  · split at read <;> cases read

private theorem finite_scanLong (within : significand ≤ largestWord)
    (read : scanLong negative significand text = .ok (number, rest)) :
    Decimal.isFinite number.toFloat = true := by
  simp only [scanLong] at read
  split at read
  · exact finite_scanFraction within read
  · exact finite_scanRealTail within read

private theorem finite_scanTail (within : significand ≤ largestWord)
    (read : scanTail negative significand text = .ok (number, rest)) :
    Decimal.isFinite number.toFloat = true := by
  unfold scanTail at read
  split at read
  · exact finite_scanFraction within read
  · exact finite_scanExponent within read
  · exact finite_scanExponent within read
  · split at read
    · obtain ⟨rfl, -⟩ := Prod.mk.inj (Except.ok.inj read)
      exact isFinite_nearest within
    · split at read <;> obtain ⟨rfl, -⟩ := Prod.mk.inj (Except.ok.inj read) <;>
        exact Decimal.isFinite_neg (isFinite_nearest within)

/-- Every number that is scanned is that of a finite double. -/
theorem finite_scanNumber (read : scanNumber negative text = .ok (number, rest)) :
    Decimal.isFinite number.toFloat = true := by
  cases text with
  | nil => cases read
  | cons c tail =>
    simp only [scanNumber] at read
    split at read
    · cases read
    · split at read
      · cases read
      · exact finite_scanTail (Nat.zero_le _) read
    · rename_i d _ digit
      have first : d ≤ largestWord :=
        Nat.le_trans (Nat.le_of_lt (Decimal.lt_of_digit? digit)) (by decide)
      have within : (takeDigits d 0 tail).1 ≤ largestWord := takeDigits_le first 0
      split at read
      · exact finite_scanLong within read
      · exact finite_scanTail within read

end MonitorFeed.Json
