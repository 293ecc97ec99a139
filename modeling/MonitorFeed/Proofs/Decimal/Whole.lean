import MonitorFeed.Decimal.Nearest
import MonitorFeed.Proofs.Decimal.Digits
import Mathlib.Data.List.TakeDrop

/-!
Whole numbers as doubles. Up to two to the fifty-third a double holds each of them, so the canonical
text of such a number is read as a double without any loss.
-/

namespace MonitorFeed.Decimal

namespace Double

/-- What is left of a finite double without its fraction. -/
def integerPart? : Double → Option Int
  | .zero _ => some 0
  | .finite negative significand exponent =>
    let magnitude := significand <<< exponent.toNat >>> (-exponent).toNat
    some (if negative then -(magnitude : Int) else magnitude)
  | .infinite _ | .notANumber => none

variable {x : Double} {value least greatest : Int}

theorem isFinite_of_integerPart? (held : x.integerPart? = some value) : x.isFinite = true := by
  cases x with
  | zero | finite => rfl
  | infinite | notANumber => cases held

/-- Within its bounds truncation gives the integer part. -/
theorem truncate_of_integerPart? (held : x.integerPart? = some value) (above : least ≤ value)
    (below : value ≤ greatest) : x.truncate least greatest = value := by
  cases x with
  | zero => exact Option.some.inj held
  | finite =>
    have same := Option.some.inj held
    simp only [truncate, same]
    omega
  | infinite | notANumber => cases held

theorem integerPart?_negate (held : x.integerPart? = some value) :
    x.negate.integerPart? = some (-value) := by
  cases x with
  | zero =>
    obtain rfl := Option.some.inj held
    rfl
  | finite negative =>
    obtain rfl := Option.some.inj held
    cases negative <;> simp [negate, integerPart?]
  | infinite | notANumber => cases held

/-- The bits of a normal number are its exponent and what follows its leading bit. -/
theorem ofBits_normal (biased : Nat) {significand : Nat} (normal : 0 < biased ∧ biased < 2047)
    (leading : 1 <<< 52 ≤ significand ∧ significand < 1 <<< 53) :
    ofBits ((biased - 1) <<< 52 + significand) =
      .finite false significand ((biased : Int) - 1075) := by
  have unit : 1 <<< 52 = 4503599627370496 := rfl
  have double : 1 <<< 53 = 9007199254740992 := rfl
  rw [unit, double] at leading
  have split : (biased - 1) <<< 52 + significand =
      biased * 4503599627370496 + (significand - 4503599627370496) := by
    rw [Nat.shiftLeft_eq]
    omega
  have sign : ((biased - 1) <<< 52 + significand) >>> 63 % 2 = 0 := by
    rw [split, Nat.shiftRight_eq_div_pow]
    omega
  have exponent : ((biased - 1) <<< 52 + significand) >>> 52 % 2048 = biased := by
    rw [split, Nat.shiftRight_eq_div_pow]
    omega
  have fraction : ((biased - 1) <<< 52 + significand) % 4503599627370496 + 4503599627370496 =
      significand := by
    rw [split]
    omega
  have notLargest : biased ≠ 2047 := Nat.ne_of_lt normal.2
  have notLeast : biased ≠ 0 := Nat.ne_of_gt normal.1
  simp only [ofBits, sign, exponent, unit, fraction, notLargest, notLeast, ↓reduceIte,
    Nat.zero_ne_one, decide_false]

end Double

theorem divideToEven_one (n : Nat) : divideToEven n 1 = n := by
  simp [divideToEven, Nat.mod_one]

/-- The leading bit of a whole number is its logarithm. -/
theorem binaryExponent_one {n : Nat} (positive : 0 < n) : binaryExponent n 1 = n.log2 := by
  have reached : 1 <<< n.log2 ≤ n := by
    rw [Nat.one_shiftLeft]
    exact Nat.log2_self_le (Nat.ne_of_gt positive)
  have one : Nat.log2 1 = 0 := by decide
  simp [binaryExponent, one, reached]

/-- The number up to which a double holds every whole number. -/
def wholeLimit : Nat := 1 <<< 53

section Whole

variable {n : Nat}

theorem log2_le_of_lt_wholeLimit (positive : 0 < n) (below : n < wholeLimit) : n.log2 ≤ 52 :=
  Nat.le_of_lt_succ ((Nat.log2_lt (Nat.ne_of_gt positive)).mpr below)

/-- A whole number moved up to the leading bit of a significand. -/
theorem leading_shiftLeft (positive : 0 < n) (short : n.log2 ≤ 52) :
    1 <<< 52 ≤ n <<< (52 - n.log2) ∧ n <<< (52 - n.log2) < 1 <<< 53 := by
  have filled : n.log2 + (52 - n.log2) = 52 := Nat.add_sub_cancel' short
  constructor
  · calc 1 <<< 52 = 2 ^ n.log2 * 2 ^ (52 - n.log2) := by
          rw [← Nat.pow_add, filled, Nat.one_shiftLeft]
      _ ≤ n * 2 ^ (52 - n.log2) :=
        Nat.mul_le_mul_right _ (Nat.log2_self_le (Nat.ne_of_gt positive))
      _ = n <<< (52 - n.log2) := (Nat.shiftLeft_eq _ _).symm
  · calc n <<< (52 - n.log2) = n * 2 ^ (52 - n.log2) := Nat.shiftLeft_eq _ _
      _ < 2 ^ (n.log2 + 1) * 2 ^ (52 - n.log2) :=
        Nat.mul_lt_mul_of_pos_right Nat.lt_log2_self (Nat.two_pow_pos _)
      _ = 1 <<< 53 := by rw [← Nat.pow_add, Nat.add_right_comm, filled, Nat.one_shiftLeft]

/-- A whole number below the limit fills the significand without rounding. -/
theorem nearestBits_one (positive : 0 < n) (short : n.log2 ≤ 52) :
    nearestBits n 1 = (n.log2 + 1022) <<< 52 + n <<< (52 - n.log2) := by
  have leading := (leading_shiftLeft positive short).2
  have unit : max ((n.log2 : Int) - 52) (-1074) = (n.log2 : Int) - 52 := by omega
  have place : ((n.log2 : Int) - 52 + 1074).toNat = n.log2 + 1022 := by omega
  have moved : (-((n.log2 : Int) - 52)).toNat = 52 - n.log2 := by omega
  have significand : (if 0 ≤ (n.log2 : Int) - 52 then
      divideToEven n (1 <<< ((n.log2 : Int) - 52).toNat)
      else divideToEven (n <<< (52 - n.log2)) 1) = n <<< (52 - n.log2) := by
    split
    · have last : ((n.log2 : Int) - 52).toNat = 0 := by omega
      have none : 52 - n.log2 = 0 := by omega
      rw [last, none]
      exact divideToEven_one n
    · exact divideToEven_one _
  have small : (n.log2 + 1022) <<< 52 + n <<< (52 - n.log2) ≤ 2047 <<< 52 := by
    have double : 1 <<< 53 = 9007199254740992 := rfl
    rw [double] at leading
    rw [Nat.shiftLeft_eq (n.log2 + 1022), Nat.shiftLeft_eq 2047]
    omega
  simp only [nearestBits, Nat.ne_of_gt positive, ↓reduceIte, binaryExponent_one positive, unit,
    place, moved, significand, Nat.min_eq_right small]

/-- A double holds every whole number up to the limit. -/
theorem integerPart?_nearest (within : n ≤ wholeLimit) :
    (nearest n 1).integerPart? = some (n : Int) := by
  rcases Nat.eq_zero_or_pos n with rfl | positive
  · rfl
  rcases Nat.lt_or_eq_of_le within with below | rfl
  · have short := log2_le_of_lt_wholeLimit positive below
    have bits := Double.ofBits_normal (n.log2 + 1023) (by omega)
      (leading_shiftLeft positive short)
    have exponent : ((n.log2 + 1023 : Nat) : Int) - 1075 = -((52 - n.log2 : Nat) : Int) := by omega
    have place : n.log2 + 1023 - 1 = n.log2 + 1022 := rfl
    rw [exponent, place, ← nearestBits_one positive short] at bits
    rw [nearest, bits]
    have whole : n <<< (52 - n.log2) >>> (52 - n.log2) = n := Nat.shiftLeft_shiftRight n _
    have down : (-(-((52 - n.log2 : Nat) : Int))).toNat = 52 - n.log2 := by omega
    have up : (-((52 - n.log2 : Nat) : Int)).toNat = 0 := by omega
    simp only [Double.integerPart?, up, down, Nat.shiftLeft_zero, whole, Bool.false_eq_true,
      ↓reduceIte]
  · rfl

/-- The next number is held no more. -/
example : (nearest (wholeLimit + 1) 1).integerPart? = some (wholeLimit : Int) := by decide

theorem integerPart?_nearestScaled (within : n ≤ wholeLimit) :
    (nearestScaled n 0).integerPart? = some (n : Int) := by
  have short : (Nat.toDigits 10 n).length ≤ 400 :=
    (Nat.length_toDigits_le_iff (by decide) (by decide)).mpr
      (Nat.lt_of_le_of_lt within (by decide +kernel))
  have notSmall : ¬ ((Nat.toDigits 10 n).length : Int) + 0 < -400 := by omega
  have notLarge : ¬ 400 < ((Nat.toDigits 10 n).length : Int) + 0 := by omega
  by_cases zero : n = 0
  · subst zero
    rfl
  · simp only [nearestScaled, zero, notSmall, notLarge, decide_false, Bool.or_self,
      Bool.false_eq_true, ↓reduceIte, Int.le_refl, Int.toNat_zero, Nat.pow_eq, Nat.pow_zero,
      Nat.mul_one]
    exact integerPart?_nearest within

end Whole

/-- Digits are taken up to the first character that is none. -/
theorem spanDigits_append {digits rest : List Char} (spelled : ∀ c ∈ digits, c.isDigit = true)
    (stops : ∀ c ∈ rest.head?, c.isDigit = false) : spanDigits (digits ++ rest) = (digits, rest) := by
  rw [spanDigits, List.span_eq_takeWhile_dropWhile, List.takeWhile_append_of_pos spelled,
    List.dropWhile_append_of_pos spelled]
  cases rest with
  | nil => simp
  | cons c rest => simp [stops c rfl]

theorem digitsValue_naturalText (n : Nat) : digitsValue (naturalText n) = n := by
  have spelled := ofDigitChars_naturalText n
  simpa only [Nat.ofDigitChars, digitsValue, Nat.mul_comm] using spelled

/-- No special value has a name that begins with a digit. -/
theorem readSpecial_of_isDigit {c : Char} (digit : c.isDigit = true) (rest : List Char) :
    readSpecial (c :: rest) = none := by
  have range := Char.isDigit_iff_toNat.mp digit
  have same : c.toLower = c := dif_neg fun capital =>
    absurd (Nat.le_trans (show 65 ≤ c.toNat from capital.1) range.2) (by decide)
  have letter (d : Char) (above : 57 < d.toNat) : c ≠ d := by
    rintro rfl
    exact absurd (Nat.lt_of_lt_of_le above range.2) (by decide)
  have i := letter 'i' (by decide)
  have n := letter 'n' (by decide)
  simp [readSpecial, same, i, n]

/-- The canonical text of a number is read as that number, scaled by nothing. -/
theorem readMagnitude_naturalText (n : Nat) :
    readMagnitude (naturalText n) = some (nearestScaled n 0) := by
  have digits : spanDigits (naturalText n ++ []) = (naturalText n, []) :=
    spanDigits_append (fun _ => isDigit_of_mem_naturalText) (fun _ first => by cases first)
  rw [List.append_nil] at digits
  simp [readMagnitude, digits, naturalText_ne_nil, readExponent, digitsValue_naturalText]

/-- The canonical text of a number within the limit is read as a double that holds it. -/
theorem readDouble_integerText {value : Int} (within : value.natAbs ≤ wholeLimit) :
    ∃ x, readDouble (integerText value) = some x ∧ x.integerPart? = some value := by
  have unsigned (n : Nat) : (readSpecial (naturalText n)).or (readMagnitude (naturalText n)) =
      some (nearestScaled n 0) := by
    obtain ⟨c, rest, text, digit⟩ := naturalText_eq_cons n
    rw [readMagnitude_naturalText, text, readSpecial_of_isDigit digit]
    rfl
  cases value with
  | ofNat n =>
    refine ⟨nearestScaled n 0, ?_, integerPart?_nearestScaled within⟩
    -- A digit is no sign.
    have sign {c : Char} (other : c.isDigit = false) (rest : List Char) :
        naturalText n ≠ c :: rest := by
      intro text
      rw [isDigit_of_mem_naturalText (n := n) (by simp [text])] at other
      cases other
    rw [integerText, readDouble]
    · exact unsigned n
    · exact sign rfl
    · exact sign rfl
  | negSucc n =>
    refine ⟨(nearestScaled (n + 1) 0).negate, ?_,
      Double.integerPart?_negate (integerPart?_nearestScaled within)⟩
    simp only [integerText, readDouble, unsigned, Option.map_some]

end MonitorFeed.Decimal
