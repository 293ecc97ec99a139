import MonitorFeed.Proofs.Decimal.Whole

/-!
Doubles that stay finite: what is put together from bits without the exponent of the infinities, what
has its sign changed, and what is divided by two at least. The bounds are those of the rounding that
every quotient goes through.
-/

namespace MonitorFeed.Decimal

open Float.Model Float.Model.UnpackedFloat

/-- A double is finite unless all bits of its exponent are set. -/
theorem isFinite_iff (x : Float) :
    isFinite x = true ↔ (x.toBits.toNat >>> 52) % 2048 ≠ 2047 := by
  rw [isFinite, Double.ofFloat]
  simp only [Double.ofBits]
  split
  · split <;> simp_all [Double.isFinite]
  · split
    · split <;> simp_all [Double.isFinite]
    · simp_all [Double.isFinite]

section Packing

/-- Parts from which a finite double is put together. -/
def Packable : UnpackedFloat → Prop
  | .zero _ => True
  | .finite _ _ exponent _ => exponent ≤ 971
  | .infinity _ => False
  | .notANumber => False

theorem packable_finite {sign : Sign} {mantissa : Nat} {exponent : Int} {positive : 0 < mantissa} :
    Packable (.finite sign mantissa exponent positive) ↔ exponent ≤ 971 :=
  Iff.rfl

theorem packable_dite {p : Prop} [Decidable p] {a : p → UnpackedFloat} {b : ¬ p → UnpackedFloat}
    (pos : ∀ h, Packable (a h)) (neg : ∀ h, Packable (b h)) :
    Packable (if h : p then a h else b h) := by
  by_cases holds : p
  · rw [dif_pos holds]
    exact pos holds
  · rw [dif_neg holds]
    exact neg holds

theorem toNat_unpackExponent (bits : UInt64) :
    (@unpackExponent Format.binary64 bits.toBitVec).toNat =
      (bits.toNat >>> 52) % 2048 := by
  simp [unpackExponent]

theorem packable_unpack {bits : UInt64} (inside : (bits.toNat >>> 52) % 2048 ≠ 2047) :
    Packable (UnpackedFloat.unpack Format.binary64 bits.toBitVec) := by
  have field := toNat_unpackExponent bits
  have other : @unpackExponent Format.binary64 bits.toBitVec ≠ -1#_ := by
    intro same
    rw [same] at field
    exact inside field.symm
  have below : (@unpackExponent Format.binary64 bits.toBitVec).toNat < 2047 := by
    rw [field]
    omega
  delta UnpackedFloat.unpack
  dsimp only
  rw [if_neg other]
  by_cases least : @unpackExponent Format.binary64 bits.toBitVec = 0#_
  · rw [if_pos least]
    refine packable_dite (fun _ => trivial) fun _ => ?_
    rw [packable_finite, least]
    decide
  · rw [if_neg least, packable_finite]
    simp only [Format.exponentBias]
    omega

theorem isFinite_pack {parts : UnpackedFloat} (small : Packable parts) :
    isFinite ⟨Float.Model.pack parts⟩ = true := by
  rw [isFinite_iff, ← toNat_unpackExponent]
  change (unpackExponent (UnpackedFloat.pack Format.binary64 parts)).toNat ≠ 2047
  cases parts with
  | zero sign =>
    change (unpackExponent (packComponents Format.binary64 sign 0 0)).toNat ≠ 2047
    rw [unpackExponent_packComponents]
    decide
  | finite sign mantissa exponent positive =>
    have small : exponent ≤ 971 := small
    have room : ¬ 2 ^ Format.binary64.exponentBits ≤ (exponent + Format.binary64.exponentBias +
        Format.binary64.mantissaBitsWithoutImplicit).toNat + 1 := by
      simp only [Format.exponentBias]
      omega
    delta UnpackedFloat.pack
    dsimp only
    rw [if_neg room]
    split
    · rw [unpackExponent_packComponents]
      simp [Format.exponentBias]
      omega
    · rw [unpackExponent_packComponents]
      decide
  | infinity sign => exact small.elim
  | notANumber => exact small.elim

theorem isFinite_ofBits {bits : UInt64} (inside : (bits.toNat >>> 52) % 2048 ≠ 2047) :
    isFinite (Float.ofBits bits) = true :=
  isFinite_pack (packable_unpack inside)

theorem isFinite_neg {x : Float} (finite : isFinite x = true) : isFinite (-x) = true := by
  have negated : -x =
      ⟨Float.Model.pack (UnpackedFloat.unpack Format.binary64 x.toBits.toBitVec).neg⟩ := rfl
  have small := packable_unpack ((isFinite_iff x).mp finite)
  rw [negated]
  apply isFinite_pack
  cases parts : UnpackedFloat.unpack Format.binary64 x.toBits.toBitVec <;> rw [parts] at small <;>
    exact small

/-- A mantissa that is taken out of a double has 53 bits at most. -/
theorem log2_of_unpack {bits : BitVec Format.binary64.numBits} {sign : Sign} {mantissa : Nat}
    {exponent : Int} {positive : 0 < mantissa}
    (taken : UnpackedFloat.unpack Format.binary64 bits = .finite sign mantissa exponent positive) :
    mantissa.log2 ≤ 52 := by
  have short : mantissa < 2 ^ 53 := by
    delta UnpackedFloat.unpack at taken
    dsimp only at taken
    by_cases largest : @unpackExponent Format.binary64 bits = -1#_
    · rw [if_pos largest] at taken
      by_cases none : @unpackMantissa Format.binary64 bits = 0#_
      · rw [if_pos none] at taken
        cases taken
      · rw [if_neg none] at taken
        cases taken
    rw [if_neg largest] at taken
    by_cases least : @unpackExponent Format.binary64 bits = 0#_
    · rw [if_pos least] at taken
      by_cases none : @unpackMantissa Format.binary64 bits = 0#_
      · rw [dif_pos none] at taken
        cases taken
      · rw [dif_neg none] at taken
        cases taken
        exact Nat.lt_trans (BitVec.isLt _) (by decide)
    · rw [if_neg least] at taken
      cases taken
      exact BitVec.isLt _
  exact Nat.le_of_lt_succ ((Nat.log2_lt (Nat.ne_of_gt positive)).mpr short)

end Packing

section Rounding

variable {mantissa count : Nat}

theorem mantissa_ofMantissaAndAccuracy (mantissa : Nat) (accuracy : Accuracy) :
    (ExtendedMantissa.ofMantissaAndAccuracy mantissa accuracy).mantissa = mantissa := by
  rcases accuracy with _ | order
  · rfl
  · cases order <;> rfl

theorem mantissa_shiftRight (extended : ExtendedMantissa) (count : Nat) :
    (extended >>> count).mantissa = extended.mantissa >>> count := by
  induction count with
  | zero => rfl
  | succ count ih =>
    have step : (extended >>> (count + 1)).mantissa = (extended >>> count).mantissa / 2 := rfl
    rw [step, ih, Nat.shiftRight_succ]

theorem roundedMantissa_le (extended : ExtendedMantissa) :
    extended.roundedMantissa ≤ extended.mantissa + 1 := by
  obtain ⟨mantissa, round, sticky⟩ := extended
  cases round <;> cases sticky <;>
    simp only [ExtendedMantissa.roundedMantissa, ExtendedMantissa.accuracy,
      Accuracy.roundToNearestEven] <;> omega

/-- Rounding may carry into one bit more. -/
theorem log2_roundedMantissa_le (accuracy : Accuracy) (short : mantissa.log2 ≤ 52 + count) :
    (ExtendedMantissa.ofMantissaAndAccuracy mantissa accuracy >>> count).roundedMantissa.log2 ≤
      53 := by
  have below : mantissa / 2 ^ count < 2 ^ 53 := by
    rw [Nat.div_lt_iff_lt_mul (Nat.two_pow_pos count), ← Nat.pow_add]
    exact Nat.lt_of_lt_of_le Nat.lt_log2_self (Nat.pow_le_pow_right (by decide) (by omega))
  have rounded := roundedMantissa_le
    (ExtendedMantissa.ofMantissaAndAccuracy mantissa accuracy >>> count)
  rw [mantissa_shiftRight, mantissa_ofMantissaAndAccuracy, Nat.shiftRight_eq_div_pow] at rounded
  generalize (ExtendedMantissa.ofMantissaAndAccuracy mantissa accuracy >>> count).roundedMantissa =
    result at rounded
  by_cases zero : result = 0
  · rw [zero]
    decide
  · exact Nat.le_of_lt_succ ((Nat.log2_lt zero).mpr (by omega))

/-- A mantissa is shifted to 53 bits, no further than they or the least exponent ask for. -/
theorem exists_shift (mantissa : Nat) (exponent : Int) (accuracy : Accuracy) :
    ∃ count : Nat, shiftToTargetExponent Format.binary64 mantissa exponent accuracy =
        (ExtendedMantissa.ofMantissaAndAccuracy mantissa accuracy >>> count, exponent + count) ∧
      mantissa.log2 ≤ 52 + count ∧
      exponent + count ≤ max exponent (max (mantissa.log2 + exponent - 52) (-1074)) := by
  have target : Format.binary64.targetExponent (totalExponent mantissa exponent) =
      max (mantissa.log2 + 1 + exponent - 53) (-1074) := rfl
  refine ⟨_, rfl, ?_, ?_⟩ <;> rw [target] <;> omega

/-- The exponent of a mantissa that is rounded grows by what is shifted out, and by one for a carry. -/
theorem packable_round (sign : Sign) {exponent : Int} (accuracy : Accuracy) (low : exponent ≤ 970)
    (short : mantissa.log2 + exponent ≤ 1022) :
    Packable (roundWithAccuracy Format.binary64 sign mantissa exponent accuracy) := by
  obtain ⟨count, shifted, log, moved⟩ := exists_shift mantissa exponent accuracy
  have rounded := log2_roundedMantissa_le accuracy log
  obtain ⟨carry, again, -, further⟩ := exists_shift
    (ExtendedMantissa.ofMantissaAndAccuracy mantissa accuracy >>> count).roundedMantissa
    (exponent + count) .exact
  delta roundWithAccuracy
  rw [shifted]
  dsimp only
  rw [again]
  refine packable_dite (fun _ => trivial) fun _ => ?_
  rw [packable_finite]
  dsimp only
  omega

end Rounding

section Quotients

/-- A quotient is as long as the lengths of the two numbers differ, or longer by a bit. -/
theorem log2_div_le {dividend divisor shift : Nat} (some : (dividend <<< shift) / divisor ≠ 0) :
    ((dividend <<< shift) / divisor).log2 + divisor.log2 ≤ dividend.log2 + shift := by
  have positive : divisor ≠ 0 := by
    rintro rfl
    exact some (Nat.div_zero _)
  have low : 2 ^ (((dividend <<< shift) / divisor).log2 + divisor.log2) ≤ dividend <<< shift := by
    rw [Nat.pow_add]
    exact Nat.le_trans (Nat.mul_le_mul (Nat.log2_self_le some) (Nat.log2_self_le positive))
      (Nat.div_mul_le_self _ _)
  have high : dividend <<< shift < 2 ^ (dividend.log2 + 1 + shift) := by
    rw [Nat.shiftLeft_eq, Nat.pow_add]
    exact Nat.mul_lt_mul_of_pos_right Nat.lt_log2_self (Nat.two_pow_pos shift)
  have powers := (Nat.pow_lt_pow_iff_right (by decide)).mp (Nat.lt_of_le_of_lt low high)
  omega

/-- Whether the magnitude of a double is finite and not below two. -/
def isLarge (x : Float) : Bool :=
  match x.toModel.unpack with
  | .finite _ mantissa exponent _ => 1 ≤ mantissa.log2 + exponent
  | _ => false

/-- A finite double is finite after it is divided by a large one. -/
theorem isFinite_div {x y : Float} (finite : isFinite x = true) (large : isLarge y = true) :
    isFinite (x / y) = true := by
  have quotient : x / y = ⟨Float.Model.pack (UnpackedFloat.div Format.binary64
      (UnpackedFloat.unpack Format.binary64 x.toBits.toBitVec) y.toModel.unpack)⟩ := rfl
  have small := packable_unpack ((isFinite_iff x).mp finite)
  rw [quotient]
  apply isFinite_pack
  unfold isLarge at large
  cases divisor : y.toModel.unpack with
  | finite otherSign other otherExponent otherPositive =>
    rw [divisor] at large
    have large : 1 ≤ other.log2 + otherExponent := of_decide_eq_true large
    cases dividend : UnpackedFloat.unpack Format.binary64 x.toBits.toBitVec with
    | finite sign mantissa exponent positive =>
      rw [dividend] at small
      have small : exponent ≤ 971 := small
      have log := log2_of_unpack dividend
      have target : Format.binary64.targetExponent
          (totalExponent mantissa exponent - totalExponent other otherExponent) =
            max (mantissa.log2 + 1 + exponent - (other.log2 + 1 + otherExponent) - 53) (-1074) := rfl
      delta UnpackedFloat.div divCore
      dsimp only
      rw [target]
      generalize lowest : min (exponent - otherExponent)
        (max (mantissa.log2 + 1 + exponent - (other.log2 + 1 + otherExponent) - 53) (-1074)) = least
      refine packable_round _ _ (by omega) ?_
      by_cases none : (mantissa <<< (exponent - otherExponent - least).toNat) / other = 0
      · have empty : (0 : Nat).log2 = 0 := by decide
        rw [none, empty]
        omega
      · have length := log2_div_le none
        omega
    | zero sign => trivial
    | infinity sign =>
      rw [dividend] at small
      exact small.elim
    | notANumber =>
      rw [dividend] at small
      exact small.elim
  | _ =>
    rw [divisor] at large
    cases large

end Quotients

section Nearest

variable {n : Nat}

theorem divideToEven_le (num den : Nat) : divideToEven num den ≤ num / den + 1 := by
  simp only [divideToEven]
  split <;> omega

/-- Bits below those of the infinities are the bits of the double that they stand for. -/
theorem toBits_ofBits {bits : Nat} (below : bits < 2047 <<< 52) :
    (Double.ofBits bits).toBits = bits := by
  have infinities : 2047 <<< 52 = 9218868437227405312 := rfl
  have unit : 1 <<< 52 = 4503599627370496 := rfl
  have sign : bits >>> 63 % 2 ≠ 1 := by
    rw [Nat.shiftRight_eq_div_pow]
    omega
  have exponent : bits >>> 52 % 2048 = bits / 4503599627370496 := by
    rw [Nat.shiftRight_eq_div_pow]
    omega
  have notLargest : bits / 4503599627370496 ≠ 2047 := by omega
  simp only [Double.ofBits, exponent, unit, sign, notLargest, decide_false, ↓reduceIte]
  split
  · split
    · simp [Double.toBits, Double.magnitudeBits, Double.isNegative]
      omega
    · simp [Double.toBits, Double.magnitudeBits, Double.isNegative]
      omega
  · simp [Double.toBits, Double.magnitudeBits, Double.isNegative, Nat.shiftLeft_eq]
    omega

theorem nearestBits_lt_of_word (within : n < UInt64.size) : nearestBits n 1 < 2047 <<< 52 := by
  have infinities : 2047 <<< 52 = 9218868437227405312 := rfl
  rcases Nat.eq_zero_or_pos n with rfl | positive
  · decide
  by_cases short : n.log2 ≤ 52
  · have leading := (leading_shiftLeft positive short).2
    have double : 1 <<< 53 = 9007199254740992 := rfl
    rw [nearestBits_one positive short, infinities, Nat.shiftLeft_eq (n.log2 + 1022)]
    omega
  · have log : n.log2 ≤ 63 := Nat.le_of_lt_succ ((Nat.log2_lt (Nat.ne_of_gt positive)).mpr within)
    have unit : max ((n.log2 : Int) - 52) (-1074) = (n.log2 - 52 : Nat) := by omega
    have significand : divideToEven n (1 <<< (n.log2 - 52)) ≤ 9007199254740992 := by
      have below : n / 2 ^ (n.log2 - 52) < 2 ^ 53 := by
        rw [Nat.div_lt_iff_lt_mul (Nat.two_pow_pos _), ← Nat.pow_add]
        exact Nat.lt_of_lt_of_le Nat.lt_log2_self (Nat.pow_le_pow_right (by decide) (by omega))
      have rounded := divideToEven_le n (1 <<< (n.log2 - 52))
      rw [Nat.one_shiftLeft] at rounded ⊢
      omega
    simp only [nearestBits, Nat.ne_of_gt positive, ↓reduceIte, binaryExponent_one positive, unit,
      Int.natCast_nonneg, Int.toNat_natCast]
    rw [Nat.shiftLeft_eq _ 52]
    omega

/-- The double nearest to a word is finite. -/
theorem isFinite_nearest (within : n < UInt64.size) : isFinite (nearest n 1).toFloat = true := by
  have below := nearestBits_lt_of_word within
  have infinities : 2047 <<< 52 = 9218868437227405312 := rfl
  have bits : (nearest n 1).toBits = nearestBits n 1 := toBits_ofBits below
  apply isFinite_ofBits
  rw [bits, Nat.toUInt64, UInt64.toNat_ofNat', Nat.shiftRight_eq_div_pow]
  omega

end Nearest

end MonitorFeed.Decimal
