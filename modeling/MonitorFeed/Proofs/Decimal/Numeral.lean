import MonitorFeed.Decimal.Shortest
import MonitorFeed.Proofs.Decimal.Digits

/-!
The characters in which numbers are written: digits, a point, the letter of an exponent, and signs.
-/

namespace MonitorFeed.Decimal

/-- A character of a written number. -/
def isNumeral (c : Char) : Bool :=
  c.isDigit || c = '.' || c = 'e' || c = '-' || c = '+'

/-- A text of numerals, at least one of them. -/
def Numeral (text : List Char) : Prop :=
  text ≠ [] ∧ ∀ c ∈ text, isNumeral c = true

theorem isNumeral_of_isDigit {c : Char} (digit : c.isDigit = true) : isNumeral c = true := by
  simp [isNumeral, digit]

private theorem isNumeral_zero : isNumeral '0' = true := rfl

private theorem isNumeral_point : isNumeral '.' = true := rfl

namespace Numeral

variable {text : List Char}

theorem ofDigits (some : text ≠ []) (digits : ∀ c ∈ text, c.isDigit = true) : Numeral text :=
  ⟨some, fun c member => isNumeral_of_isDigit (digits c member)⟩

theorem naturalText (n : Nat) : Numeral (naturalText n) :=
  ofDigits (naturalText_ne_nil n) fun _ => isDigit_of_mem_naturalText

theorem cons {c : Char} (first : isNumeral c = true) (rest : Numeral text) : Numeral (c :: text) :=
  ⟨List.cons_ne_nil _ _, List.forall_mem_cons.mpr ⟨first, rest.2⟩⟩

theorem ofChar {c : Char} (only : isNumeral c = true) : Numeral [c] :=
  ⟨List.cons_ne_nil _ _, List.forall_mem_singleton.mpr only⟩

theorem integerText (n : Int) : Numeral (integerText n) := by
  cases n with
  | ofNat n => exact naturalText n
  | negSucc n => exact cons rfl (naturalText (n + 1))

theorem positional (keepsPoint : Bool) (places : Int) (digits : Numeral text) :
    Numeral (positional keepsPoint text places) := by
  have zeros (count : Nat) : ∀ c ∈ List.replicate count '0', isNumeral c = true := by
    intro c member
    rw [List.eq_of_mem_replicate member]
    exact isNumeral_zero
  unfold Decimal.positional
  split
  · refine ⟨List.cons_ne_nil _ _, ?_⟩
    simp only [List.cons_append, List.forall_mem_cons, List.forall_mem_append]
    exact ⟨isNumeral_zero, isNumeral_point, zeros _, digits.2⟩
  · split
    · refine ⟨by simp [digits.1], ?_⟩
      simp only [List.forall_mem_append]
      refine ⟨⟨digits.2, zeros _⟩, ?_⟩
      split
      · simp [isNumeral_zero, isNumeral_point]
      · simp
    · refine ⟨by simp, ?_⟩
      simp only [List.forall_mem_append, List.forall_mem_cons]
      exact ⟨fun c member => digits.2 c (List.mem_of_mem_take member), isNumeral_point,
        fun c member => digits.2 c (List.mem_of_mem_drop member)⟩

theorem scientific (exponent : Int) (digits : Numeral text) : Numeral (scientific text exponent) := by
  have mark : isNumeral 'e' = true := rfl
  have sign : isNumeral '+' = true := rfl
  unfold Decimal.scientific
  refine ⟨by simp, ?_⟩
  simp only [List.forall_mem_append, List.forall_mem_cons]
  refine ⟨⟨fun c member => digits.2 c (List.mem_of_mem_take member), ?_⟩, mark, ?_⟩
  · split
    · simp
    · simp only [List.forall_mem_cons]
      exact ⟨isNumeral_point, fun c member => digits.2 c (List.mem_of_mem_drop member)⟩
  · split
    · exact (integerText exponent).2
    · exact (cons sign (integerText exponent)).2

theorem writeDigits (layout : Layout) (exponent : Int) (digits : Numeral text) :
    Numeral (layout.writeDigits text exponent) := by
  simp only [Layout.writeDigits]
  split
  · exact positional _ _ digits
  · exact scientific _ digits

/-- A finite double is written in numerals. -/
theorem write (layout : Layout) {x : Float} (finite : isFinite x = true) :
    Numeral (layout.write x) := by
  have signed (negative : Bool) {text : List Char} (unsigned : Numeral text) :
      Numeral (if negative then '-' :: text else text) := by
    cases negative with
    | false => exact unsigned
    | true => exact cons rfl unsigned
  unfold isFinite at finite
  unfold Layout.write
  split
  · rename_i double
    simp [double, Double.isFinite] at finite
  · rename_i double
    simp [double, Double.isFinite] at finite
  · refine signed _ ?_
    split
    · exact cons isNumeral_zero (cons isNumeral_point (ofChar isNumeral_zero))
    · exact ofChar isNumeral_zero
  · exact signed _ (writeDigits _ _ (naturalText _))

end Numeral

end MonitorFeed.Decimal
