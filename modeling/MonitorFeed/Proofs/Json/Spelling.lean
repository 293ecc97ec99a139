import MonitorFeed.Proofs.Decimal.Signed
import MonitorFeed.Proofs.Json.Text

/-!
What is written is spelled as the syntax wants it: integers and finite doubles are tokens, and
strings are made of pieces.
-/

namespace MonitorFeed

open Json

namespace Json

/-- The digits of a bare zero. -/
private def zeroDigits : Digits :=
  ⟨'0', [], List.forall_mem_singleton.mpr rfl⟩

theorem exists_digits_text {text : List Char} (some : text ≠ [])
    (spelled : ∀ c ∈ text, c.isDigit = true) : ∃ digits : Digits, digits.text = text := by
  obtain ⟨c, rest, rfl⟩ := List.exists_cons_of_ne_nil some
  exact ⟨⟨c, rest, spelled⟩, rfl⟩

/-- Digits that do not begin with a zero may stand before a point. -/
theorem exists_whole {text : List Char} (some : text ≠ [])
    (spelled : ∀ c ∈ text, c.isDigit = true) (leads : text.head? ≠ .some '0') :
    ∃ whole : Digits, whole.text = text ∧ (whole.first = '0' → whole.others = []) := by
  obtain ⟨whole, rfl⟩ := exists_digits_text some spelled
  refine ⟨whole, rfl, fun zero => absurd ?_ leads⟩
  rw [Digits.text, List.head?_cons, zero]

/-- A sign may stand before a token. -/
theorem exists_signed {text : List Char} (negative : Bool)
    (unsigned : ∃ token : Token, token.unsigned = text) :
    ∃ token : Token, token.text = if negative then '-' :: text else text := by
  obtain ⟨token, rfl⟩ := unsigned
  exact ⟨{ token with negative := negative }, rfl⟩

section Layouts

variable {digits : List Char}

/-- Digits with a point after some places are a token, which has a point whatever the places are. -/
theorem exists_unsigned_positional (some : digits ≠ []) (spelled : ∀ c ∈ digits, c.isDigit = true)
    (leads : digits.head? ≠ .some '0') (places : Int) :
    ∃ token : Token, token.unsigned = Decimal.positional true digits places := by
  have zeros (count : Nat) : ∀ c ∈ List.replicate count '0', c.isDigit = true := by
    intro c member
    rw [List.eq_of_mem_replicate member]
    rfl
  unfold Decimal.positional
  split
  · obtain ⟨fraction, text⟩ := exists_digits_text
      (List.append_ne_nil_of_right_ne_nil (List.replicate (-places).toNat '0') some)
      (List.forall_mem_append.mpr ⟨zeros _, spelled⟩)
    refine ⟨⟨false, zeroDigits, .some fraction, none, fun _ => rfl⟩, ?_⟩
    simp [Token.unsigned, Token.fractionText, Token.exponentText, Digits.text, zeroDigits, ← text]
  · split
    · have kept : (digits ++ List.replicate (places.toNat - digits.length) '0').head? =
          digits.head? := by
        obtain ⟨c, rest, rfl⟩ := List.exists_cons_of_ne_nil some
        rfl
      obtain ⟨whole, text, canonical⟩ := exists_whole
        (List.append_ne_nil_of_left_ne_nil some _)
        (List.forall_mem_append.mpr ⟨spelled, zeros _⟩) (kept ▸ leads)
      refine ⟨⟨false, whole, .some zeroDigits, none, canonical⟩, ?_⟩
      rw [← text]
      rfl
    · rename_i positive inside
      have before : digits.take places.toNat ≠ [] := by
        simp only [ne_eq, List.take_eq_nil_iff, some, or_false]
        omega
      have after : digits.drop places.toNat ≠ [] := by
        rw [ne_eq, List.drop_eq_nil_iff]
        exact inside
      obtain ⟨whole, text, canonical⟩ := exists_whole before
        (fun c member => spelled c (List.mem_of_mem_take member))
        (by rwa [List.head?_take, if_neg (by omega)])
      obtain ⟨fraction, rest⟩ := exists_digits_text after
        fun c member => spelled c (List.mem_of_mem_drop member)
      refine ⟨⟨false, whole, .some fraction, none, canonical⟩, ?_⟩
      simp [Token.unsigned, Token.fractionText, Token.exponentText, text, rest]

/-- The exponent behind its letter, with the sign that it is written with. -/
theorem exists_exponent (exponent : Int) : ∃ spelled : Exponent, spelled.text =
    'e' :: (if exponent < 0 then Decimal.integerText exponent
      else '+' :: Decimal.integerText exponent) := by
  cases exponent with
  | ofNat n =>
    obtain ⟨digits, text, -⟩ := Decimal.exists_digits n
    have positive : ¬ Int.ofNat n < 0 := by simp
    refine ⟨⟨false, .some false, digits⟩, ?_⟩
    simp only [positive, ↓reduceIte, Exponent.text, Exponent.letter, Exponent.signText, text,
      Decimal.integerText, Bool.false_eq_true]
    rfl
  | negSucc n =>
    obtain ⟨digits, text, -⟩ := Decimal.exists_digits (n + 1)
    have negative : Int.negSucc n < 0 := Int.negSucc_lt_zero n
    refine ⟨⟨false, .some true, digits⟩, ?_⟩
    simp only [negative, ↓reduceIte, Exponent.text, Exponent.letter, Exponent.signText, text,
      Decimal.integerText, Bool.false_eq_true]
    rfl

theorem exists_unsigned_scientific (some : digits ≠ []) (spelled : ∀ c ∈ digits, c.isDigit = true)
    (leads : digits.head? ≠ .some '0') (exponent : Int) :
    ∃ token : Token, token.unsigned = Decimal.scientific digits exponent := by
  obtain ⟨power, text⟩ := exists_exponent exponent
  obtain ⟨c, rest, rfl⟩ := List.exists_cons_of_ne_nil some
  obtain ⟨first, others⟩ := List.forall_mem_cons.mp spelled
  have canonical : c = '0' → ([] : List Char) = [] := fun _ => rfl
  cases rest with
  | nil =>
    refine ⟨⟨false, ⟨c, [], spelled⟩, none, .some power, canonical⟩, ?_⟩
    simp [Token.unsigned, Token.fractionText, Token.exponentText, Digits.text, text,
      Decimal.scientific]
  | cons d rest =>
    have one : ∀ x ∈ [c], x.isDigit = true := List.forall_mem_singleton.mpr first
    refine ⟨⟨false, ⟨c, [], one⟩, .some ⟨d, rest, others⟩, .some power, canonical⟩, ?_⟩
    simp [Token.unsigned, Token.fractionText, Token.exponentText, Digits.text, text,
      Decimal.scientific]

theorem exists_unsigned_writeDigits (some : digits ≠ [])
    (spelled : ∀ c ∈ digits, c.isDigit = true) (leads : digits.head? ≠ .some '0') (grid : Int) :
    ∃ token : Token, token.unsigned = Decimal.Layout.json.writeDigits digits grid := by
  unfold Decimal.Layout.writeDigits
  simp only
  split
  · exact exists_unsigned_positional some spelled leads _
  · exact exists_unsigned_scientific some spelled leads _

end Layouts

end Json

namespace Decimal

section Shortest

variable {significand : Nat} {tie : Tie} {exponent : Int}

/-- The digits that are searched for are not those of zero. -/
theorem searchGrid_pos (positive : 0 < significand) (steps : Nat) (grid : Int) :
    0 < (searchGrid tie significand exponent steps grid).1 := by
  induction steps generalizing grid with
  | zero => exact positive
  | succ steps ih =>
    unfold searchGrid
    split
    · rename_i count found
      have kept := List.find?_some found
      exact of_decide_eq_true (Bool.and_eq_true_iff.mp kept).1
    · exact ih (grid - 1)

/-- A double that is not zero has a significand that is not. -/
theorem Double.significand_pos {bits : Nat} {negative : Bool}
    (taken : Double.ofBits bits = .finite negative significand exponent) : 0 < significand := by
  simp only [Double.ofBits] at taken
  split at taken
  · split at taken <;> cases taken
  · split at taken
    · split at taken
      · cases taken
      · rename_i some
        obtain ⟨-, rfl, -⟩ := Double.finite.inj taken
        exact Nat.pos_of_ne_zero some
    · obtain ⟨-, rfl, -⟩ := Double.finite.inj taken
      omega

end Shortest

/-- A finite double is written as a token. -/
theorem exists_token_write {x : Float} (finite : isFinite x = true) :
    ∃ token : Token, token.text = Layout.json.write x := by
  unfold isFinite at finite
  unfold Layout.write
  split
  · rename_i double
    simp [double, Double.isFinite] at finite
  · rename_i double
    simp [double, Double.isFinite] at finite
  · exact exists_signed _ ⟨⟨false, zeroDigits, some zeroDigits, none, fun _ => rfl⟩, rfl⟩
  · rename_i negative significand exponent double
    have positive : 0 < (shortest Layout.json.tie significand exponent).1 :=
      searchGrid_pos (Double.significand_pos double) _ _
    have digits := naturalText_ne_nil (shortest Layout.json.tie significand exponent).1
    have spelled : ∀ c ∈ naturalText (shortest Layout.json.tie significand exponent).1,
        c.isDigit = true := fun _ => isDigit_of_mem_naturalText
    have leads := head?_naturalText_ne positive
    exact exists_signed _ (exists_unsigned_writeDigits digits spelled leads _)

/-- An integer is written as a token. -/
theorem exists_token_integerText (n : Int) : ∃ token : Token, token.text = integerText n := by
  have unsigned (n : Nat) : ∃ token : Token, token.unsigned = naturalText n := by
    obtain ⟨digits, text, -, canonical⟩ := exists_digits n
    refine ⟨⟨false, digits, none, none, canonical⟩, ?_⟩
    simp [Token.unsigned, Token.fractionText, Token.exponentText, text]
  cases n with
  | ofNat n => exact exists_signed false (unsigned n)
  | negSucc n => exact exists_signed true (unsigned (n + 1))

end Decimal

namespace Json

/-- A string is written in pieces. -/
theorem exists_quoted (text : String) : ∃ pieces, Piece.quoted pieces = writeText text := by
  have each (chars : List Char) :
      ∃ pieces : List Piece, pieces.flatMap Piece.text = chars.flatMap escape := by
    induction chars with
    | nil => exact ⟨[], rfl⟩
    | cons c chars ih =>
      obtain ⟨pieces, same⟩ := ih
      have one : ∃ piece : Piece, piece.text = escape c := by
        rcases escape_cases c with ⟨letter, spelled, -, short⟩ | ⟨control, spelled⟩ |
          ⟨quote, slash, visible, spelled⟩
        · exact ⟨.short letter c short, spelled.symm⟩
        · exact ⟨.unit (controlDigits c) c.toNat rfl (hexValue?_controlDigits control),
            spelled.symm⟩
        · exact ⟨.plain c ⟨quote, slash, visible⟩, spelled.symm⟩
      obtain ⟨piece, spelled⟩ := one
      exact ⟨piece :: pieces, by rw [List.flatMap_cons, List.flatMap_cons, spelled, same]⟩
  obtain ⟨pieces, same⟩ := each text.toList
  exact ⟨pieces, by rw [Piece.quoted, Piece.closed, same, writeText, List.cons_append]⟩

end Json

end MonitorFeed
