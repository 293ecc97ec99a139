import MonitorFeed.Json.Scanner
import MonitorFeed.Json.Writer

/-!
Strings of JSON text. What is written for a string is read as it, whatever characters it holds.
-/

namespace MonitorFeed.Json

/-- The digits in which the code of a control character is written. -/
def controlDigits (c : Char) : List Char :=
  ['0', '0', Nat.digitChar (c.toNat / 16), Nat.digitChar (c.toNat % 16)]

theorem hexDigit?_digitChar : ∀ k < 16, hexDigit? (Nat.digitChar k) = some k := by
  decide

/-- The digits of a control character's code are read as its code. -/
theorem hexValue?_controlDigits {c : Char} (control : c.toNat < 0x20) :
    hexValue? (controlDigits c) = some c.toNat := by
  have high := hexDigit?_digitChar (c.toNat / 16) (by omega)
  have low := hexDigit?_digitChar (c.toNat % 16) (by omega)
  have zero : hexDigit? '0' = some 0 := rfl
  simp only [controlDigits, hexValue?, List.foldlM, zero, high, low, Option.map_some,
    Option.bind_eq_bind, Option.bind_some, Option.pure_def]
  congr 1
  omega

/-- Control characters are no surrogates. -/
theorem isSurrogate_control {c : Char} (control : c.toNat < 0x20) :
    isTrailSurrogate c.toNat = false ∧ isLeadSurrogate c.toNat = false := by
  simp only [isTrailSurrogate, isLeadSurrogate, Bool.and_eq_false_iff, decide_eq_false_iff_not]
  omega

private theorem codeUnit_control {c : Char} (control : c.toNat < 0x20) (rest : List Char) :
    codeUnit ('0' :: '0' :: Nat.digitChar (c.toNat / 16) :: Nat.digitChar (c.toNat % 16) :: rest) =
      .ok c.toNat := by
  have value := hexValue?_controlDigits control
  rw [controlDigits] at value
  have whole : ¬ Text.Utf8.size (['0', '0', Nat.digitChar (c.toNat / 16),
      Nat.digitChar (c.toNat % 16)]) < 4 := by
    have := Char.utf8Size_pos (Nat.digitChar (c.toNat / 16))
    have := Char.utf8Size_pos (Nat.digitChar (c.toNat % 16))
    have := Char.utf8Size_pos '0'
    simp only [Text.Utf8.size, List.foldr_cons, List.foldr_nil]
    omega
  simp only [codeUnit, List.take_succ_cons, List.take_zero, whole, ↓reduceIte, value]

private theorem unescape_control {c : Char} (control : c.toNat < 0x20) (rest : List Char) :
    unescape ('u' :: '0' :: '0' :: Nat.digitChar (c.toNat / 16) ::
      Nat.digitChar (c.toNat % 16) :: rest) = .ok (c, 5) := by
  obtain ⟨notTrail, notLead⟩ := isSurrogate_control control
  simp [unescape, unitEscape, codeUnit_control control, notTrail, notLead, Except.map,
    Char.ofNat_toNat, bind, Except.bind, pure, Except.pure]

/-- An escape of two characters is read as the character it stands for. -/
theorem textChars_short {letter c : Char} (letterKept : letter ≠ 'u')
    (short : shortEscape? letter = some c) (rest : List Char) :
    textChars 0 ('\\' :: letter :: rest) =
      (textChars 0 rest).map fun read => (c :: read.1, read.2) := by
  simp only [textChars, unescape, letterKept, short, ↓reduceIte, bind, Except.bind,
    Char.reduceEq]
  cases textChars 0 rest <;> rfl

/-- A character is spelled by a letter of its own, by its code if it is a control character, or by
itself. -/
theorem escape_cases (c : Char) :
    (∃ letter, escape c = ['\\', letter] ∧ letter ≠ 'u' ∧ shortEscape? letter = some c) ∨
      (c.toNat < 0x20 ∧ escape c =
        ['\\', 'u', '0', '0', Nat.digitChar (c.toNat / 16), Nat.digitChar (c.toNat % 16)]) ∨
      (c ≠ '"' ∧ c ≠ '\\' ∧ 0x20 ≤ c.toNat ∧ escape c = [c]) := by
  unfold escape
  iterate 7
    split
    · subst c
      exact .inl ⟨_, rfl, by decide, rfl⟩
  split
  · rename_i control
    exact .inr (.inl ⟨control, rfl⟩)
  · rename_i quote slash _ _ _ _ _ plain
    exact .inr (.inr ⟨quote, slash, Nat.le_of_not_lt plain, rfl⟩)

/-- One character of a string is read from its spelling. -/
theorem textChars_escape (c : Char) (rest : List Char) :
    textChars 0 (escape c ++ rest) =
      (textChars 0 rest).map fun read => (c :: read.1, read.2) := by
  rcases escape_cases c with ⟨letter, spelled, kept, short⟩ | ⟨control, spelled⟩ |
    ⟨quote, slash, plain, spelled⟩
  · rw [spelled]
    exact textChars_short kept short rest
  · simp only [spelled, List.cons_append, List.nil_append]
    rw [textChars.eq_3]
    simp only [Char.reduceEq, ↓reduceIte, unescape_control control, bind, Except.bind, textChars]
    cases textChars 0 rest <;> rfl
  · simp only [spelled, List.cons_append, List.nil_append]
    rw [textChars.eq_3]
    simp only [quote, slash, Nat.not_lt.mpr plain, ↓reduceIte, bind, Except.bind]
    cases textChars 0 rest <;> rfl

theorem textChars_written (chars rest : List Char) :
    textChars 0 (chars.flatMap escape ++ '"' :: rest) = .ok (chars, rest) := by
  induction chars with
  | nil => rfl
  | cons c chars ih =>
    rw [List.flatMap_cons, List.append_assoc, textChars_escape, ih]
    rfl

/-- A string is read back from what stands after its opening quote. -/
theorem scanText_written (text : String) (rest : List Char) :
    scanText (text.toList.flatMap escape ++ '"' :: rest) = .ok (text, rest) := by
  simp [scanText, textChars_written, bind, Except.bind, pure, Except.pure]

theorem writeText_append (text : String) (rest : List Char) :
    writeText text ++ rest = '"' :: (text.toList.flatMap escape ++ '"' :: rest) := by
  simp [writeText]

end MonitorFeed.Json
