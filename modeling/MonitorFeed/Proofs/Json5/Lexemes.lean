import MonitorFeed.Json5.Number
import MonitorFeed.Json5.Grammar
import MonitorFeed.Proofs.Decimal.Numeral
import MonitorFeed.Proofs.Decimal.Whole
import MonitorFeed.Proofs.Json.Text

/-!
The leaves of JSON text as JSON5 reads them. A string without the two line ends that JSON leaves as
they are is read back, and so is every integer; the number ends where JSON goes on.
-/

namespace MonitorFeed.Json5

open Json (escape shortEscape? controlDigits)

/-- What is neither white space nor the start of a comment is the next token. -/
theorem nextToken_cons {c : Char} (visible : isGap c = false) (comment : c ≠ '/')
    (rest : List Char) : nextToken (c :: rest) = .ok (c :: rest) := by
  have skipped : skipGap .between (c :: rest) = some (c :: rest) := by
    simp [skipGap.eq_def, visible, comment]
  simp only [nextToken, skipped]

section Strings

/-- A text that holds none of the line ends which only JSON allows in a string. -/
def Unbroken (text : String) : Prop :=
  '\u2028' ∉ text.toList ∧ '\u2029' ∉ text.toList

instance (text : String) : Decidable (Unbroken text) :=
  inferInstanceAs (Decidable ('\u2028' ∉ text.toList ∧ '\u2029' ∉ text.toList))

/-- The piece that the spelling of a character is read as. -/
def pieceOf (c : Char) : Piece :=
  match escape c with
  | ['\\', letter] => .short letter
  | '\\' :: 'u' :: digits => .unit digits
  | _ => .plain c

/-- The pieces that the spelling of a string is read as. -/
def piecesOf (text : String) : List Piece :=
  text.toList.map pieceOf

/-- A short escape of JSON means the same in JSON5. -/
private theorem short_cases {letter c : Char} (short : shortEscape? letter = some c) :
    shortMeaning letter = c ∧ ∀ rest, escaped (letter :: rest) = some (some (.short letter), 1) := by
  have known : letter ∈ ['"', '\\', '/', 'b', 'f', 'n', 'r', 't'] := by
    by_contra other
    simp only [List.mem_cons, List.not_mem_nil, or_false, not_or] at other
    simp [shortEscape?, other] at short
  have same : ∀ letter ∈ ['"', '\\', '/', 'b', 'f', 'n', 'r', 't'],
      shortEscape? letter = some (shortMeaning letter) := by
    simp [shortEscape?, shortMeaning]
  refine ⟨Option.some.inj ((same letter known).symm.trans short), fun rest => ?_⟩
  simp only [List.mem_cons, List.not_mem_nil, or_false] at known
  rcases known with rfl | rfl | rfl | rfl | rfl | rfl | rfl | rfl <;> rfl

private theorem hexDigits?_controlDigits {c : Char} (control : c.toNat < 0x20) (rest : List Char) :
    hexDigits? 4 (controlDigits c ++ rest) = some (controlDigits c) := by
  have high := Json.hexDigit?_digitChar (c.toNat / 16) (by omega)
  have low := Json.hexDigit?_digitChar (c.toNat % 16) (by omega)
  have zero : Json.hexDigit? '0' = some 0 := rfl
  simp [hexDigits?, controlDigits, high, low, zero]

private theorem hexWord_controlDigits {c : Char} (control : c.toNat < 0x20) :
    hexWord (controlDigits c) = .ok c.toNat := by
  have small : ¬ UInt32.size ≤ c.toNat :=
    Nat.not_le.mpr (Nat.lt_trans control (by decide))
  have nonempty : (controlDigits c).isEmpty = false := rfl
  simp [hexWord, Json.hexValue?_controlDigits control, small, nonempty]

/-- A piece stands for the character it was made of, whatever follows. -/
theorem meaning_pieceOf (c : Char) (pieces : List Piece) :
    meaning (pieceOf c :: pieces) = (meaning pieces).map (c :: ·) := by
  rcases Json.escape_cases c with ⟨letter, spelled, kept, short⟩ | ⟨control, spelled⟩ |
    ⟨quote, slash, plain, spelled⟩
  · have piece : pieceOf c = .short letter := by simp only [pieceOf, spelled]
    rw [piece, meaning, (short_cases short).1]
  · have piece : pieceOf c = .unit (controlDigits c) := by
      simp only [pieceOf, spelled, controlDigits]
    obtain ⟨notTrail, notLead⟩ := Json.isSurrogate_control control
    simp only [piece, meaning, hexWord_controlDigits control, notTrail, notLead, bind, Except.bind,
      Bool.false_eq_true, ↓reduceIte, Char.ofNat_toNat]
    cases meaning pieces <;> rfl
  · have piece : pieceOf c = .plain c := by simp only [pieceOf, spelled]
    rw [piece, meaning]

theorem textOf_piecesOf (text : String) : textOf (piecesOf text) = .ok text := by
  have whole (chars : List Char) : meaning (chars.map pieceOf) = .ok chars := by
    induction chars with
    | nil => rfl
    | cons c chars ih =>
      rw [List.map_cons, meaning_pieceOf, ih]
      rfl
  rw [textOf, piecesOf, whole, Except.map, String.ofList_toList]

/-- What follows a backslash is read as one piece. -/
private theorem scanPieces_escaped (spelled : List Char) {piece : Piece} {rest : List Char}
    (read : escaped (spelled ++ rest) = some (some piece, spelled.length)) :
    scanPieces '"' 0 ('\\' :: (spelled ++ rest)) =
      (scanPieces '"' 0 rest).map fun read => (piece :: read.1, read.2) := by
  have skipped (spelled : List Char) :
      scanPieces '"' spelled.length (spelled ++ rest) = scanPieces '"' 0 rest := by
    induction spelled with
    | nil => rfl
    | cons c spelled ih => exact ih
  rw [scanPieces]
  simp only [Char.reduceEq, ↓reduceIte, read, skipped, Option.toList_some, List.singleton_append]
  cases scanPieces '"' 0 rest <;> rfl

/-- One character of a string is read as its piece. -/
theorem scanPieces_escape {c : Char} (unbroken : c ≠ '\u2028' ∧ c ≠ '\u2029') (rest : List Char) :
    scanPieces '"' 0 (escape c ++ rest) =
      (scanPieces '"' 0 rest).map fun read => (pieceOf c :: read.1, read.2) := by
  rcases Json.escape_cases c with ⟨letter, spelled, kept, short⟩ | ⟨control, spelled⟩ |
    ⟨quote, slash, plain, spelled⟩
  · have piece : pieceOf c = .short letter := by simp only [pieceOf, spelled]
    rw [spelled, piece]
    exact scanPieces_escaped [letter] ((short_cases short).2 rest)
  · have piece : pieceOf c = .unit (controlDigits c) := by
      simp only [pieceOf, spelled, controlDigits]
    have read : escaped ('u' :: controlDigits c ++ rest) = some (some (.unit (controlDigits c)), 5) := by
      rw [List.cons_append, escaped, hexDigits?_controlDigits control, Option.map_some]
    rw [spelled, piece]
    exact scanPieces_escaped ('u' :: controlDigits c) read
  · have piece : pieceOf c = .plain c := by simp only [pieceOf, spelled]
    have line : endsLine c = false := by
      have feed : c ≠ '\n' := by
        rintro rfl
        exact absurd plain (by decide)
      have carriage : c ≠ '\r' := by
        rintro rfl
        exact absurd plain (by decide)
      simp [endsLine, feed, carriage, unbroken]
    rw [spelled, piece, List.singleton_append, scanPieces]
    simp only [quote, slash, line, Bool.false_eq_true, ↓reduceIte]
    cases scanPieces '"' 0 rest <;> rfl

/-- A string is read back from what stands after its opening quote. -/
theorem scanPieces_written {text : String} (unbroken : Unbroken text) (rest : List Char) :
    scanPieces '"' 0 (text.toList.flatMap escape ++ '"' :: rest) = .ok (piecesOf text, rest) := by
  have each (chars : List Char) (unbroken : '\u2028' ∉ chars ∧ '\u2029' ∉ chars) :
      scanPieces '"' 0 (chars.flatMap escape ++ '"' :: rest) = .ok (chars.map pieceOf, rest) := by
    induction chars with
    | nil => rfl
    | cons c chars ih =>
      simp only [List.mem_cons, not_or] at unbroken
      obtain ⟨⟨notLine, line⟩, notParagraph, paragraph⟩ := unbroken
      rw [List.flatMap_cons, List.append_assoc,
        scanPieces_escape ⟨Ne.symm notLine, Ne.symm notParagraph⟩, ih ⟨line, paragraph⟩]
      rfl
  exact each text.toList unbroken

/-- A line end that JSON leaves as it is ends the reading of a string. -/
example : scanPieces '"' 0 ['a', '\u2028', '"'] = .error ['\u2028', '"'] := rfl

end Strings

/-- What may follow a value inside a document: nothing, a comma, or the end of what it is part of. -/
def Ends (rest : List Char) : Prop :=
  ∀ c ∈ rest.head?, c = ',' ∨ c = ']' ∨ c = '\x7d'

namespace Ends

theorem nil : Ends [] :=
  fun _ first => by cases first

theorem comma (rest : List Char) : Ends (',' :: rest) :=
  fun _ first => .inl (Option.some.inj first).symm

theorem bracket (rest : List Char) : Ends (']' :: rest) :=
  fun _ first => .inr (.inl (Option.some.inj first).symm)

theorem brace (rest : List Char) : Ends ('\x7d' :: rest) :=
  fun _ first => .inr (.inr (Option.some.inj first).symm)

variable {rest : List Char}

/-- A test that no end passes is passed by no first character of what follows. -/
theorem head_false (ends : Ends rest) (test : Char → Bool)
    (none : test ',' = false ∧ test ']' = false ∧ test '\x7d' = false) :
    ∀ c ∈ rest.head?, test c = false := by
  intro c first
  rcases ends c first with rfl | rfl | rfl
  · exact none.1
  · exact none.2.1
  · exact none.2.2

end Ends

section Numbers

open Decimal (naturalText integerText)

variable {rest : List Char}

/-- A canonical number is a single zero or begins with another digit. -/
private theorem naturalText_eq_zero_or (n : Nat) :
    naturalText n = ['0'] ∨ ∃ c tail, naturalText n = c :: tail ∧ c ≠ '0' := by
  rcases Nat.eq_zero_or_pos n with rfl | positive
  · exact .inl Decimal.naturalText_zero
  · cases text : naturalText n with
    | nil => exact absurd text (Decimal.naturalText_ne_nil n)
    | cons c tail =>
      refine .inr ⟨c, tail, rfl, ?_⟩
      rintro rfl
      exact Decimal.head?_naturalText_ne positive (by rw [text]; rfl)

private theorem spanExponent_ends (ends : Ends rest) : spanExponent rest = ([], rest) := by
  cases rest with
  | nil => rfl
  | cons c tail =>
    have mark := ends.head_false (fun c => c = 'e' || c = 'E') (by decide) c rfl
    simp [spanExponent, mark]

private theorem spanWhole_naturalText (n : Nat) (ends : Ends rest) :
    spanWhole (naturalText n ++ rest) = (naturalText n, rest) := by
  have digits := Decimal.spanDigits_append
    (fun _ member => Decimal.isDigit_of_mem_naturalText (n := n) member)
    (ends.head_false Char.isDigit (by decide))
  rcases naturalText_eq_zero_or n with text | ⟨c, tail, text, leading⟩
  · rw [text]
    rfl
  · rw [text] at digits ⊢
    rw [List.cons_append, spanWhole]
    · exact digits
    · exact fun _ same => absurd (List.cons_eq_cons.mp same).1 leading

private theorem spanDecimal_naturalText (n : Nat) (ends : Ends rest) :
    spanDecimal (naturalText n ++ rest) = (naturalText n, rest) := by
  -- With this in sight the match on what follows the digits has no fraction to offer.
  have point : ∀ tail, rest = '.' :: tail → False := by
    rintro tail rfl
    have none := ends.head_false (· == '.') (by decide) '.' rfl
    cases none
  simp [spanDecimal, spanWhole_naturalText n ends, Decimal.naturalText_ne_nil,
    spanExponent_ends ends]

private theorem spanHexadecimal_naturalText (n : Nat) (ends : Ends rest) :
    spanHexadecimal (naturalText n ++ rest) = ([], naturalText n ++ rest) := by
  rcases naturalText_eq_zero_or n with text | ⟨c, tail, text, leading⟩
  · rw [text, List.singleton_append]
    cases rest with
    | nil => rfl
    | cons mark tail =>
      have mark := ends.head_false (fun c => c = 'x' || c = 'X') (by decide) mark rfl
      simp [spanHexadecimal, mark]
  · rw [text]
    simp [spanHexadecimal, leading]

private theorem firstSpan_naturalText (n : Nat) (ends : Ends rest) :
    firstSpan (naturalText n ++ rest)
      [spanHexadecimal, spanDecimal, spanWord "Infinity".toList, spanWord "NaN".toList] =
        (naturalText n, rest) := by
  obtain ⟨c, tail, text, -⟩ := Decimal.naturalText_eq_cons n
  have decimal := spanDecimal_naturalText n ends
  simp only [firstSpan, spanHexadecimal_naturalText n ends]
  rw [decimal, text]

/-- The text of an integer is read as it, and what follows is left. -/
theorem scanNumber_integerText (value : Int) (ends : Ends rest) :
    scanNumber (integerText value ++ rest) = .ok (integerText value, rest) := by
  cases value with
  | ofNat n =>
    obtain ⟨c, tail, text, digit⟩ := Decimal.naturalText_eq_cons n
    have spans := firstSpan_naturalText n ends
    have sign {mark : Char} (other : mark.isDigit = false) :
        ∀ digits, c :: (tail ++ rest) = mark :: digits → False := by
      rintro digits same
      rw [(List.cons_eq_cons.mp same).1, other] at digit
      cases digit
    have minus : ∀ digits, c :: (tail ++ rest) = '-' :: digits → False := sign rfl
    have plus : ∀ digits, c :: (tail ++ rest) = '+' :: digits → False := sign rfl
    rw [integerText]
    rw [text, List.cons_append] at spans ⊢
    simp only [scanNumber, spans, List.nil_append]
  | negSucc n =>
    obtain ⟨c, tail, text, -⟩ := Decimal.naturalText_eq_cons (n + 1)
    have spans := firstSpan_naturalText (n + 1) ends
    rw [integerText, List.cons_append]
    rw [text] at spans ⊢
    simp only [scanNumber, spans, List.singleton_append]

/-- The text of an integer has no letter that is in the name of a special value or that marks
hexadecimal digits. -/
private theorem not_mem_integerText (value : Int) {c : Char}
    (letter : Decimal.isNumeral c = false) : c ∉ integerText value := by
  intro member
  rw [(Decimal.Numeral.integerText value).2 c member] at letter
  cases letter

private theorem special?_integerText (value : Int) : special? (integerText value) = none := by
  have ne {name : List Char} (c : Char) (letter : Decimal.isNumeral c = false)
      (member : c ∈ name) : integerText value ≠ name := by
    rintro rfl
    exact not_mem_integerText value letter member
  rw [special?, if_neg (ne 'I' rfl (by decide)), if_neg (ne 'I' rfl (by decide)), if_neg]
  simp [ne 'N' rfl]

private theorem hexDigitsOf?_integerText (value : Int) :
    hexDigitsOf? (integerText value) = none := by
  unfold hexDigitsOf?
  split
  · rename_i text
    exact absurd (by simp [text]) (not_mem_integerText value (c := 'x') rfl)
  · rename_i text
    exact absurd (by simp [text]) (not_mem_integerText value (c := 'X') rfl)
  · rfl

/-- The text of an integer that doubles hold is read as a double without loss. -/
theorem doubleOf_integerText {value : Int} (within : value.natAbs ≤ Decimal.wholeLimit) :
    ∃ x, doubleOf (integerText value) = .ok x ∧ x.integerPart? = some value := by
  obtain ⟨x, read, held⟩ := Decimal.readDouble_integerText within
  have finite := Decimal.Double.isFinite_of_integerPart? held
  refine ⟨x, ?_, held⟩
  simp only [doubleOf, special?_integerText, hexDigitsOf?_integerText, read, finite, ↓reduceIte]

end Numbers

end MonitorFeed.Json5
