import MonitorFeed.Payload.Value
import MonitorFeed.Proofs.Decimal.Numeral
import MonitorFeed.Proofs.Decimal.Signed
import MonitorFeed.Proofs.Schema.Verdict

/-!
Instants in documents. An integer and a string that holds it are the same instant, exactly the one
at that many milliseconds, or are both refused: nothing is clamped to the range of the calendar, to
that of a word, or to what a double can tell apart.
-/

namespace MonitorFeed

open Json (Node Number Piece Token)

namespace Json

/-- A character that stands for itself in a string. -/
def Usual (c : Char) : Prop :=
  c ≠ '"' ∧ c ≠ '\\' ∧ 0x20 ≤ c.toNat

theorem usual_of_isNumeral {c : Char} (numeral : Decimal.isNumeral c = true) : Usual c := by
  simp only [Decimal.isNumeral, Bool.or_eq_true, decide_eq_true_eq] at numeral
  rcases numeral with (((digit | rfl) | rfl) | rfl) | rfl
  · have range := Char.isDigit_iff_toNat.mp digit
    refine ⟨?_, ?_, Nat.le_trans (by decide) range.1⟩
    · rintro rfl
      cases digit
    · rintro rfl
      cases digit
  all_goals exact ⟨by decide, by decide, by decide⟩

variable {chars : List Char}

/-- Characters that stand for themselves are pieces of their own. -/
theorem Piece.closed_ofText (usual : ∀ c ∈ chars, Usual c) :
    Piece.closed (Piece.ofText (String.ofList chars)) = chars ++ ['"'] ∧
      Piece.meaning? (Piece.ofText (String.ofList chars)) = some chars := by
  rw [Piece.ofText, String.toList_ofList]
  induction chars with
  | nil => exact ⟨rfl, rfl⟩
  | cons c rest ih =>
    obtain ⟨own, others⟩ := List.forall_mem_cons.mp usual
    have first : c ≠ '"' ∧ c ≠ '\\' ∧ 0x20 ≤ c.toNat := own
    obtain ⟨closed, meaning⟩ := ih others
    rw [List.filterMap_cons, dif_pos first]
    refine ⟨?_, ?_⟩
    · exact congrArg (c :: ·) closed
    · rw [Piece.meaning?, meaning]
      rfl

/-- Characters that stand for themselves are written as they are. -/
theorem writeText_usual (usual : ∀ c ∈ chars, Usual c) :
    writeText (String.ofList chars) = '"' :: (chars ++ ['"']) := by
  have itself : chars.flatMap escape = chars := by
    induction chars with
    | nil => rfl
    | cons c rest ih =>
      obtain ⟨⟨quote, slash, visible⟩, others⟩ := List.forall_mem_cons.mp usual
      have differs (control : Char) (below : control.toNat < 0x20) : c ≠ control := by
        rintro rfl
        exact Nat.not_le.mpr below visible
      have single : escape c = [c] := by
        simp only [escape, quote, slash, differs '\x08' (by decide), differs '\x0c' (by decide),
          differs '\n' (by decide), differs '\r' (by decide), differs '\t' (by decide),
          Nat.not_lt.mpr visible, ↓reduceIte]
      rw [List.flatMap_cons, single, ih others]
      rfl
  rw [writeText, String.toList_ofList, itself]
  rfl

end Json

namespace Timestamp

variable {n : Int} {instant : Timestamp} {text : List Char}

theorem ofMillis?_eq_some_iff : ofMillis? n = some instant ↔ instant.millis = n := by
  obtain ⟨millis, inside⟩ := instant
  unfold ofMillis?
  constructor
  · intro made
    split at made
    · obtain ⟨rfl⟩ := Option.some.inj made
      rfl
    · cases made
  · rintro rfl
    rw [dif_pos (show Representable millis from inside)]

theorem ofMillis?_eq_none (outside : ¬ Representable n) : ofMillis? n = none :=
  dif_neg outside

/-- The calendar lies within the signed words. -/
theorem Representable.word (inside : Representable n) :
    Int64.minValue.toInt ≤ n ∧ n ≤ Int64.maxValue.toInt :=
  millis_mem_word ⟨n, inside⟩

theorem toOption_ofInteger (n : Int) : (ofInteger n).toOption = ofMillis? n := by
  unfold ofInteger
  split
  · rename_i large
    have outside : ¬ Representable n := fun inside => Int.not_lt.mpr inside.word.2 large
    rw [ofMillis?_eq_none outside]
    rfl
  · cases ofMillis? n <;> rfl

/-- A text holds an integer, perhaps between white space. -/
def Holds (text : List Char) (n : Int) : Prop :=
  ∃ lead body trail, (∀ c ∈ lead, Text.isBlank c = true) ∧ (∀ c ∈ trail, Text.isBlank c = true) ∧
    text = lead ++ (body ++ trail) ∧ Decimal.Spells body n

theorem holds_integerText (n : Int) : Holds (Decimal.integerText n) n :=
  ⟨[], _, [], List.forall_mem_nil _, List.forall_mem_nil _, by simp, Decimal.spells_integerText n⟩

/-- A text that holds an integer is the instant at that many milliseconds. -/
theorem toOption_ofText (holds : Holds text n) : (ofText text).toOption = ofMillis? n := by
  obtain ⟨lead, body, trail, blankLead, blankTrail, rfl, spells⟩ := holds
  rw [ofText, Text.trim_append blankLead blankTrail spells.isBlank,
    Decimal.readInteger_of_spells spells]
  by_cases small : n < Int64.minValue.toInt
  · have outside : ¬ Representable n := fun inside => Int.not_lt.mpr inside.word.1 small
    rw [if_pos small, ofMillis?_eq_none outside]
    rfl
  · by_cases large : Int64.maxValue.toInt < n
    · have outside : ¬ Representable n := fun inside => Int.not_lt.mpr inside.word.2 large
      rw [if_neg small, if_pos large, ofMillis?_eq_none outside]
      rfl
    · rw [if_neg small, if_neg large]
      exact toOption_ofInteger n

/-- A text is an instant only if it holds the milliseconds of it. -/
theorem ofText_eq_ok_iff : ofText text = .ok instant ↔ Holds text instant.millis := by
  constructor
  · intro made
    cases read : Decimal.readInteger (Text.trim text) with
    | error fault =>
      rw [ofText, read] at made
      cases made
    | ok n =>
      obtain ⟨lead, trail, blankLead, blankTrail, same⟩ := Text.exists_append_trim text
      have spells := Decimal.spells_of_readInteger read
      have taken : ofMillis? n = some instant := by
        rw [← toOption_ofInteger, toOption_eq_some_iff, ← made, ofText, read]
      rw [ofMillis?_eq_some_iff.mp taken]
      exact ⟨lead, _, trail, blankLead, blankTrail, same, spells⟩
  · intro holds
    rw [← toOption_eq_some_iff, toOption_ofText holds, ofMillis?_eq_some_iff]

section Tokens

/-- A number without point and exponent, as far as a word holds its magnitude. -/
private theorem instant?_ofWord (negative : Bool) (magnitude : Nat)
    (proper : negative = true → 0 < magnitude) :
    (Json.ofWord negative magnitude).instant? =
      ofMillis? (if negative then -(magnitude : Int) else magnitude) := by
  cases negative with
  | false => exact toOption_ofInteger magnitude
  | true =>
    by_cases word : magnitude ≤ 1 <<< 63
    · simp only [Json.ofWord, proper rfl, word, Bool.true_eq_false, and_self, ↓reduceIte]
      exact toOption_ofInteger (-(magnitude : Int))
    · have outside : ¬ Representable (-(magnitude : Int)) := by
        intro inside
        have least := inside.1
        omega
      simp only [Json.ofWord, word, Bool.true_eq_false, and_false, ↓reduceIte]
      exact (ofMillis?_eq_none outside).symm

/-- Beyond a word a number is a double, and that is no instant. -/
private theorem instant?_number {token : Token} (plain : token.fraction = none)
    (whole : token.exponent = none) (proper : token.negative = true → 0 < token.whole.value) :
    (Node.number token).instant? =
      ofMillis? (if token.negative then -(token.whole.value : Int) else token.whole.value) := by
  rw [Node.instant?, Token.number?, Token.word?]
  by_cases word : token.whole.value ≤ Json.largestWord
  · simp only [plain, whole, Option.isNone_none, word, and_self, ↓reduceIte, Option.bind_some]
    exact instant?_ofWord _ _ proper
  · have largest : Json.largestWord = 2 ^ 64 - 1 := rfl
    have outside : ¬ Representable
        (if token.negative then -(token.whole.value : Int) else token.whole.value) := by
      rintro ⟨least, greatest⟩
      cases negative : token.negative with
      | false =>
        simp only [negative, Bool.false_eq_true, ↓reduceIte] at greatest
        omega
      | true =>
        simp only [negative, ↓reduceIte] at least
        omega
    simp only [word, and_false, ↓reduceIte]
    rw [ofMillis?_eq_none outside]
    cases token.real? <;> rfl

/-- The canonical text of an integer is a number, and it is the instant at the integer. -/
theorem exists_token (n : Int) : ∃ token : Token, token.text = Decimal.integerText n ∧
    (Node.number token).instant? = ofMillis? n := by
  cases n with
  | ofNat n =>
    obtain ⟨digits, text, value, canonical⟩ := Decimal.exists_digits n
    refine ⟨⟨false, digits, none, none, canonical⟩, ?_, ?_⟩
    · refine Eq.trans ?_ text
      simp [Token.text, Token.unsigned, Token.fractionText, Token.exponentText]
    · rw [instant?_number rfl rfl fun same => by cases same]
      simp only [value]
      rfl
  | negSucc n =>
    obtain ⟨digits, text, value, canonical⟩ := Decimal.exists_digits (n + 1)
    refine ⟨⟨true, digits, none, none, canonical⟩, ?_, ?_⟩
    · refine Eq.trans ?_ (congrArg ('-' :: ·) text)
      simp [Token.text, Token.unsigned, Token.fractionText, Token.exponentText]
    · rw [instant?_number rfl rfl fun _ => by rw [value]; exact Nat.succ_pos n]
      simp only [value]
      rfl

end Tokens

/-- An integer as a number of a document. -/
def bareText (n : Int) : String :=
  String.ofList (Decimal.integerText n)

/-- An integer as a string of a document. -/
def quotedText (n : Int) : String :=
  String.ofList ('"' :: (Decimal.integerText n ++ ['"']))

/-- A document is an instant as its node is. -/
theorem toOption_decode {node : Node} {text : String} (spelled : node.IsDocument text) :
    (Document.decode text : Except Json.Error Timestamp).toOption = node.instant? :=
  Schema.instant.toOption_read_eq_verdict spelled

theorem toOption_decode_bareText (n : Int) :
    (Document.decode (bareText n) : Except Json.Error Timestamp).toOption = ofMillis? n := by
  obtain ⟨token, text, instant⟩ := exists_token n
  have spelled := (Node.number token).isDocument_spelling
  rw [Node.spelling, text] at spelled
  rw [bareText, toOption_decode spelled, instant]

theorem usual_integerText (n : Int) : ∀ c ∈ Decimal.integerText n, Json.Usual c :=
  fun c member => Json.usual_of_isNumeral ((Decimal.Numeral.integerText n).2 c member)

theorem toOption_decode_quotedText (n : Int) :
    (Document.decode (quotedText n) : Except Json.Error Timestamp).toOption = ofMillis? n := by
  obtain ⟨closed, meaning⟩ := Piece.closed_ofText (usual_integerText n)
  have spelled := (Node.string (Piece.ofText (bareText n))).isDocument_spelling
  rw [Node.spelling, Piece.quoted, bareText, closed] at spelled
  rw [quotedText, toOption_decode spelled, Node.instant?, Piece.string?, meaning]
  simp only [Option.map_some, Option.bind_some, String.toList_ofList]
  exact toOption_ofText (holds_integerText n)

theorem encode_eq_quotedText (instant : Timestamp) :
    Document.encode instant = quotedText instant.millis := by
  have written := Json.writeText_usual (usual_integerText instant.millis)
  exact congrArg String.ofList written

/-- Both forms of an integer are the instant at exactly that many milliseconds if the calendar
reaches it, and both are refused otherwise, however large the integer is. A string is an instant
exactly if what it spells is an integer between white space, digits after a single sign or none, and
it is the instant at that integer. An instant is written as the string of its milliseconds. -/
theorem decode_forms :
    (∀ n : Int,
      (Representable n → ∃ instant : Timestamp, instant.millis = n ∧
        Document.decode (bareText n) = .ok instant ∧
        Document.decode (quotedText n) = .ok instant) ∧
      (¬ Representable n →
        (∃ error, (Document.decode (bareText n) : Except Json.Error Timestamp) = .error error) ∧
        ∃ error, (Document.decode (quotedText n) : Except Json.Error Timestamp) = .error error)) ∧
    (∀ (pieces : List Piece) (text : String), (Node.string pieces).IsDocument text →
      ∀ instant : Timestamp, Document.decode text = .ok instant ↔
        ∃ content, Piece.string? pieces = some content ∧ Holds content.toList instant.millis) ∧
    ∀ instant : Timestamp,
      Document.encode instant = quotedText instant.millis ∧
      Document.decode (quotedText instant.millis) = .ok instant ∧
      Document.decode (bareText instant.millis) = .ok instant := by
  have refused {text : String}
      (none : (Document.decode text : Except Json.Error Timestamp).toOption = none) :
      ∃ error, (Document.decode text : Except Json.Error Timestamp) = .error error := by
    cases decoded : (Document.decode text : Except Json.Error Timestamp) with
    | error error => exact ⟨error, rfl⟩
    | ok instant =>
      rw [decoded] at none
      cases none
  have taken (instant : Timestamp) : ofMillis? instant.millis = some instant :=
    ofMillis?_eq_some_iff.mpr rfl
  have bare (instant : Timestamp) : Document.decode (bareText instant.millis) = .ok instant :=
    toOption_eq_some_iff.mp ((toOption_decode_bareText _).trans (taken instant))
  have quoted (instant : Timestamp) : Document.decode (quotedText instant.millis) = .ok instant :=
    toOption_eq_some_iff.mp ((toOption_decode_quotedText _).trans (taken instant))
  refine ⟨fun n => ⟨fun inside => ?_, fun outside => ?_⟩, fun pieces text spelled instant => ?_,
    fun instant => ⟨encode_eq_quotedText instant, quoted instant, bare instant⟩⟩
  · exact ⟨⟨n, inside⟩, rfl, bare ⟨n, inside⟩, quoted ⟨n, inside⟩⟩
  · have none := ofMillis?_eq_none outside
    exact ⟨refused ((toOption_decode_bareText n).trans none),
      refused ((toOption_decode_quotedText n).trans none)⟩
  · rw [← toOption_eq_some_iff, toOption_decode spelled, Node.instant?, Option.bind_eq_some_iff]
    simp only [toOption_eq_some_iff, ofText_eq_ok_iff]

/-- The last instant of the calendar, an integer that no word holds, and a string with a sign, a
leading zero and white space of two kinds. -/
theorem decode_forms_edges :
    (Representable 8210266876799999 ∧
      Document.decode (quotedText 8210266876799999) =
        .ok (⟨8210266876799999, by decide⟩ : Timestamp)) ∧
    (¬ Representable 18446744073709551616 ∧
      ∃ error, (Document.decode (bareText 18446744073709551616) : Except Json.Error Timestamp) =
        .error error) ∧
    Document.decode (String.ofList (Node.string (Piece.ofText " +07\u2003")).spelling) =
      .ok (⟨7, by decide⟩ : Timestamp) := by
  obtain ⟨forms, strings, -⟩ := decode_forms
  have last : Representable 8210266876799999 := by decide
  have beyond : ¬ Representable 18446744073709551616 := by decide
  refine ⟨⟨last, ?_⟩, ⟨beyond, ((forms _).2 beyond).1⟩, ?_⟩
  · obtain ⟨⟨millis, inside⟩, rfl, -, quoted⟩ := (forms _).1 last
    exact quoted
  · refine (strings _ _ (Node.isDocument_spelling _) _).mpr ⟨" +07\u2003", rfl, ?_⟩
    exact ⟨[' '], ['+', '0', '7'], ['\u2003'], List.all_eq_true.mp rfl, List.all_eq_true.mp rfl,
      rfl, .plus ⟨'0', ['7'], List.all_eq_true.mp rfl⟩⟩

end Timestamp

end MonitorFeed
