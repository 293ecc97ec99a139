import MonitorFeed.Proofs.Json.Compact
import MonitorFeed.Schema.Reader
import MonitorFeed.Schema.Writer

/-!
The readers of values that hold no other, on the texts that are written for them. A double is read
in the middle of a document as it is read alone, so what one text says of it holds everywhere.
-/

namespace MonitorFeed

open Json

/-- A reader that looks at the next value begins with it at once. -/
theorem atValue_cons {α : Type} {read : Char → List Char → Except Fault α} {c : Char}
    (visible : isSpace c = false) (rest : List Char) : atValue read (c :: rest) = read c rest := by
  simp only [atValue, skipSpace_cons visible]

theorem takes_text (wanted value : String) : Takes (readText wanted) value (.string value) := by
  intro rest _
  rw [compact, writeText_append, readText, atValue_cons rfl]
  exact scanText_written value rest

theorem takes_flag (value : Bool) : Takes readFlag value (.flag value) := by
  intro rest _
  cases value <;> rfl

theorem takes_instant (instant : Timestamp) :
    Takes readInstant instant (.string (String.ofList instant.text)) := by
  intro rest _
  have scanned := scanText_written (String.ofList instant.text) rest
  rw [String.toList_ofList] at scanned
  rw [compact, writeText_append, readInstant, atValue_cons rfl]
  simp only [scanned, ↓reduceIte, bind, Except.bind, String.toList_ofList, Timestamp.ofText_text,
    acceptInstant]

theorem takes_choice {α : Type} (kind : Choice α) (value : α) :
    Takes (readChoice kind) value (.string (kind.name value)) := by
  intro rest _
  have found := kind.find?_name value
  rw [compact, writeText_append, readChoice, atValue_cons rfl]
  simp [readName, scanText_written, found, bind, Except.bind, pure, Except.pure]

section Numbers

variable {α : Type} {wanted : String} {accept : Number → List Char → Except Fault (α × List Char)}

theorem readNumber_digit {c : Char} (digit : c.isDigit = true) (rest : List Char) :
    readNumber wanted accept (c :: rest) =
      (scanNumber false (c :: rest) >>= fun (n, rest) => accept n rest) := by
  have visible := (numeral_ne (Decimal.isNumeral_of_isDigit digit)).1
  have unsigned : c ≠ '-' := by
    rintro rfl
    revert digit
    decide
  simp only [readNumber, atValue_cons visible, unsigned, digit, ↓reduceIte]

theorem readNumber_minus (rest : List Char) :
    readNumber wanted accept ('-' :: rest) =
      (scanNumber true rest >>= fun (n, rest) => accept n rest) := by
  simp only [readNumber, atValue_cons (c := '-') rfl, ↓reduceIte]

/-- A natural number that fits a word is handed on as it is. -/
theorem readNumber_naturalText {n : Nat} (within : n ≤ largestWord) {rest : List Char}
    (closes : Closes rest) :
    readNumber wanted accept (Decimal.naturalText n ++ rest) = accept (.natural n) rest := by
  have scanned : scanNumber false (Decimal.naturalText n ++ rest) = .ok (.natural n, rest) :=
    scanNumber_naturalText within closes
  cases text : Decimal.naturalText n with
  | nil => exact absurd text (Decimal.naturalText_ne_nil n)
  | cons c tail =>
    have digit : c.isDigit = true :=
      Decimal.isDigit_of_mem_naturalText (n := n) (by rw [text]; exact List.mem_cons_self)
    rw [text] at scanned
    rw [List.cons_append, readNumber_digit digit, ← List.cons_append, scanned]
    rfl

/-- A negative number that fits a signed word is handed on with its magnitude. -/
theorem readNumber_minus_naturalText {n : Nat} (positive : 0 < n) (within : n ≤ 1 <<< 63)
    {rest : List Char} (closes : Closes rest) :
    readNumber wanted accept ('-' :: Decimal.naturalText n ++ rest) = accept (.negative n) rest := by
  have scanned : scanNumber true (Decimal.naturalText n ++ rest) = .ok (.negative n, rest) :=
    scanNumber_naturalText ⟨positive, within⟩ closes
  rw [List.cons_append, readNumber_minus, scanned]
  rfl

theorem refuse_ne_ok {read : α} (text : List Char) : refuse wanted text ≠ .ok read := by
  intro taken
  cases text with
  | nil => cases taken
  | cons c rest =>
    have refused {β : Type} (scanned : Except Fault β) {found : β → Found} {left : β → List Char}
        (taken : (scanned >>= fun value =>
          differ (α := α) (.wrongType (found value) wanted) (left value)) = .ok read) : False := by
      cases scanned with
      | error fault => cases taken
      | ok value => cases taken
    simp only [refuse] at taken
    split at taken
    · exact refused _ taken
    split at taken
    · exact refused _ taken
    split at taken
    · exact refused _ taken
    split at taken
    · exact refused _ taken
    split at taken
    · exact refused _ taken
    split at taken
    · exact refused _ taken
    split at taken
    · cases taken
    split at taken <;> cases taken

end Numbers

theorem takes_integer (value : Int64) :
    Takes (readNumber "i64" acceptInteger) value (.integer value.toInt) := by
  intro rest closes
  have least := Int64.le_toInt value
  have greatest := Int64.toInt_lt value
  have back := Int64.ofInt_toInt value
  rw [compact]
  cases number : value.toInt with
  | ofNat n =>
    rw [number] at greatest back
    have small : n < 1 <<< 63 := by
      have cast := Int.ofNat_eq_natCast n
      omega
    have within : n ≤ largestWord := Nat.le_trans (Nat.le_of_lt small) (by decide)
    rw [Decimal.integerText, readNumber_naturalText within closes]
    simp only [acceptInteger, small, ↓reduceIte]
    exact congrArg (fun value => Except.ok (value, rest)) back
  | negSucc n =>
    rw [number] at least back
    have small : n + 1 ≤ 1 <<< 63 := by
      have cast := Int.negSucc_eq n
      omega
    rw [Decimal.integerText, readNumber_minus_naturalText (Nat.succ_pos n) small closes]
    exact congrArg (fun value => Except.ok (value, rest)) back

theorem takes_natural (value : UInt64) :
    Takes (readNumber "u64" acceptNatural) value (.integer value.toNat) := by
  intro rest closes
  have within : value.toNat ≤ largestWord := Nat.le_of_lt_succ value.toNat_lt
  have text : Decimal.integerText (value.toNat : Int) = Decimal.naturalText value.toNat := rfl
  rw [compact, text, readNumber_naturalText within closes, acceptNatural, UInt64.ofNat_toNat]

/-- What the reader of a double makes of a number. -/
def readReal : List Char → Except Fault (Float × List Char) :=
  readNumber "f64" fun n rest => .ok (n.toFloat, rest)

/-- The text of a double comes back as that double. -/
def ReadsBack (x : Float) : Prop :=
  Schema.real.read (Schema.real.write x) = .ok x

private theorem stable_readReal_from {c : Char} {tail : List Char}
    (visible : isSpace c = false) {x : Float} {rest : List Char}
    (read : readReal (c :: tail) = .ok (x, rest)) :
    rest <:+ c :: tail ∧ ∀ more, Closes more →
      readReal (c :: tail ++ more) = .ok (x, rest ++ more) := by
  by_cases minus : c = '-'
  · subst c
    rw [readReal, readNumber_minus] at read
    cases scanned : scanNumber true tail with
    | error fault => rw [scanned] at read; cases read
    | ok number =>
      obtain ⟨suffix, same⟩ := stable_scanNumber true scanned
      rw [scanned] at read
      obtain ⟨rfl, rfl⟩ := Prod.mk.inj (Except.ok.inj read)
      refine ⟨suffix.trans (List.suffix_cons _ _), fun more closes => ?_⟩
      rw [List.cons_append, readReal, readNumber_minus, same more closes]
      rfl
  · by_cases digit : c.isDigit = true
    · rw [readReal, readNumber_digit digit] at read
      cases scanned : scanNumber false (c :: tail) with
      | error fault => rw [scanned] at read; cases read
      | ok number =>
        obtain ⟨suffix, same⟩ := stable_scanNumber false scanned
        rw [scanned] at read
        obtain ⟨rfl, rfl⟩ := Prod.mk.inj (Except.ok.inj read)
        refine ⟨suffix, fun more closes => ?_⟩
        rw [List.cons_append, readReal, readNumber_digit digit, ← List.cons_append,
          same more closes]
        rfl
    · simp only [readReal, readNumber, atValue_cons visible, minus, digit, ↓reduceIte,
        Bool.false_eq_true] at read
      exact absurd read (refuse_ne_ok _)

/-- A double that comes back from its own text is read wherever it is written. -/
theorem takes_real {x : Float} (finite : Decimal.isFinite x = true) (back : ReadsBack x) :
    Takes readReal x (.real x) := by
  have numeral := Decimal.Numeral.write .json finite
  have spelled : (Json.real x).compact = Decimal.Layout.json.write x := by
    simp only [compact, writeReal, finite, ↓reduceIte]
  cases text : Decimal.Layout.json.write x with
  | nil => exact absurd text numeral.1
  | cons c tail =>
    rw [text] at numeral spelled
    have visible (d : Char) (member : d ∈ c :: tail) : isSpace d = false :=
      (numeral_ne (numeral.2 d member)).1
    unfold ReadsBack at back
    simp only [Schema.read, Schema.write, Schema.toJson, Schema.scan, finite, ↓reduceIte, spelled,
      readWhole, String.toList_ofList] at back
    cases read : readReal (c :: tail) with
    | error fault =>
      rw [readReal] at read
      rw [read] at back
      cases back
    | ok result =>
      obtain ⟨y, left⟩ := result
      obtain ⟨suffix, same⟩ := stable_readReal_from (visible c List.mem_cons_self) read
      rw [readReal] at read
      rw [read] at back
      have ended : left = [] := by
        cases left with
        | nil => rfl
        | cons d left =>
          have inside := visible d (suffix.subset List.mem_cons_self)
          simp [bind, Except.bind, finish, skipSpace_cons inside, failNext, Except.mapError] at back
      subst ended
      obtain rfl : y = x := by
        simpa [bind, Except.bind, finish, skipSpace, Except.mapError] using back
      intro rest closes
      rw [spelled]
      exact same rest closes

end MonitorFeed
