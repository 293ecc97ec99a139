import MonitorFeed.Proofs.Decimal.Numeral
import MonitorFeed.Proofs.Json.Text

/-!
A document on one line holds no control character: strings escape theirs, and nothing else could
have one.
-/

namespace MonitorFeed.Json

/-- A text without control characters. -/
def Plain (text : List Char) : Prop :=
  ∀ c ∈ text, 0x20 ≤ c.toNat

namespace Plain

variable {text other : List Char}

instance : Decidable (Plain text) :=
  List.decidableBAll _ text

theorem nil : Plain [] := by
  simp [Plain]

theorem cons {c : Char} (plain : 0x20 ≤ c.toNat) (rest : Plain text) : Plain (c :: text) :=
  List.forall_mem_cons.mpr ⟨plain, rest⟩

theorem append (first : Plain text) (second : Plain other) : Plain (text ++ other) :=
  List.forall_mem_append.mpr ⟨first, second⟩

theorem ofNumeral (numeral : Decimal.Numeral text) : Plain text := by
  intro c member
  have spelled := numeral.2 c member
  simp only [Decimal.isNumeral, Bool.or_eq_true, decide_eq_true_eq] at spelled
  rcases spelled with (((digit | rfl) | rfl) | rfl) | rfl
  · have range := Char.isDigit_iff_toNat.mp digit
    simp at range
    omega
  all_goals decide

/-- The letters of escapes are no control characters. -/
private theorem shortEscape? {letter c : Char} (short : shortEscape? letter = some c) :
    0x20 ≤ letter.toNat := by
  unfold Json.shortEscape? at short
  split at short
  · rename_i itself
    rcases itself with rfl | rfl | rfl <;> decide
  iterate 5
    split at short
    · subst letter
      decide
  cases short

theorem escape (c : Char) : Plain (escape c) := by
  have slash : 0x20 ≤ '\\'.toNat := by decide
  rcases escape_cases c with ⟨letter, spelled, -, short⟩ | ⟨control, spelled⟩ | ⟨-, -, plain, spelled⟩
  · rw [spelled]
    exact cons slash (cons (shortEscape? short) nil)
  · have digit : ∀ k < 16, 0x20 ≤ (Nat.digitChar k).toNat := by decide
    rw [spelled]
    refine cons slash (cons (by decide) (cons (by decide) (cons (by decide) ?_)))
    exact cons (digit _ (by omega)) (cons (digit _ (by omega)) nil)
  · rw [spelled]
    exact cons plain nil

theorem writeText (text : String) : Plain (writeText text) := by
  refine cons (by decide) (append ?_ (cons (by decide) nil))
  intro c member
  obtain ⟨d, -, spelled⟩ := List.mem_flatMap.mp member
  exact escape d c spelled

end Plain

mutual
theorem plain_compact : (document : Json) → Plain document.compact
  | .null => by decide
  | .flag true => by decide
  | .flag false => by decide
  | .integer value => .ofNumeral (.integerText value)
  | .real value => by
    rw [compact, writeReal]
    split
    · rename_i finite
      exact .ofNumeral (.write _ finite)
    · decide
  | .string value => .writeText value
  | .list items => by
    rw [compact]
    exact .cons (by decide) (.append (plain_compactItems items) (.cons (by decide) .nil))
  | .object members => by
    rw [compact]
    exact .cons (by decide) (.append (plain_compactMembers members) (.cons (by decide) .nil))

theorem plain_compactItems : (items : List Json) → Plain (compactItems items)
  | [] => .nil
  | [item] => plain_compact item
  | item :: next :: rest => by
    rw [compactItems.eq_3 _ _ (List.cons_ne_nil _ _)]
    exact .append (plain_compact item) (.cons (by decide) (plain_compactItems (next :: rest)))

theorem plain_compactMembers : (members : List (String × Json)) → Plain (compactMembers members)
  | [] => .nil
  | [(name, value)] => by
    rw [compactMembers]
    exact .append (.writeText name) (.cons (by decide) (plain_compact value))
  | (name, value) :: next :: rest => by
    rw [compactMembers.eq_3 _ _ _ (List.cons_ne_nil _ _)]
    refine .append (.append (.writeText name) (.cons (by decide) (plain_compact value))) ?_
    exact .cons (by decide) (plain_compactMembers (next :: rest))
end

end MonitorFeed.Json
