/-!
What a computation that may fail comes to: its result without the fault, and when it has one.
-/

namespace MonitorFeed

@[simp] theorem toOption_ok {ε α : Type} (value : α) :
    (.ok value : Except ε α).toOption = some value := rfl

@[simp] theorem toOption_error {ε α : Type} (fault : ε) :
    (.error fault : Except ε α).toOption = none := rfl

theorem toOption_bind {ε α β : Type} (result : Except ε α) (next : α → Except ε β) :
    (result >>= next).toOption = result.toOption.bind fun value => (next value).toOption := by
  cases result <;> rfl

theorem toOption_map {ε α β : Type} (result : Except ε α) (f : α → β) :
    (result.map f).toOption = result.toOption.map f := by
  cases result <;> rfl

theorem toOption_mapError {ε δ α : Type} (result : Except ε α) (f : ε → δ) :
    (result.mapError f).toOption = result.toOption := by
  cases result <;> rfl

theorem toOption_eq_some_iff {ε α : Type} {result : Except ε α} {value : α} :
    result.toOption = some value ↔ result = .ok value := by
  cases result <;> simp

theorem bind_eq_ok_iff {ε α β : Type} {result : Except ε α} {next : α → Except ε β} {value : β} :
    result >>= next = .ok value ↔ ∃ given, result = .ok given ∧ next given = .ok value := by
  cases result <;> simp [bind, Except.bind]

theorem map_eq_ok_iff {ε α β : Type} {wrap : α → β} {result : Except ε α} {value : β} :
    result.map wrap = .ok value ↔ ∃ content, result = .ok content ∧ wrap content = value := by
  cases result <;> simp [Except.map]

end MonitorFeed
