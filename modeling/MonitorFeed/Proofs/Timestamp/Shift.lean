import MonitorFeed.Proofs.Timestamp

/-!
Instants shifted by seconds. Where the calendar reaches, a shift is exact in unbounded integers; what
saturates on the way stays out of the calendar.
-/

namespace MonitorFeed

namespace Timestamp

variable {n : Int} {instant later : Timestamp} {seconds fewer more : Int}

/-- The milliseconds after a shift, in unbounded integers. -/
def shifted (instant : Timestamp) (seconds : Int) : Int :=
  instant.millis + 1000 * seconds

/-- Within a word nothing saturates, and beyond it the end of the range takes the place. -/
theorem saturate_cases (n : Int) :
    (Int64.maxValue.toInt < n ∧ saturate n = Int64.maxValue.toInt) ∨
      (n < Int64.minValue.toInt ∧ saturate n = Int64.minValue.toInt) ∨ saturate n = n := by
  have ordered : Int64.minValue.toInt ≤ Int64.maxValue.toInt := by decide
  unfold saturate
  omega

/-- A product that leaves the words is too far from the calendar for any instant to make up for it. -/
theorem saturate_product (instant : Timestamp) (seconds : Int) :
    instant.millis + saturate (seconds * 1000) = instant.shifted seconds ∨
      (¬ Representable (instant.millis + saturate (seconds * 1000)) ∧
        ¬ Representable (instant.shifted seconds)) := by
  have calendar := instant.representable
  have least : Int64.minValue.toInt = -9223372036854775808 := rfl
  have greatest : Int64.maxValue.toInt = 9223372036854775807 := rfl
  unfold shifted Representable
  rcases saturate_cases (seconds * 1000) with ⟨beyond, stays⟩ | ⟨beyond, stays⟩ | kept <;> omega

/-- The calendar ends within the words, so their ends are out of it. -/
theorem saturate_sum (n : Int) :
    saturate n = n ∨ (¬ Representable (saturate n) ∧ ¬ Representable n) := by
  have least : Int64.minValue.toInt = -9223372036854775808 := rfl
  have greatest : Int64.maxValue.toInt = 9223372036854775807 := rfl
  unfold Representable
  rcases saturate_cases n with ⟨beyond, stays⟩ | ⟨beyond, stays⟩ | kept <;> omega

theorem millis_ofMillis (inside : Representable n) : (ofMillis n).millis = n := by
  have made : ofMillis? n = some ⟨n, inside⟩ := ofMillis?_eq_some_iff.mpr rfl
  rw [ofMillis, made]
  rfl

theorem ofMillis_eq_epoch (outside : ¬ Representable n) : ofMillis n = epoch := by
  rw [ofMillis, ofMillis?_eq_none outside]
  rfl

/-- Neither of the steps that saturate makes a difference. -/
theorem plusSeconds_eq_ofMillis (instant : Timestamp) (seconds : Int) :
    instant.plusSeconds seconds = ofMillis (instant.shifted seconds) := by
  have summed : instant.plusSeconds seconds = ofMillis (instant.millis + saturate (seconds * 1000)) := by
    rw [plusSeconds]
    rcases saturate_sum (instant.millis + saturate (seconds * 1000)) with same | ⟨outside, beyond⟩
    · rw [same]
    · rw [ofMillis_eq_epoch outside, ofMillis_eq_epoch beyond]
  rw [summed]
  rcases saturate_product instant seconds with same | ⟨outside, beyond⟩
  · rw [same]
  · rw [ofMillis_eq_epoch outside, ofMillis_eq_epoch beyond]

theorem millis_plusSeconds (inside : Representable (instant.shifted seconds)) :
    (instant.plusSeconds seconds).millis = instant.shifted seconds := by
  rw [plusSeconds_eq_ofMillis, millis_ofMillis inside]

theorem plusSeconds_eq_epoch (outside : ¬ Representable (instant.shifted seconds)) :
    instant.plusSeconds seconds = epoch := by
  rw [plusSeconds_eq_ofMillis, ofMillis_eq_epoch outside]

/-- Where a shift does not fit the calendar, neither step that saturates makes it fit. -/
theorem not_representable_saturate (outside : ¬ Representable (instant.shifted seconds)) :
    ¬ Representable (instant.millis + saturate (seconds * 1000)) ∧
      ¬ Representable (saturate (instant.millis + saturate (seconds * 1000))) := by
  have first : ¬ Representable (instant.millis + saturate (seconds * 1000)) := by
    rcases saturate_product instant seconds with same | ⟨beyond, -⟩
    · rwa [same]
    · exact beyond
  refine ⟨first, ?_⟩
  rcases saturate_sum (instant.millis + saturate (seconds * 1000)) with same | ⟨beyond, -⟩
  · rwa [same]
  · exact beyond

/-- Two shifts come to one if the first of them stays in the calendar. -/
theorem plusSeconds_plusSeconds (inside : Representable (instant.shifted fewer)) :
    (instant.plusSeconds fewer).plusSeconds more = instant.plusSeconds (fewer + more) := by
  have joined : (instant.plusSeconds fewer).shifted more = instant.shifted (fewer + more) := by
    rw [shifted, millis_plusSeconds inside, shifted, shifted]
    omega
  rw [plusSeconds_eq_ofMillis, joined, plusSeconds_eq_ofMillis]

/-- A shift by a number of seconds is exact: it comes to the instant at the sum in unbounded integers
if the calendar reaches that sum, and to the epoch otherwise, since what saturates stays out of the
calendar at both steps. So two shifts make one if the calendar reaches the instant between them, and
within the calendar later instants and more seconds come to later instants, and they alone. -/
theorem plusSeconds_exact :
    (∀ (instant : Timestamp) (seconds : Int64),
      (Representable (instant.shifted seconds.toInt) →
        (instant.plusSeconds seconds.toInt).millis = instant.shifted seconds.toInt) ∧
      (¬ Representable (instant.shifted seconds.toInt) →
        instant.plusSeconds seconds.toInt = epoch ∧
        ¬ Representable (instant.millis + saturate (seconds.toInt * 1000)) ∧
        ¬ Representable (saturate (instant.millis + saturate (seconds.toInt * 1000))))) ∧
    (∀ (instant : Timestamp) (first second sum : Int64),
      sum.toInt = first.toInt + second.toInt → Representable (instant.shifted first.toInt) →
        (instant.plusSeconds first.toInt).plusSeconds second.toInt =
          instant.plusSeconds sum.toInt) ∧
    (∀ (instant later : Timestamp) (seconds : Int64),
      Representable (instant.shifted seconds.toInt) →
      Representable (later.shifted seconds.toInt) →
        ((instant.plusSeconds seconds.toInt).millis < (later.plusSeconds seconds.toInt).millis ↔
          instant.millis < later.millis)) ∧
    ∀ (instant : Timestamp) (fewer more : Int64),
      Representable (instant.shifted fewer.toInt) →
      Representable (instant.shifted more.toInt) →
        ((instant.plusSeconds fewer.toInt).millis < (instant.plusSeconds more.toInt).millis ↔
          fewer < more) := by
  refine ⟨fun instant seconds => ⟨millis_plusSeconds, fun outside => ?_⟩, ?_, ?_, ?_⟩
  · exact ⟨plusSeconds_eq_epoch outside, not_representable_saturate outside⟩
  · intro instant first second sum same inside
    rw [same, plusSeconds_plusSeconds inside]
  · intro instant later seconds inside laterInside
    rw [millis_plusSeconds inside, millis_plusSeconds laterInside, shifted, shifted]
    omega
  · intro instant fewer more inside moreInside
    rw [millis_plusSeconds inside, millis_plusSeconds moreInside, shifted, shifted,
      Int64.lt_iff_toInt_lt]
    omega

/-- From the first instant of the calendar the largest word leads out of it, though its product
saturates, and two shifts that lead to the last instant make one. -/
theorem plusSeconds_exact_edges :
    let first : Timestamp := ⟨-8334601228800000, by decide⟩
    (¬ Representable (first.shifted Int64.maxValue.toInt) ∧
      first.plusSeconds Int64.maxValue.toInt = epoch) ∧
    (Representable (first.shifted (8334601228800 : Int64).toInt) ∧
      (first.plusSeconds (8334601228800 : Int64).toInt).plusSeconds
          (8210266876799 : Int64).toInt =
        first.plusSeconds (16544868105599 : Int64).toInt) ∧
    (first.plusSeconds (16544868105598 : Int64).toInt).millis <
      (first.plusSeconds (16544868105599 : Int64).toInt).millis := by
  intro first
  obtain ⟨exactly, twice, -, more⟩ := plusSeconds_exact
  have beyond : ¬ Representable (first.shifted Int64.maxValue.toInt) := by decide
  have middle : Representable (first.shifted (8334601228800 : Int64).toInt) := by decide
  refine ⟨⟨beyond, ((exactly first Int64.maxValue).2 beyond).1⟩,
    ⟨middle, twice first _ _ 16544868105599 (by decide) middle⟩, ?_⟩
  exact (more first 16544868105598 16544868105599 (by decide) (by decide)).mpr (by decide)

end Timestamp

end MonitorFeed
