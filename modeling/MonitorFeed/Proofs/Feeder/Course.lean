import MonitorFeed.Feeder.Schedule

/-!
The loop of a feeder, beat by beat, and how far it goes. The loop tests its limit before a cycle and
again before the wait that follows it, and a shutdown ends it in a wait.
-/

namespace MonitorFeed

/-- What the loop of a feeder does: a cycle, or the wait after it. -/
inductive Beat where
  | cycle (number : Nat)
  | wait (number : Nat)
deriving DecidableEq

/-- Whether a number of cycles is as many as the limit allows. -/
def Reached (limit : Option Nat) (cycles : Nat) : Prop :=
  ∃ most, limit = some most ∧ most ≤ cycles

theorem Reached.next {limit : Option Nat} {cycles : Nat} (reached : Reached limit cycles) :
    Reached limit (cycles + 1) := by
  obtain ⟨most, given, within⟩ := reached
  exact ⟨most, given, Nat.le_succ_of_le within⟩

@[simp] theorem reached_some {most cycles : Nat} : Reached (some most) cycles ↔ most ≤ cycles := by
  simp [Reached]

@[simp] theorem not_reached_none {cycles : Nat} : ¬ Reached none cycles := by
  simp [Reached]

/-- The beats of the loop from a cycle on, and whether a shutdown ends it. A shutdown counts in the
wait of its number only. -/
inductive Course (limit shutdown : Option Nat) : Nat → List Beat → Bool → Prop where
  | spent {number : Nat} (reached : Reached limit number) :
      Course limit shutdown number [] false
  | last {number : Nat} (below : ¬ Reached limit number) (reached : Reached limit (number + 1)) :
      Course limit shutdown number [.cycle number] false
  | interrupted {number : Nat} (more : ¬ Reached limit (number + 1))
      (now : shutdown = some number) :
      Course limit shutdown number [.cycle number, .wait number] true
  | resumed {number : Nat} {beats : List Beat} {interrupted : Bool}
      (more : ¬ Reached limit (number + 1)) (later : shutdown ≠ some number)
      (rest : Course limit shutdown (number + 1) beats interrupted) :
      Course limit shutdown number (.cycle number :: .wait number :: beats) interrupted

namespace Course

variable {limit shutdown : Option Nat}

/-- The loop has one course at most. -/
theorem unique {number : Nat} {beats others : List Beat} {interrupted stopped : Bool}
    (course : Course limit shutdown number beats interrupted)
    (other : Course limit shutdown number others stopped) :
    beats = others ∧ interrupted = stopped := by
  induction course generalizing others stopped with
  | spent reached =>
    cases other with
    | spent _ => exact ⟨rfl, rfl⟩
    | last closed _ => exact absurd reached closed
    | interrupted more _ => exact absurd reached.next more
    | resumed more _ _ => exact absurd reached.next more
  | last below reached =>
    cases other with
    | spent closed => exact absurd closed below
    | last _ _ => exact ⟨rfl, rfl⟩
    | interrupted more _ => exact absurd reached more
    | resumed more _ _ => exact absurd reached more
  | interrupted more now =>
    cases other with
    | spent closed => exact absurd closed.next more
    | last _ closed => exact absurd closed more
    | interrupted _ _ => exact ⟨rfl, rfl⟩
    | resumed _ later _ => exact absurd now later
  | resumed more later rest ih =>
    cases other with
    | spent closed => exact absurd closed.next more
    | last _ closed => exact absurd closed more
    | interrupted _ now => exact absurd now later
    | resumed _ _ other =>
      obtain ⟨rfl, rfl⟩ := ih other
      exact ⟨rfl, rfl⟩

/-- A loop without limit and shutdown has no end. -/
theorem ends {number : Nat} {beats : List Beat} {interrupted : Bool}
    (course : Course limit shutdown number beats interrupted) :
    limit ≠ none ∨ shutdown ≠ none := by
  induction course with
  | spent reached =>
    obtain ⟨most, rfl, -⟩ := reached
    exact .inl (Option.some_ne_none most)
  | last _ reached =>
    obtain ⟨most, rfl, -⟩ := reached
    exact .inl (Option.some_ne_none most)
  | interrupted _ now => exact .inr (now ▸ Option.some_ne_none _)
  | resumed _ _ _ ih => exact ih

end Course

namespace Extent

/-- The beats of a number of cycles, a wait between any two; one more wait follows if a shutdown ends
it. -/
def beatsFrom : (count first : Nat) → (interrupted : Bool) → List Beat
  | 0, _, _ => []
  | 1, first, interrupted => .cycle first :: if interrupted then [.wait first] else []
  | count + 2, first, interrupted =>
    .cycle first :: .wait first :: beatsFrom (count + 1) (first + 1) interrupted

/-- The beats of a run. -/
def beats (extent : Extent) : List Beat :=
  beatsFrom extent.cycles 0 extent.interrupted

/-- Only a run with neither a limit nor a shutdown goes on for ever. -/
theorem of?_eq_none {limit shutdown : Option Nat} :
    of? limit shutdown = none ↔ limit = none ∧ shutdown = none := by
  cases limit with
  | none => cases shutdown <;> simp [of?]
  | some most =>
    cases shutdown with
    | none => simp [of?]
    | some pause =>
      simp only [of?]
      split <;> simp

/-- A run that is interrupted ends in the wait of the shutdown. -/
theorem shutdown_of_interrupted {limit shutdown : Option Nat} {extent : Extent}
    (found : of? limit shutdown = some extent) (cut : extent.interrupted = true) :
    ∃ pause, shutdown = some pause ∧ extent = ⟨pause + 1, true⟩ := by
  cases shutdown with
  | none =>
    cases limit with
    | none => cases found
    | some most =>
      obtain rfl := Option.some.inj found
      cases cut
  | some pause =>
    refine ⟨pause, rfl, ?_⟩
    cases limit with
    | none => exact (Option.some.inj found).symm
    | some most =>
      simp only [of?] at found
      split at found
      · exact (Option.some.inj found).symm
      · obtain rfl := Option.some.inj found
        cases cut

/-- Up to a limit that no shutdown comes before, the loop does its cycles and ends by itself. -/
private theorem course_of_limit {most : Nat} {shutdown : Option Nat} {count first : Nat}
    (whole : first + count = max most first)
    (late : ∀ pause, shutdown = some pause → first ≤ pause → most ≤ pause + 1) :
    Course (some most) shutdown first (beatsFrom count first false) false := by
  induction count generalizing first with
  | zero => exact .spent (reached_some.mpr (by omega))
  | succ count ih =>
    cases count with
    | zero => exact .last (by rw [reached_some]; omega) (by rw [reached_some]; omega)
    | succ count =>
      refine .resumed (by rw [reached_some]; omega) ?_ (ih (by omega) ?_)
      · intro now
        have reached := late first now (Nat.le_refl first)
        omega
      · intro pause given after
        exact late pause given (Nat.le_of_succ_le after)

/-- Up to a shutdown that comes before the limit, the loop does its cycles and ends in the wait after
the last one. -/
private theorem course_of_shutdown {limit : Option Nat} {pause : Nat} {count first : Nat}
    (whole : first + count = pause) (before : ¬ Reached limit (pause + 1)) :
    Course limit (some pause) first (beatsFrom (count + 1) first true) true := by
  have more {number : Nat} (within : number ≤ pause + 1) : ¬ Reached limit number := by
    rintro ⟨most, given, reached⟩
    exact before ⟨most, given, Nat.le_trans reached within⟩
  induction count generalizing first with
  | zero =>
    obtain rfl : first = pause := whole
    exact .interrupted before rfl
  | succ count ih =>
    refine .resumed (more (by omega)) ?_ (ih (by omega))
    intro now
    have same := Option.some.inj now
    omega

theorem course_of_extent {limit shutdown : Option Nat} {extent : Extent}
    (found : Extent.of? limit shutdown = some extent) :
    Course limit shutdown 0 extent.beats extent.interrupted := by
  cases limit with
  | none =>
    cases shutdown with
    | none => cases found
    | some pause =>
      obtain rfl := Option.some.inj found
      exact course_of_shutdown (Nat.zero_add pause) not_reached_none
  | some most =>
    cases shutdown with
    | none =>
      obtain rfl := Option.some.inj found
      refine course_of_limit (by rw [Nat.max_zero, Nat.zero_add]) ?_
      intro pause given
      cases given
    | some pause =>
      simp only [Extent.of?] at found
      split at found
      · rename_i before
        obtain rfl := Option.some.inj found
        exact course_of_shutdown (Nat.zero_add pause) (by rw [reached_some]; omega)
      · rename_i late
        obtain rfl := Option.some.inj found
        refine course_of_limit (by rw [Nat.max_zero, Nat.zero_add]) ?_
        intro given same _
        have same := Option.some.inj same
        omega

/-- The extent of a run is how far its loop goes. -/
theorem course_iff {limit shutdown : Option Nat} {beats : List Beat} {interrupted : Bool} :
    Course limit shutdown 0 beats interrupted ↔
      ∃ extent, Extent.of? limit shutdown = some extent ∧ extent.beats = beats ∧
        extent.interrupted = interrupted := by
  constructor
  · intro course
    cases found : Extent.of? limit shutdown with
    | none =>
      obtain ⟨noLimit, noShutdown⟩ := of?_eq_none.mp found
      rcases course.ends with given | given
      · exact absurd noLimit given
      · exact absurd noShutdown given
    | some extent => exact ⟨extent, rfl, (course_of_extent found).unique course⟩
  · rintro ⟨extent, found, rfl, rfl⟩
    exact course_of_extent found

end Extent

/-- The number of cycles among the beats of a loop. -/
def cycleCount : List Beat → Nat
  | [] => 0
  | .cycle _ :: beats => cycleCount beats + 1
  | .wait _ :: beats => cycleCount beats

/-- The number of waits among the beats of a loop. -/
def waitCount : List Beat → Nat
  | [] => 0
  | .cycle _ :: beats => waitCount beats
  | .wait _ :: beats => waitCount beats + 1

theorem cycleCount_beatsFrom (count first : Nat) (interrupted : Bool) :
    cycleCount (Extent.beatsFrom count first interrupted) = count := by
  induction count generalizing first with
  | zero => rfl
  | succ count ih =>
    cases count with
    | zero => cases interrupted <;> rfl
    | succ count => rw [Extent.beatsFrom, cycleCount, cycleCount, ih (first + 1)]

private theorem waitCount_beatsFrom (count first : Nat) (interrupted : Bool) :
    waitCount (Extent.beatsFrom (count + 1) first interrupted) =
      if interrupted then count + 1 else count := by
  induction count generalizing first with
  | zero => cases interrupted <;> rfl
  | succ count ih =>
    rw [Extent.beatsFrom, waitCount, waitCount, ih (first + 1)]
    cases interrupted <;> rfl

theorem cycleCount_beats (extent : Extent) : cycleCount extent.beats = extent.cycles :=
  cycleCount_beatsFrom extent.cycles 0 extent.interrupted

/-- The loop waits once between any two cycles, and once more where a shutdown ends it. -/
theorem waitCount_beats {limit shutdown : Option Nat} {extent : Extent}
    (found : Extent.of? limit shutdown = some extent) :
    waitCount extent.beats = if extent.interrupted then extent.cycles else extent.cycles - 1 := by
  obtain ⟨cycles, interrupted⟩ := extent
  cases cycles with
  | zero =>
    cases interrupted with
    | false => rfl
    | true =>
      obtain ⟨pause, -, impossible⟩ := Extent.shutdown_of_interrupted found rfl
      cases impossible
  | succ count => exact waitCount_beatsFrom count 0 interrupted

/-- A run that ends by itself takes as long as its waits. -/
theorem PauseClock.elapsed_of_limit {clock : PauseClock} {limit : Option Nat} {extent : Extent}
    (found : Extent.of? limit clock.shutdownPause? = some extent)
    (whole : extent.interrupted = false) :
    clock.elapsed extent = waitCount extent.beats * clock.pause := by
  rw [waitCount_beats found]
  simp only [PauseClock.elapsed, whole, Bool.false_eq_true, ↓reduceIte]

/-- A shutdown ends the last wait of a run before its time is over. -/
theorem PauseClock.elapsed_of_shutdown {clock : PauseClock} (pauses : 0 < clock.pause)
    {limit : Option Nat} {extent : Extent}
    (found : Extent.of? limit clock.shutdownPause? = some extent)
    (cut : extent.interrupted = true) :
    clock.shutdown = some (clock.elapsed extent) ∧
      (waitCount extent.beats - 1) * clock.pause ≤ clock.elapsed extent ∧
      clock.elapsed extent < waitCount extent.beats * clock.pause := by
  obtain ⟨pause, asked, rfl⟩ := Extent.shutdown_of_interrupted found cut
  obtain ⟨time, given, rfl⟩ := Option.map_eq_some_iff.mp asked
  have elapsed : clock.elapsed ⟨time / clock.pause + 1, true⟩ = time := by
    simp only [PauseClock.elapsed, given]
  have counted := waitCount_beats found
  simp only [↓reduceIte] at counted
  rw [elapsed, counted, Nat.add_sub_cancel]
  exact ⟨given, Nat.div_mul_le_self time clock.pause, Nat.lt_mul_of_div_lt (Nat.lt_succ_self _) pauses⟩

end MonitorFeed
