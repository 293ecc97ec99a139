import MonitorFeed.Command.Execute

/-!
What is told to an outlet, by what the outlet takes. A result that is a text becomes one line, whole
if the outlet has the room; a result that is a fault leaves the outlet as it is.
-/

namespace MonitorFeed

namespace Outlet

/-- The octets of a text on a line of its own. -/
def line (text : String) : List UInt8 :=
  Text.Utf8.encode (text ++ "\n").toList

/-- An outlet has the room for octets. -/
def Takes (outlet : Outlet) (octets : List UInt8) : Prop :=
  ∀ room fault, outlet.limit = some (room, fault) → octets.length ≤ room

/-- An outlet with more octets in it. -/
def grown (outlet : Outlet) (octets : List UInt8) : Outlet :=
  ⟨outlet.written ++ octets, outlet.limit.map fun (room, fault) => (room - octets.length, fault)⟩

theorem takes_of_unlimited {outlet : Outlet} (free : outlet.limit = none) (octets : List UInt8) :
    outlet.Takes octets := by
  intro room fault limited
  rw [free] at limited
  cases limited

/-- An outlet has the room for octets or is full before their end. -/
theorem takes_or_full (outlet : Outlet) (octets : List UInt8) :
    outlet.Takes octets ∨
      ∃ room fault, outlet.limit = some (room, fault) ∧ room < octets.length := by
  by_cases full : ∃ room fault, outlet.limit = some (room, fault) ∧ room < octets.length
  · exact .inr full
  · left
    intro room fault limited
    exact Nat.not_lt.mp fun long => full ⟨room, fault, limited, long⟩

theorem line_ne_nil (text : String) : line text ≠ [] := by
  rw [line, String.toList_append, Text.Utf8.encode, List.flatMap_append]
  exact List.append_ne_nil_of_right_ne_nil _ (List.cons_ne_nil _ _)

theorem written_grown_ne (outlet : Outlet) (text : String) :
    (outlet.grown (line text)).written ≠ outlet.written :=
  fun same => line_ne_nil text (List.append_right_eq_self.mp same)

theorem writeLine_eq (outlet : Outlet) (text : String) :
    outlet.writeLine text = outlet.write (line text) := by
  rw [writeLine, line, String.toList_append]
  rfl

theorem write_of_takes {outlet : Outlet} {octets : List UInt8} (takes : outlet.Takes octets) :
    outlet.write octets = (.ok (), outlet.grown octets) := by
  obtain ⟨written, limit⟩ := outlet
  cases limit with
  | none => rfl
  | some limit =>
    obtain ⟨room, fault⟩ := limit
    have fits : octets.length ≤ room := takes room fault rfl
    simp [write, grown, fits, List.take_of_length_le fits]

theorem write_of_full {outlet : Outlet} {octets : List UInt8} {room : Nat} {fault : IoFault}
    (limited : outlet.limit = some (room, fault)) (full : room < octets.length) :
    outlet.write octets =
      (.error fault, ⟨outlet.written ++ octets.take room, some (0, fault)⟩) := by
  simp [write, limited, Nat.not_le.mpr full, Nat.sub_eq_zero_of_le (Nat.le_of_lt full)]

end Outlet

namespace Command

/-- What came of a command has been told: a fault is the result and leaves the outlet alone, a text is
written as a line and is a success, and only a line that the outlet has no room for is a fault of the
outlet, which keeps what fits. -/
structure Told (outlet : Outlet) (came : Except ClientError String)
    (finished : Except CommandFault Unit × Outlet) : Prop where
  failed : ∀ fault, came = .error fault → finished = (.error (.client fault), outlet)
  written : ∀ text, came = .ok text → outlet.Takes (Outlet.line text) →
    finished = (.ok (), outlet.grown (Outlet.line text))
  refused : ∀ text room fault, came = .ok text → outlet.limit = some (room, fault) →
    room < (Outlet.line text).length →
      finished = (.error (.output fault),
        ⟨outlet.written ++ (Outlet.line text).take room, some (0, fault)⟩)

theorem told_tell (outlet : Outlet) (came : Except ClientError String) :
    Told outlet came (tell outlet came) where
  failed := by
    rintro fault rfl
    rfl
  written := by
    rintro text rfl takes
    simp only [tell, Outlet.writeLine_eq, Outlet.write_of_takes takes]
    rfl
  refused := by
    rintro text room fault rfl limited full
    simp only [tell, Outlet.writeLine_eq, Outlet.write_of_full limited full]
    rfl

namespace Told

variable {outlet : Outlet} {came : Except ClientError String}
  {finished : Except CommandFault Unit × Outlet}

/-- A success is a text that was written whole. -/
theorem of_ok (told : Told outlet came finished) (succeeded : finished.1 = .ok ()) :
    ∃ text, came = .ok text ∧ outlet.Takes (Outlet.line text) ∧
      finished.2 = outlet.grown (Outlet.line text) := by
  cases came with
  | error fault =>
    rw [told.failed fault rfl] at succeeded
    cases succeeded
  | ok text =>
    rcases outlet.takes_or_full (Outlet.line text) with takes | ⟨room, fault, limited, full⟩
    · exact ⟨text, rfl, takes, congrArg Prod.snd (told.written text rfl takes)⟩
    · rw [told.refused text room fault rfl limited full] at succeeded
      cases succeeded

/-- A fault leaves no trace, unless it is that of an outlet with a limit, which is then full. -/
theorem spares {fault : CommandFault} (told : Told outlet came finished)
    (failed : finished.1 = .error fault) :
    finished.2 = outlet ∨ ∃ room stop, fault = .output stop ∧
      outlet.limit = some (room, stop) ∧ finished.2.limit = some (0, stop) := by
  cases came with
  | error other =>
    rw [told.failed other rfl]
    exact .inl rfl
  | ok text =>
    rcases outlet.takes_or_full (Outlet.line text) with takes | ⟨room, stop, limited, full⟩
    · rw [told.written text rfl takes] at failed
      cases failed
    · rw [told.refused text room stop rfl limited full] at failed ⊢
      exact .inr ⟨room, stop, (Except.error.inj failed).symm, limited, rfl⟩

/-- Where no limit is in the way, a success is what is written, and a fault leaves no trace. -/
theorem writes (told : Told outlet came finished) (free : outlet.limit = none) :
    (finished.1 = .ok () ↔ finished.2.written ≠ outlet.written) ∧
      (finished.1 ≠ .ok () → finished.2 = outlet) := by
  cases came with
  | error fault =>
    rw [told.failed fault rfl]
    exact ⟨⟨nofun, fun changed => absurd rfl changed⟩, fun _ => rfl⟩
  | ok text =>
    rw [told.written text rfl (Outlet.takes_of_unlimited free _)]
    exact ⟨⟨fun _ => outlet.written_grown_ne text, fun _ => rfl⟩, fun failed => absurd rfl failed⟩

end Told

end Command

end MonitorFeed
