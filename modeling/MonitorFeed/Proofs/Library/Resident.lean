import MonitorFeed.Proofs.Library.Playbook
import Mathlib.Logic.Function.Basic

/-!
A library in memory. Its functions can reach the buffers of all calls, and each is told the place of
the one that is meant for its message. One that keeps to that place is as good as functions that
return their messages.
-/

namespace MonitorFeed

variable {σ : Type}

namespace MessageBuffer

/-- The part of a buffer that is meant for the message. -/
def room (buffer : MessageBuffer) : List UInt8 :=
  buffer.octets.take messageLimit

/-- Octets end at their mark, or where blanks begin. -/
theorem untilMark_append_blanks_of_marked (octets : List UInt8) (count : Nat) :
    untilMark (octets ++ List.replicate count 0) = untilMark octets := by
  induction octets with
  | nil => cases count <;> rfl
  | cons octet rest ih =>
    by_cases mark : octet = 0
    · simp [untilMark, mark]
    · simpa [untilMark, mark] using ih

/-- Copying to a blank buffer what stands in the room of another gives the same message, if nothing
stands beyond that room. -/
theorem message_copy_room {buffer : MessageBuffer}
    (closed : buffer.octets.drop messageLimit = [0]) :
    (blank.copy buffer.room).message = buffer.message := by
  have whole : buffer.octets = buffer.room ++ List.replicate 1 0 := by
    rw [room, List.replicate_one, ← closed, List.take_append_drop]
  have short : (untilMark buffer.room).length ≤ messageLimit :=
    Nat.le_trans (List.takeWhile_prefix _).length_le (List.length_take_le _ _)
  have copied : untilMark (blank.copy buffer.room).octets = untilMark buffer.room := by
    rw [untilMark_copy_blank, List.take_of_length_le short]
  have found : untilMark buffer.octets = untilMark buffer.room := by
    rw [whole, untilMark_append_blanks_of_marked]
  rw [message, message, copied, found]

end MessageBuffer

namespace Library

/-- Where the buffer of a call is. -/
abbrev Place := Nat

/-- The buffers of all calls. -/
abbrev Memory := Place → MessageBuffer

/-- How a function of a library in memory ends: what it gives back, and the state and the buffers
that it leaves. A text that it gives back belongs to its caller. -/
structure Outcome (σ : Type) where
  result : Return
  state : σ
  memory : Memory

/-- The functions of a library in memory. -/
abbrev Resident (σ : Type) :=
  Operation → Option (List UInt8) → Place → σ → Memory → Outcome σ

/-- A library that keeps to the buffer it is given: it writes nowhere else, nor beyond the room of the
message, and what it does depends on its own state and on what it is given. -/
structure Confined (functions : Resident σ) : Prop where
  elsewhere : ∀ operation input place state memory other, other ≠ place →
    (functions operation input place state memory).memory other = memory other
  beyond : ∀ operation input place state memory,
    ((functions operation input place state memory).memory place).octets.drop messageLimit =
      (memory place).octets.drop messageLimit
  determined : ∀ operation input place place' state memory memory', memory place = memory' place' →
    let here := functions operation input place state memory
    let there := functions operation input place' state memory'
    here.result = there.result ∧ here.state = there.state ∧ here.memory place = there.memory place'

/-- The functions of a library by themselves, each run on a blank buffer. -/
def Resident.functions (functions : Resident σ) : Functions σ := fun operation input state =>
  let outcome := functions operation input 0 state fun _ => .blank
  ⟨outcome.result, (outcome.memory 0).room, outcome.state⟩

/-- On a blank buffer, a function does what it does by itself, and the message can be read from the
buffer. -/
theorem Confined.exit {functions : Resident σ} (confined : Confined functions)
    (operation : Operation) (input : Option (List UInt8)) {place : Place} (state : σ)
    {memory : Memory} (blank : memory place = .blank) :
    let outcome := functions operation input place state memory
    functions.functions operation input state =
        ⟨outcome.result, (outcome.memory place).room, outcome.state⟩ ∧
      (outcome.memory place).message =
        (MessageBuffer.blank.copy (outcome.memory place).room).message := by
  intro outcome
  constructor
  · obtain ⟨result, reached, left⟩ :=
      confined.determined operation input 0 place state (fun _ => .blank) memory blank.symm
    rw [Resident.functions, result, reached, left]
  · refine (MessageBuffer.message_copy_room ?_).symm
    rw [confined.beyond, blank]
    rfl

/-- A call is concluded from the message in its buffer. -/
theorem conclude_congr {operation : Operation} {result : Return} {one other : MessageBuffer}
    (same : one.message = other.message) :
    conclude ⟨operation, result, one⟩ = conclude ⟨operation, result, other⟩ := by
  simp only [conclude, same]

/-- Functions that copy their messages to the buffers they are given. -/
def Functions.resident (functions : Functions σ) : Resident σ :=
  fun operation input place state memory =>
    let exit := functions operation input state
    ⟨exit.result, exit.state, Function.update memory place ((memory place).copy exit.message)⟩

theorem Functions.confined (functions : Functions σ) : Confined functions.resident where
  elsewhere operation input place state memory other apart := by
    simp [resident, Function.update_of_ne apart]
  beyond operation input place state memory := by
    simp only [resident, Function.update_self, MessageBuffer.copy]
    exact List.drop_left' (MessageBuffer.length_messageRoom _)
  determined operation input place place' state memory memory' same := by
    simp [resident, same]

/-- Functions answer the same calls alike when their messages come by way of a buffer. -/
theorem respond_resident (functions : Functions σ) :
    respond functions.resident.functions = respond functions := by
  funext call state
  rcases prepare_cases call with ⟨fit, -⟩ | ⟨refused, -⟩
  · have closed : (MessageBuffer.blank.copy
        (functions call.operation (octets? call) state).message).octets.drop messageLimit = [0] :=
      List.drop_left' (MessageBuffer.length_messageRoom _)
    have same := MessageBuffer.message_copy_room closed
    simp only [respond, fit, enter, Resident.functions, Functions.resident, Function.update_self,
      conclude_congr same]
  · rw [respond, respond, refused]

end Library

end MonitorFeed
