import MonitorFeed.Proofs.Library.Playbook
import MonitorFeed.Proofs.Text.Cut

/-!
The messages of failing calls. What a library copies into the buffer of a call comes out as it is, up
to its end mark and as far as it fits; a character that does not fit as a whole is replaced.
-/

namespace MonitorFeed

variable {σ : Type}

open Text

namespace MessageBuffer

variable {left : List UInt8} {text : String}

theorem untilMark_eq_nil_iff : untilMark left = [] ↔ left = [] ∨ left.head? = some 0 := by
  cases left with
  | nil => simp [untilMark]
  | cons octet left => by_cases mark : octet = 0 <;> simp [untilMark, mark]

/-- A message with nothing before its end mark is no message. -/
theorem message_copy_of_silent (silent : untilMark left = []) :
    (blank.copy left).message = noMessage := by
  rw [message, untilMark_copy_blank, silent, List.take_nil]

theorem message_copy_of_spoken (spoken : untilMark left ≠ []) :
    (blank.copy left).message =
      String.ofList (Utf8.decodeLossy ((untilMark left).take messageLimit)) := by
  have something : (untilMark left).take messageLimit ≠ [] := by
    rw [Ne, List.take_eq_nil_iff]
    exact not_or.mpr ⟨by decide, spoken⟩
  rw [message, untilMark_copy_blank]
  split
  · rename_i empty
    exact absurd empty something
  · rfl

/-- A message without room for all of it is cut off after the last character that fits. -/
theorem message_copy_long (unmarked : '\x00' ∉ text.toList) (long : messageLimit < text.utf8ByteSize) :
    (blank.copy (Utf8.encode text.toList)).message =
      let kept := Utf8.fitting messageLimit text.toList
      String.ofList (kept ++ if Utf8.size kept = messageLimit then [] else ['\uFFFD']) := by
  have octets := untilMark_of_unmarked (Utf8.zero_not_mem_encode unmarked)
  have size := Utf8.length_encode text
  have spoken : untilMark (Utf8.encode text.toList) ≠ [] := by
    rw [octets]
    intro empty
    rw [empty, List.length_nil] at size
    omega
  rw [← size, ← Utf8.size_eq_length_encode] at long
  rw [message_copy_of_spoken spoken, octets, Utf8.decodeLossy_take_encode long]

end MessageBuffer

namespace Library

/-- A function gives back that it fails. -/
def Return.Fails : Return → Prop
  | .status code => code = 0
  | .text octets => octets = none

theorem conclude_of_fails {returned : Returned} (fails : returned.result.Fails) :
    conclude returned =
      .failed (.refused returned.operation.symbol returned.buffer.message) := by
  obtain ⟨operation, result, buffer⟩ := returned
  cases result with
  | status code =>
    obtain rfl : code = 0 := fails
    rfl
  | text octets =>
    obtain rfl : octets = none := fails
    rfl

/-- A call that can be passed on enters the library with a blank buffer. -/
theorem respond_of_passable {functions : Functions σ} {call : Call} {state : σ}
    (passes : ∀ text, call.document? = some text → passable text = true) :
    let exit := functions call.operation (octets? call) state
    respond functions call state =
      ⟨conclude ⟨call.operation, exit.result, MessageBuffer.blank.copy exit.message⟩,
        [entry ⟨call.operation, octets? call, .blank⟩], exit.state⟩ := by
  intro exit
  rw [respond, prepare_of_passable passes]
  rfl

/-- The message of a failing call is what its function copied into the fresh buffer of the call. If
there is nothing before the end mark, it says so; otherwise it is the octets before the end mark, as
many as have room, with replacements for what is not UTF-8. So a text without an end mark comes out
as it is, if there is room for it. One that is too long loses the characters that do not fit, and one
replacement stands for the character that the end of the room cuts apart, if it does. -/
theorem respond_message_of_fails (functions : Functions σ) (call : Call) (state : σ)
    (passes : ∀ text, call.document? = some text → passable text = true)
    (fails : (functions call.operation (octets? call) state).result.Fails) :
    let left := (functions call.operation (octets? call) state).message
    ∃ message, (respond functions call state).reply =
        .failed (.refused call.operation.symbol message) ∧
      (left = [] ∨ left.head? = some 0 → message = "no error message provided") ∧
      (¬(left = [] ∨ left.head? = some 0) →
        message = String.ofList (Utf8.decodeLossy ((left.takeWhile (· ≠ 0)).take 250))) ∧
      ∀ text : String, text ≠ "" → '\x00' ∉ text.toList → left = Utf8.encode text.toList →
        (text.utf8ByteSize ≤ 250 → message = text) ∧
        (250 < text.utf8ByteSize → ∃ kept, Utf8.IsLongestFit 250 kept text.toList ∧
          message = String.ofList
            (kept ++ if Utf8.size kept = 250 then [] else ['\uFFFD'])) := by
  intro left
  refine ⟨(MessageBuffer.blank.copy left).message, ?_, fun silent => ?_, fun spoken => ?_,
    fun text something unmarked same => ⟨fun fits => ?_, fun long => ?_⟩⟩
  · rw [respond_of_passable passes]
    exact conclude_of_fails fails
  · exact MessageBuffer.message_copy_of_silent (MessageBuffer.untilMark_eq_nil_iff.mpr silent)
  · exact MessageBuffer.message_copy_of_spoken
      (fun silent => spoken (MessageBuffer.untilMark_eq_nil_iff.mp silent))
  · rw [same]
    exact MessageBuffer.message_copy_blank something unmarked fits
  · refine ⟨_, Utf8.isLongestFit_fitting messageLimit text.toList, ?_⟩
    rw [same]
    exact MessageBuffer.message_copy_long unmarked long

/-- A library whose every function fails with a message. -/
def failing (message : List UInt8) : Functions Unit := fun operation _ _ =>
  match operation with
  | .list | .test => ⟨.text none, message, ()⟩
  | .connect | .disconnect | .send | .synchronize => ⟨.status 0, message, ()⟩

@[simp] theorem message_failing (message : List UInt8) (operation : Operation)
    (input : Option (List UInt8)) (state : Unit) :
    (failing message operation input state).message = message := by
  cases operation <;> rfl

/-- A message of 251 octets, the last two of one character. -/
def tooLong : String := String.ofList (List.replicate 249 'a' ++ ['é'])

theorem respond_message_of_fails_tooLong :
    (respond (failing (Utf8.encode tooLong.toList)) .list ()).reply =
      .failed (.refused "ListMetrics" (String.ofList (List.replicate 249 'a' ++ ['\uFFFD']))) := by
  obtain ⟨message, replied, -, -, texts⟩ :=
    respond_message_of_fails (failing (Utf8.encode tooLong.toList)) .list ()
      (fun text given => by cases given) rfl
  have spelled : tooLong.toList = List.replicate 249 'a' ++ ['é'] := String.toList_ofList
  have long : 250 < tooLong.utf8ByteSize := by
    rw [← Utf8.length_encode, ← Utf8.size_eq_length_encode, spelled]
    decide +kernel
  have something : tooLong ≠ "" := by
    intro empty
    rw [empty] at long
    cases long
  have unmarked : '\x00' ∉ tooLong.toList := by
    rw [spelled]
    decide +kernel
  obtain ⟨-, cut⟩ := texts tooLong something unmarked (message_failing _ _ _ _)
  obtain ⟨kept, longest, told⟩ := cut long
  have fits : kept = List.replicate 249 'a' := by
    rw [longest.eq (Utf8.isLongestFit_fitting 250 tooLong.toList), spelled]
    decide +kernel
  have apart : Utf8.size (List.replicate 249 'a') ≠ 250 := by decide +kernel
  rw [replied, told, fits, if_neg apart, Call.operation, Operation.symbol]

end Library

end MonitorFeed
