import MonitorFeed.Text.Utf8

/-!
The octets in which a library leaves the message of a failing call. Each call has a buffer of its
own, one octet longer than a message may be and blank at first, so a message always ends within it.
-/

namespace MonitorFeed

/-- The longest message that a library leaves, in octets. -/
def messageLimit : Nat := 250

/-- The buffer of one call. -/
structure MessageBuffer where
  octets : List UInt8
  size : octets.length = messageLimit + 1

namespace MessageBuffer

/-- A blank buffer. -/
def blank : MessageBuffer := ⟨List.replicate (messageLimit + 1) 0, List.length_replicate⟩

/-- The octets of a text before its end mark. -/
def untilMark (octets : List UInt8) : List UInt8 :=
  octets.takeWhile (· ≠ 0)

/-- Fills the room of a message: as much of the text as fits, and blanks after it. -/
def messageRoom (text : List UInt8) : List UInt8 :=
  let message := (untilMark text).take messageLimit
  message ++ List.replicate (messageLimit - message.length) 0

theorem length_messageRoom (text : List UInt8) : (messageRoom text).length = messageLimit := by
  simp only [messageRoom, List.length_append, List.length_take, List.length_replicate]
  omega

/-- Copies a text into the room of a message; what lies beyond stays. -/
def copy (buffer : MessageBuffer) (text : List UInt8) : MessageBuffer where
  octets := messageRoom text ++ buffer.octets.drop messageLimit
  size := by
    rw [List.length_append, length_messageRoom, List.length_drop, buffer.size]
    omega

/-- What is said of a failure without a message. -/
def noMessage : String := "no error message provided"

/-- The message in a buffer, as it is written up to its end mark. -/
def message (buffer : MessageBuffer) : String :=
  match untilMark buffer.octets with
  | [] => noMessage
  | octets => String.ofList (Text.Utf8.decodeLossy octets)

end MessageBuffer

end MonitorFeed
