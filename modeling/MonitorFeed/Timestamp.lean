import MonitorFeed.Decimal.Integer
import MonitorFeed.Text.Blank

/-!
Instants in whole milliseconds since the epoch, within the range of the calendar.
-/

namespace MonitorFeed

/-- A 64-bit result that stays at the end of the range it would leave. -/
def saturate (n : Int) : Int :=
  max Int64.minValue.toInt (min Int64.maxValue.toInt n)

/-- An instant that the calendar can represent. -/
structure Timestamp where
  millis : Int
  representable : -8334601228800000 ≤ millis ∧ millis ≤ 8210266876799999
deriving DecidableEq

namespace Timestamp

/-- Whether the calendar reaches an instant. -/
def Representable (millis : Int) : Prop :=
  -8334601228800000 ≤ millis ∧ millis ≤ 8210266876799999

instance (millis : Int) : Decidable (Representable millis) :=
  inferInstanceAs (Decidable (_ ∧ _))

instance : Repr Timestamp := ⟨fun instant precedence => reprPrec instant.millis precedence⟩

/-- The start of the count. -/
def epoch : Timestamp := ⟨0, by decide⟩

instance : Inhabited Timestamp := ⟨epoch⟩

/-- The instant at a number of milliseconds, if the calendar reaches it. -/
def ofMillis? (millis : Int) : Option Timestamp :=
  if inside : Representable millis then some ⟨millis, inside⟩ else none

/-- The instant at a number of milliseconds; the epoch stands in for those out of range. -/
def ofMillis (millis : Int) : Timestamp :=
  (ofMillis? millis).getD epoch

/-- Shifts by seconds in 64-bit arithmetic that saturates at each step. -/
def plusSeconds (instant : Timestamp) (seconds : Int) : Timestamp :=
  ofMillis (saturate (instant.millis + saturate (seconds * 1000)))

/-- The canonical decimal text of the milliseconds. -/
def text (instant : Timestamp) : List Char :=
  Decimal.integerText instant.millis

/-- Why a document's value is no instant. -/
inductive Fault where
  | number (fault : Decimal.IntegerFault)
  | outOfRange (millis : Int)
deriving Repr, DecidableEq

def Fault.message : Fault → String
  | .number fault => fault.message
  | .outOfRange millis => "timestamp out of range: " ++ String.ofList (Decimal.integerText millis)

/-- Takes an integer of a document; one that exceeds a signed word is told apart from one that only
exceeds the calendar. -/
def ofInteger (n : Int) : Except Fault Timestamp :=
  if Int64.maxValue.toInt < n then .error (.number .tooLarge)
  else
    match ofMillis? n with
    | some instant => .ok instant
    | none => .error (.outOfRange n)

/-- Takes a text of a document, white space around the number aside. -/
def ofText (text : List Char) : Except Fault Timestamp :=
  match Decimal.readInteger (Text.trim text) with
  | .error fault => .error (.number fault)
  | .ok n => ofInteger n

end Timestamp

end MonitorFeed
