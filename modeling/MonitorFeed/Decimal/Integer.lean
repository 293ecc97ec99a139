/-!
Integers in decimal: their canonical text, and the reading of signed 64-bit integers that stops at
the first digit it cannot take.
-/

namespace MonitorFeed.Decimal

/-- Canonical digits of a natural number. -/
def naturalText (n : Nat) : List Char :=
  Nat.toDigits 10 n

/-- Canonical digits of an integer, with a minus sign before a negative one. -/
def integerText : Int → List Char
  | .ofNat n => naturalText n
  | .negSucc n => '-' :: naturalText (n + 1)

/-- The value of a decimal digit. -/
def digit? (c : Char) : Option Nat :=
  if c.isDigit then some (c.toNat - '0'.toNat) else none

/-- Why a text is not an integer of the wanted width. -/
inductive IntegerFault where
  | empty
  | invalidDigit
  | tooLarge
  | tooSmall
deriving Repr, DecidableEq

def IntegerFault.message : IntegerFault → String
  | .empty => "cannot parse integer from empty string"
  | .invalidDigit => "invalid digit found in string"
  | .tooLarge => "number too large to fit in target type"
  | .tooSmall => "number too small to fit in target type"

/-- Takes digits while the number stays within the limit; the first digit that is none, or that
leads beyond the limit, decides. -/
def gather (limit : Nat) (beyond : IntegerFault) : Nat → List Char → Except IntegerFault Nat
  | value, [] => .ok value
  | value, c :: rest =>
    match digit? c with
    | none => .error .invalidDigit
    | some d =>
      if value * 10 + d ≤ limit then gather limit beyond (value * 10 + d) rest
      else .error beyond

/-- Digits, of which there is at least one. -/
def readDigits (limit : Nat) (beyond : IntegerFault) : List Char → Except IntegerFault Nat
  | [] => .error .invalidDigit
  | digits => gather limit beyond 0 digits

/-- Reads an optional sign and digits as a signed 64-bit integer. -/
def readInteger : List Char → Except IntegerFault Int
  | [] => .error .empty
  | '-' :: digits => (readDigits (1 <<< 63) .tooSmall digits).map fun n => -(n : Int)
  | '+' :: digits => (readDigits (1 <<< 63 - 1) .tooLarge digits).map Int.ofNat
  | digits => (readDigits (1 <<< 63 - 1) .tooLarge digits).map Int.ofNat

end MonitorFeed.Decimal
