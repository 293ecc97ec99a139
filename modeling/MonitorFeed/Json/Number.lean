import MonitorFeed.Json.Scanner
import MonitorFeed.Decimal.Nearest

/-!
Numbers of JSON text. A number without point and exponent that fits a 64-bit word is an integer;
every other one is the double that one multiplication or division by a power of ten gives from its
leading digits.
-/

namespace MonitorFeed.Json

/-- A number as it is read. -/
inductive Number where
  | natural (value : Nat)
  | negative (magnitude : Nat)
  | real (value : Float)

/-- The largest significand kept exactly. -/
def largestWord : Nat := UInt64.size - 1

/-- Takes digits into a significand as long as it fits a word; gives it, the number of digits taken
and the remainder. -/
def takeDigits : Nat → Nat → List Char → Nat × Nat × List Char
  | significand, count, [] => (significand, count, [])
  | significand, count, c :: rest =>
    match Decimal.digit? c with
    | none => (significand, count, c :: rest)
    | some d =>
      if significand * 10 + d ≤ largestWord then
        takeDigits (significand * 10 + d) (count + 1) rest
      else (significand, count, c :: rest)

/-- Whether a digit comes next. -/
def startsWithDigit : List Char → Bool
  | c :: _ => c.isDigit
  | [] => false

/-- The double nearest to a power of ten. -/
def powerOfTen (exponent : Nat) : Float :=
  (Decimal.nearest (Nat.pow 10 exponent) 1).toFloat

/-- Divides by a power of ten in steps that doubles can hold; the third step leaves zero. -/
def divideByPower : Nat → Float → Nat → Float
  | 0, value, _ => value
  | steps + 1, value, exponent =>
    if exponent ≤ 308 then value / powerOfTen exponent
    else divideByPower steps (value / powerOfTen 308) (exponent - 308)

/-- The double of a significand and a decimal exponent, if it is finite. -/
def scaleReal (significand : Nat) (exponent : Int) : Option Float :=
  let value := (Decimal.nearest significand 1).toFloat
  if exponent < 0 then some (divideByPower 3 value (-exponent).toNat)
  else if 308 < exponent then if significand = 0 then some value else none
  else
    let scaled := value * powerOfTen exponent.toNat
    if Decimal.isFinite scaled then some scaled else none

/-- The real number of a sign, a significand and an exponent. -/
def finishReal (negative : Bool) (significand : Nat) (exponent : Int) (rest : List Char) :
    Except Fault (Number × List Char) :=
  match scaleReal significand exponent with
  | some value => .ok (.real (if negative then -value else value), rest)
  | none => failHere .numberOutOfRange rest

/-- The largest exponent that is counted; larger ones only decide between zero and too large. -/
def largestExponent : Nat := 1 <<< 31 - 1

/-- Takes the digits of an exponent, or reports the remainder after the digit that exceeds it. -/
def takeExponent : Nat → List Char → Except (List Char) (Nat × List Char)
  | value, [] => .ok (value, [])
  | value, c :: rest =>
    match Decimal.digit? c with
    | none => .ok (value, c :: rest)
    | some d =>
      if value * 10 + d ≤ largestExponent then takeExponent (value * 10 + d) rest
      else .error rest

/-- The exponent part after its letter. -/
def scanExponent (negative : Bool) (significand : Nat) (start : Int) (text : List Char) :
    Except Fault (Number × List Char) :=
  let (below, text) :=
    match text with
    | '-' :: rest => (true, rest)
    | '+' :: rest => (false, rest)
    | text => (false, text)
  match text with
  | [] => failHere .endInValue []
  | c :: rest =>
    match Decimal.digit? c with
    | none => failNext .invalidNumber (c :: rest)
    | some d =>
      match takeExponent d rest with
      | .ok (exponent, rest) =>
        finishReal negative significand (if below then start - exponent else start + exponent) rest
      | .error rest =>
        if significand ≠ 0 ∧ below = false then failHere .numberOutOfRange rest
        else finishReal negative 0 0 (rest.dropWhile Char.isDigit)

/-- What follows the digits before the exponent of a real number. -/
def scanRealTail (negative : Bool) (significand : Nat) (exponent : Int) :
    List Char → Except Fault (Number × List Char)
  | 'e' :: rest => scanExponent negative significand exponent rest
  | 'E' :: rest => scanExponent negative significand exponent rest
  | text => finishReal negative significand exponent text

/-- The digits after the point; those that do not fit the significand are passed over. -/
def scanFraction (negative : Bool) (significand : Nat) (exponent : Int) (text : List Char) :
    Except Fault (Number × List Char) :=
  let (significand, count, rest) := takeDigits significand 0 text
  if startsWithDigit text then
    scanRealTail negative significand (exponent - count) (rest.dropWhile Char.isDigit)
  else if rest.isEmpty then failNext .endInValue rest
  else failNext .invalidNumber rest

/-- What follows the digits before the point. -/
def scanTail (negative : Bool) (significand : Nat) :
    List Char → Except Fault (Number × List Char)
  | '.' :: rest => scanFraction negative significand 0 rest
  | 'e' :: rest => scanExponent negative significand 0 rest
  | 'E' :: rest => scanExponent negative significand 0 rest
  | text =>
    if negative = false then .ok (.natural significand, text)
    else if 0 < significand ∧ significand ≤ 1 <<< 63 then .ok (.negative significand, text)
    else .ok (.real (-(Decimal.nearest significand 1).toFloat), text)

/-- What follows leading digits that exceed a word: further digits only move the exponent. -/
def scanLong (negative : Bool) (significand : Nat) (text : List Char) :
    Except Fault (Number × List Char) :=
  let (digits, rest) := text.span Char.isDigit
  match rest with
  | '.' :: rest => scanFraction negative significand digits.length rest
  | rest => scanRealTail negative significand digits.length rest

/-- A number after its sign. -/
def scanNumber (negative : Bool) : List Char → Except Fault (Number × List Char)
  | [] => failHere .endInValue []
  | c :: rest =>
    match Decimal.digit? c with
    | none => failNext .invalidNumber (c :: rest)
    | some 0 =>
      if startsWithDigit rest then failNext .invalidNumber rest else scanTail negative 0 rest
    | some d =>
      let (significand, _, rest) := takeDigits d 0 rest
      if startsWithDigit rest then scanLong negative significand rest
      else scanTail negative significand rest

/-- Passes over an exponent part after its letter. -/
def skipExponent (text : List Char) : Except Fault (List Char) :=
  let text :=
    match text with
    | '-' :: rest => rest
    | '+' :: rest => rest
    | text => text
  if startsWithDigit text then .ok (text.dropWhile Char.isDigit) else failNext .invalidNumber text

/-- Passes over what follows the digits before the exponent. -/
def skipRealTail : List Char → Except Fault (List Char)
  | 'e' :: rest => skipExponent rest
  | 'E' :: rest => skipExponent rest
  | text => .ok text

/-- Passes over what follows the digits before the point. -/
def skipTail : List Char → Except Fault (List Char)
  | '.' :: rest =>
    if startsWithDigit rest then skipRealTail (rest.dropWhile Char.isDigit)
    else failNext .invalidNumber rest
  | text => skipRealTail text

/-- Passes over a number after its sign, whatever its size. -/
def skipNumber : List Char → Except Fault (List Char)
  | [] => failNext .invalidNumber []
  | c :: rest =>
    match Decimal.digit? c with
    | none => failNext .invalidNumber (c :: rest)
    | some 0 => if startsWithDigit rest then failNext .invalidNumber rest else skipTail rest
    | some _ => skipTail (rest.dropWhile Char.isDigit)

end MonitorFeed.Json
