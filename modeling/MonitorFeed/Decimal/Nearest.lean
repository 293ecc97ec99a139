import MonitorFeed.Decimal.Double
import MonitorFeed.Decimal.Integer

/-!
The double nearest to an exact quotient, ties to even, and the reading of decimal text as a double.
-/

namespace MonitorFeed.Decimal

/-- Quotient rounded to the nearest integer, a half to the even neighbour. -/
def divideToEven (num den : Nat) : Nat :=
  let quotient := num / den
  let twice := 2 * (num % den)
  if den < twice || (twice = den && quotient % 2 = 1) then quotient + 1 else quotient

/-- Exponent of two with which a positive quotient has its leading bit. -/
def binaryExponent (num den : Nat) : Int :=
  let guess : Int := (num.log2 : Int) - den.log2
  let reaches :=
    if 0 ≤ guess then den <<< guess.toNat ≤ num else den ≤ num <<< (-guess).toNat
  if reaches then guess else guess - 1

/-- Bits of the double nearest to a quotient of natural numbers: the significand is counted in
units of the last place, which is never below the least subnormal number, and a carry out of it
moves to the next exponent by itself. -/
def nearestBits (num den : Nat) : Nat :=
  if num = 0 then 0
  else
    let unit := max (binaryExponent num den - 52) (-1074)
    let significand :=
      if 0 ≤ unit then divideToEven num (den <<< unit.toNat)
      else divideToEven (num <<< (-unit).toNat) den
    min (2047 <<< 52) ((unit + 1074).toNat <<< 52 + significand)

/-- The double nearest to a quotient of natural numbers; infinity beyond the largest one. -/
def nearest (num den : Nat) : Double :=
  .ofBits (nearestBits num den)

/-- The double nearest to `significand · 10 ^ exponent`. Exponents far outside the range of doubles
are settled by the number of digits. -/
def nearestScaled (significand : Nat) (exponent : Int) : Double :=
  let size : Int := (Nat.toDigits 10 significand).length + exponent
  if significand = 0 || size < -400 then .zero false
  else if 400 < size then .infinite false
  else if 0 ≤ exponent then nearest (significand * Nat.pow 10 exponent.toNat) 1
  else nearest significand (Nat.pow 10 (-exponent).toNat)

/-- Splits off the leading digits. -/
def spanDigits (text : List Char) : List Char × List Char :=
  text.span Char.isDigit

/-- The natural number that the digits spell. -/
def digitsValue (digits : List Char) : Nat :=
  digits.foldl (fun value c => value * 10 + (c.toNat - '0'.toNat)) 0

/-- An exponent part: its letter, an optional sign and digits; nothing at all is zero. -/
def readExponent : List Char → Option Int
  | [] => some 0
  | mark :: rest =>
    if mark = 'e' || mark = 'E' then
      let (negative, digits) :=
        match rest with
        | '-' :: digits => (true, digits)
        | '+' :: digits => (false, digits)
        | digits => (false, digits)
      if digits.isEmpty || !digits.all Char.isDigit then none
      else
        let value : Int := digitsValue digits
        some (if negative then -value else value)
    else none

/-- An unsigned decimal number: digits around an optional point, at least one of them, and an
optional exponent. -/
def readMagnitude (text : List Char) : Option Double := do
  let (whole, rest) := spanDigits text
  let (fraction, rest) :=
    match rest with
    | '.' :: rest => spanDigits rest
    | rest => ([], rest)
  if whole.isEmpty && fraction.isEmpty then none
  let exponent ← readExponent rest
  return nearestScaled (digitsValue (whole ++ fraction)) (exponent - fraction.length)

/-- The spellings of the values that are no finite number, in any case of letters. -/
def readSpecial (text : List Char) : Option Double :=
  let lower := text.map Char.toLower
  if lower = "inf".toList || lower = "infinity".toList then some (.infinite false)
  else if lower = "nan".toList then some .notANumber
  else none

/-- Reads a decimal number with an optional sign as the double nearest to it. -/
def readDouble (text : List Char) : Option Double :=
  let read (text : List Char) := (readSpecial text).or (readMagnitude text)
  match text with
  | '-' :: rest => (read rest).map Double.negate
  | '+' :: rest => read rest
  | text => read text

end MonitorFeed.Decimal
