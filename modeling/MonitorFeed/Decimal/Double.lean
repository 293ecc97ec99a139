/-!
Double-precision numbers taken apart into sign, significand and exponent.
-/

namespace MonitorFeed.Decimal

/-- The kinds of double. A finite one other than zero is `significand · 2 ^ exponent`. -/
inductive Double where
  | zero (negative : Bool)
  | finite (negative : Bool) (significand : Nat) (exponent : Int)
  | infinite (negative : Bool)
  | notANumber
deriving Repr, DecidableEq

namespace Double

/-- What the bits of a double stand for. -/
def ofBits (bits : Nat) : Double :=
  let negative := decide ((bits >>> 63) % 2 = 1)
  let biased := (bits >>> 52) % 2048
  let fraction := bits % (1 <<< 52)
  if biased = 2047 then if fraction = 0 then .infinite negative else .notANumber
  else if biased = 0 then
    if fraction = 0 then .zero negative else .finite negative fraction (-1074)
  else .finite negative (fraction + 1 <<< 52) ((biased : Int) - 1075)

/-- The bits without the sign; the leading bit of a normal significand adds one to the exponent. -/
def magnitudeBits : Double → Nat
  | .zero _ => 0
  | .finite _ significand exponent => (exponent + 1074).toNat <<< 52 + significand
  | .infinite _ => 2047 <<< 52
  | .notANumber => 2047 <<< 52 + 1 <<< 51

def isNegative : Double → Bool
  | .zero negative | .finite negative _ _ | .infinite negative => negative
  | .notANumber => false

/-- The bits of a double. -/
def toBits (x : Double) : Nat :=
  (if x.isNegative then 1 <<< 63 else 0) + x.magnitudeBits

def ofFloat (x : Float) : Double :=
  ofBits x.toBits.toNat

def toFloat (x : Double) : Float :=
  Float.ofBits x.toBits.toUInt64

/-- The same magnitude with the other sign. -/
def negate : Double → Double
  | .zero negative => .zero !negative
  | .finite negative significand exponent => .finite (!negative) significand exponent
  | .infinite negative => .infinite !negative
  | .notANumber => .notANumber

/-- Neither infinite nor a missing number. -/
def isFinite : Double → Bool
  | .zero _ | .finite .. => true
  | .infinite _ | .notANumber => false

/-- The integer part, held within bounds; a missing number counts as zero. -/
def truncate (least greatest : Int) : Double → Int
  | .zero _ | .notANumber => 0
  | .infinite negative => if negative then least else greatest
  | .finite negative significand exponent =>
    let magnitude := significand <<< exponent.toNat >>> (-exponent).toNat
    max least (min greatest (if negative then -(magnitude : Int) else magnitude))

end Double

/-- Neither infinite nor a missing number. -/
def isFinite (x : Float) : Bool :=
  (Double.ofFloat x).isFinite

end MonitorFeed.Decimal
