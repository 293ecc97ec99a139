import MonitorFeed.Decimal.Double
import MonitorFeed.Decimal.Integer

/-!
The shortest decimal that reads back as a given double, nearest to it among the shortest ones, and
the layouts in which it is written.
-/

namespace MonitorFeed.Decimal

/-- A positive rational number over a power of two and a power of ten: the numerator and the
denominator of `n · 2 ^ binary / 10 ^ decimal`. -/
def scaledPair (n : Nat) (binary decimal : Int) : Nat × Nat :=
  (n <<< binary.toNat * Nat.pow 10 (-decimal).toNat, Nat.pow 10 decimal.toNat <<< (-binary).toNat)

/-- The stretch of numbers that round to a double, in quarters of its last place: the lower half
gap is smaller just above a power of two. -/
def lowerQuarters (significand : Nat) (exponent : Int) : Nat :=
  if significand = 1 <<< 52 ∧ -1074 < exponent then 4 * significand - 1 else 4 * significand - 2

/-- Whether `count · 10 ^ grid` rounds to the double; the ends of the stretch do iff the significand
is even. -/
def roundsBack (significand : Nat) (exponent grid : Int) (count : Nat) : Bool :=
  let (low, den) := scaledPair (lowerQuarters significand exponent) (exponent - 2) grid
  let (high, _) := scaledPair (4 * significand + 2) (exponent - 2) grid
  if significand % 2 = 0 then low ≤ count * den && count * den ≤ high
  else low < count * den && count * den < high

/-- Which of two decimals is taken that are equally near to a double. -/
inductive Tie where
  | toEven
  | up
deriving Repr, DecidableEq

/-- Whether a tie goes to the lower neighbour. -/
def Tie.isDown (tie : Tie) (below : Nat) : Bool :=
  match tie with
  | .toEven => below % 2 = 0
  | .up => false

/-- The nearer of a value's two neighbours on the grid of multiples of `10 ^ grid` that rounds back
to it. -/
def onGrid (tie : Tie) (significand : Nat) (exponent grid : Int) : Option Nat :=
  let (num, den) := scaledPair significand exponent grid
  let below := num / den
  let twice := 2 * (num % den)
  let ordered :=
    if twice < den || (twice = den && tie.isDown below) then [below, below + 1]
    else [below + 1, below]
  ordered.find? fun count => 0 < count && roundsBack significand exponent grid count

/-- Tries ever finer grids; a double is told apart by seventeen digits. -/
def searchGrid (tie : Tie) (significand : Nat) (exponent : Int) : Nat → Int → Nat × Int
  | 0, grid => (significand, grid)
  | steps + 1, grid =>
    match onGrid tie significand exponent grid with
    | some count => (count, grid)
    | none => searchGrid tie significand exponent steps (grid - 1)

/-- The digits and the decimal exponent of the shortest decimal that reads back as
`significand · 2 ^ exponent`. -/
def shortest (tie : Tie) (significand : Nat) (exponent : Int) : Nat × Int :=
  searchGrid tie significand exponent 24
    (((significand.log2 : Int) + exponent + 1) * 30103 / 100000 + 1)

/-- Where positional writing ends, whether a whole number keeps its point, and where a tie goes. The
bounds hold the number of digits before the point, zero or less for leading zeros. -/
structure Layout where
  fewestPlaces : Option Int
  mostPlaces : Option Int
  keepsPoint : Bool
  tie : Tie

/-- Numbers of JSON documents: positional from `0.00001` to below `1e16`, always with a point or an
exponent. -/
def Layout.json : Layout := ⟨some (-4), some 16, true, .toEven⟩

/-- Numbers in running text: positional throughout, without a point where none is needed. -/
def Layout.plain : Layout := ⟨none, none, false, .up⟩

/-- Numbers in diagnostics: positional throughout and always with a point. -/
def Layout.pointed : Layout := ⟨none, none, true, .up⟩

/-- The digits with a point after the given number of places, zeros filling the gaps. -/
def positional (keepsPoint : Bool) (digits : List Char) (places : Int) : List Char :=
  if places ≤ 0 then '0' :: '.' :: List.replicate (-places).toNat '0' ++ digits
  else if digits.length ≤ places.toNat then
    digits ++ List.replicate (places.toNat - digits.length) '0' ++
      (if keepsPoint then ['.', '0'] else [])
  else digits.take places.toNat ++ '.' :: digits.drop places.toNat

/-- One digit, a point before the others, and the exponent with its sign. -/
def scientific (digits : List Char) (exponent : Int) : List Char :=
  let fraction := digits.drop 1
  digits.take 1 ++ (if fraction.isEmpty then [] else '.' :: fraction) ++
    'e' :: (if exponent < 0 then integerText exponent else '+' :: integerText exponent)

/-- Writes digits at a decimal exponent. -/
def Layout.writeDigits (layout : Layout) (digits : List Char) (exponent : Int) : List Char :=
  let places := digits.length + exponent
  let within := layout.fewestPlaces.all (· ≤ places) && layout.mostPlaces.all (places ≤ ·)
  if within then positional layout.keepsPoint digits places else scientific digits (places - 1)

/-- Writes a double. -/
def Layout.write (layout : Layout) (x : Float) : List Char :=
  let signed (negative : Bool) (text : List Char) := if negative then '-' :: text else text
  match Double.ofFloat x with
  | .notANumber => "NaN".toList
  | .infinite negative => signed negative "inf".toList
  | .zero negative => signed negative (if layout.keepsPoint then "0.0".toList else ['0'])
  | .finite negative significand exponent =>
    let (count, grid) := shortest layout.tie significand exponent
    signed negative (layout.writeDigits (naturalText count) grid)

end MonitorFeed.Decimal
