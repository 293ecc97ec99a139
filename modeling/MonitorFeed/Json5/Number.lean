import MonitorFeed.Json5.Node
import MonitorFeed.Decimal.Nearest

/-!
What the spelling of a JSON5 number means. Where a number is wanted every spelling is read as a
double first; where anything may stand, one without point and exponent is a signed word.
-/

namespace MonitorFeed.Json5

/-- The digits of a hexadecimal spelling, which carries no sign. -/
def hexDigitsOf? : List Char → Option (List Char)
  | '0' :: 'x' :: d :: digits => some (d :: digits)
  | '0' :: 'X' :: d :: digits => some (d :: digits)
  | _ => none

/-- The spellings of the values that are no finite number. -/
def special? (token : List Char) : Option Decimal.Double :=
  if token = "Infinity".toList then some (.infinite false)
  else if token = "-Infinity".toList then some (.infinite true)
  else if token = "NaN".toList || token = "-NaN".toList then some .notANumber
  else none

/-- The double that a spelling means. -/
def doubleOf (token : List Char) : Except Cause Decimal.Double :=
  match special? token with
  | some value => .ok value
  | none =>
    match hexDigitsOf? token with
    | some digits => (hexWord digits).map fun value => Decimal.nearest value 1
    | none =>
      match Decimal.readDouble token with
      | none => .error .number
      | some value => if value.isFinite then .ok value else .error .numberTooLarge

/-- Whether a spelling means a signed word where the type is open. -/
def spellsInteger (token : List Char) : Bool :=
  !token.contains '.' &&
    ((hexDigitsOf? token).isSome || !(token.contains 'e' || token.contains 'E')) &&
    (special? token).isNone

/-- The signed word that a spelling means. -/
def integerOf (token : List Char) : Except Cause Int :=
  match hexDigitsOf? token with
  | some digits => (hexWord digits).map Int.ofNat
  | none =>
    match Decimal.readInteger token with
    | .ok value => .ok value
    | .error _ => .error .integer

/-- The number of a document where one is wanted; anything else is a spelling of none. -/
def Node.double : Node → Except Cause Decimal.Double
  | .number token => doubleOf token
  | _ => .error .number

/-- What stands in a document where the type is open. -/
def Node.found : Node → Except Cause Found
  | .null => .ok .null
  | .flag value => .ok (.flag value)
  | .number token =>
    if spellsInteger token then (integerOf token).map .integer
    else (doubleOf token).map fun value => .real value.toFloat
  | .text pieces => (textOf pieces).map .text
  | .list _ => .ok .list
  | .object _ => .ok .object

mutual
/-- Checks the numbers and strings of a document that nobody asked for. -/
def Node.check : Node → Except Cause Unit
  | .list items => checkItems items
  | .object members => checkMembers members
  | .null | .flag _ => .ok ()
  | .number token => (Node.number token).found.map fun _ => ()
  | .text pieces => (textOf pieces).map fun _ => ()

/-- Checks items in turn. -/
def checkItems : List Node → Except Cause Unit
  | [] => .ok ()
  | item :: rest => do
    item.check
    checkItems rest

/-- Checks names and values in turn. -/
def checkMembers : List (List Piece × Node) → Except Cause Unit
  | [] => .ok ()
  | (key, value) :: rest => do
    let _ ← textOf key
    value.check
    checkMembers rest
end

end MonitorFeed.Json5
