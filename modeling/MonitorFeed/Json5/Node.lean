import MonitorFeed.Schema.Mismatch
import MonitorFeed.Json.Scanner

/-!
JSON5 documents as they are written: numbers and strings keep their spelling, since what they mean
depends on the type that is wanted.
-/

namespace MonitorFeed.Json5

/-- A part of a string or of a name: a character as it is, a letter after a backslash, a spelled
octet or code unit. -/
inductive Piece where
  | plain (c : Char)
  | short (c : Char)
  | octet (digits : List Char)
  | unit (digits : List Char)
deriving Repr, DecidableEq

/-- A document. -/
inductive Node where
  | null
  | flag (value : Bool)
  | number (token : List Char)
  | text (pieces : List Piece)
  | list (items : List Node)
  | object (members : List (List Piece × Node))

/-- What is wrong with a document. -/
inductive Cause where
  | malformed (line column : Nat)
  | number
  | numberTooLarge
  | integer
  | hexadecimal
  | unexpectedTrail
  | expectedTrail
  | missingTrail
  | noChoice
  | emptyChoice
  | mismatch (difference : Mismatch)

/-- The words of JSON5 faults. -/
def wording : Wording where
  nullWord := "unit value"
  realText x := String.ofList (Decimal.Layout.pointed.write x)

def Cause.message : Cause → String
  | .malformed line column =>
    " --> " ++ String.ofList (Decimal.naturalText line) ++ ":" ++
      String.ofList (Decimal.naturalText column)
  | .number => "error parsing number"
  | .numberTooLarge => "error parsing number: too large"
  | .integer => "error parsing integer"
  | .hexadecimal => "error parsing hex"
  | .unexpectedTrail => "unexpected unicode trail surrogate"
  | .expectedTrail => "expecting unicode trail surrogate"
  | .missingTrail => "missing unicode trail surrogate"
  | .noChoice => "expected a string or an object"
  | .emptyChoice => "expected a nonempty object"
  | .mismatch difference => difference.message wording

/-- The characters that spell a piece, without what announces it. -/
def Piece.spelling : Piece → List Char
  | .plain c | .short c => [c]
  | .octet digits | .unit digits => digits

/-- What a letter after a backslash stands for. -/
def shortMeaning (c : Char) : Char :=
  if c = 'b' then '\x08'
  else if c = 'f' then '\x0c'
  else if c = 'n' then '\n'
  else if c = 'r' then '\r'
  else if c = 't' then '\t'
  else if c = 'v' then '\x0b'
  else if c = '0' then '\x00'
  else c

/-- The value of hexadecimal digits that fit 32 bits. -/
def hexWord (digits : List Char) : Except Cause Nat :=
  match Json.hexValue? digits with
  | some value => if digits.isEmpty || UInt32.size ≤ value then .error .hexadecimal else .ok value
  | none => .error .hexadecimal

/-- The character of a pair of surrogates. The offset of the supplementary planes is joined to the
lower half bit by bit, so pairs above the first such plane land below their usual place. -/
def joinPair (lead trail : Nat) : Char :=
  Char.ofNat ((lead - 0xD800) <<< 10 ||| (trail - 0xDC00 + 0x10000))

/-- The text that pieces stand for. A leading surrogate takes the piece after it, whatever it is, as
hexadecimal digits. -/
def meaning : List Piece → Except Cause (List Char)
  | [] => .ok []
  | .plain c :: rest => (meaning rest).map (c :: ·)
  | .short c :: rest => (meaning rest).map (shortMeaning c :: ·)
  | .octet digits :: rest => do
    let value ← hexWord digits
    return Char.ofNat value :: (← meaning rest)
  | .unit digits :: rest => do
    let value ← hexWord digits
    if Json.isTrailSurrogate value then throw .unexpectedTrail
    else if Json.isLeadSurrogate value then
      match rest with
      | [] => throw .missingTrail
      | next :: rest =>
        let trail ← hexWord next.spelling
        if Json.isTrailSurrogate trail then return joinPair value trail :: (← meaning rest)
        else throw .expectedTrail
    else return Char.ofNat value :: (← meaning rest)

/-- The text of a string. -/
def textOf (pieces : List Piece) : Except Cause String :=
  (meaning pieces).map String.ofList

end MonitorFeed.Json5
