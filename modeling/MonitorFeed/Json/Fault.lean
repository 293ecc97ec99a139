import MonitorFeed.Schema.Mismatch
import MonitorFeed.Text.Utf8

/-!
Faults of JSON text. A reader knows only what is still to be read, so a fault holds that remainder;
the line and the column follow from the whole text.
-/

namespace MonitorFeed.Json

/-- What is wrong with a text. -/
inductive Cause where
  | endInList
  | endInObject
  | endInText
  | endInValue
  | expectedColon
  | expectedListEnd
  | expectedObjectEnd
  | expectedWord
  | expectedValue
  | invalidEscape
  | invalidNumber
  | numberOutOfRange
  | controlCharacter
  | keyNotText
  | loneSurrogate
  | trailingComma
  | trailingCharacters
  | unfinishedSurrogate
  | tooDeep
  | mismatch (difference : Mismatch)

/-- The words of JSON faults. -/
def wording : Wording where
  nullWord := "null"
  realText x := String.ofList (Decimal.Layout.json.write x)

def Cause.message : Cause → String
  | .endInList => "EOF while parsing a list"
  | .endInObject => "EOF while parsing an object"
  | .endInText => "EOF while parsing a string"
  | .endInValue => "EOF while parsing a value"
  | .expectedColon => "expected " ++ ticked ":"
  | .expectedListEnd => "expected " ++ ticked "," ++ " or " ++ ticked "]"
  | .expectedObjectEnd => "expected " ++ ticked "," ++ " or " ++ ticked "\x7d"
  | .expectedWord => "expected ident"
  | .expectedValue => "expected value"
  | .invalidEscape => "invalid escape"
  | .invalidNumber => "invalid number"
  | .numberOutOfRange => "number out of range"
  | .controlCharacter => "control character (\\u0000-\\u001F) found while parsing a string"
  | .keyNotText => "key must be a string"
  | .loneSurrogate => "lone leading surrogate in hex escape"
  | .trailingComma => "trailing comma"
  | .trailingCharacters => "trailing characters"
  | .unfinishedSurrogate => "unexpected end of hex escape"
  | .tooDeep => "recursion limit exceeded"
  | .mismatch difference => difference.message wording

/-- A cause and where it shows: before the remainder, or some octets into it. -/
structure Fault where
  cause : Cause
  rest : List Char
  octets : Nat

/-- A fault that shows after all that has been taken. -/
def failHere {α : Type} (cause : Cause) (rest : List Char) : Except Fault α :=
  .error ⟨cause, rest, 0⟩

/-- A fault that shows with the next octet. -/
def failNext {α : Type} (cause : Cause) (rest : List Char) : Except Fault α :=
  .error ⟨cause, rest, 1⟩

/-- Line and column after a number of octets; columns count octets. -/
def placeAfter : Nat → Nat → Nat → List Char → Nat × Nat
  | line, column, _, [] => (line, column)
  | line, column, octets, c :: rest =>
    if octets < c.utf8Size then (line, column + octets)
    else if c = '\n' then placeAfter (line + 1) 0 (octets - 1) rest
    else placeAfter line (column + c.utf8Size) (octets - c.utf8Size) rest

/-- A fault of a text, with its place. -/
structure Error where
  cause : Cause
  line : Nat
  column : Nat

def Error.message (error : Error) : String :=
  error.cause.message ++ " at line " ++ String.ofList (Decimal.naturalText error.line) ++
    " column " ++ String.ofList (Decimal.naturalText error.column)

/-- Locates a fault in the text that was read. -/
def Fault.locate (text : List Char) (fault : Fault) : Error :=
  let taken := Text.Utf8.size text - Text.Utf8.size fault.rest
  let place := placeAfter 1 0 (taken + fault.octets) text
  ⟨fault.cause, place.1, place.2⟩

end MonitorFeed.Json
