import MonitorFeed.Json.Fault

/-!
The leaves of JSON text: white space, words and strings. Each reader takes the text that is left and
gives what it leaves in turn.
-/

namespace MonitorFeed.Json

/-- White space between tokens. -/
def isSpace (c : Char) : Bool :=
  c = ' ' || c = '\n' || c = '\t' || c = '\r'

def skipSpace (text : List Char) : List Char :=
  text.dropWhile isSpace

/-- The rest of a fixed word. -/
def word : List Char → List Char → Except Fault (List Char)
  | [], text => .ok text
  | _ :: _, [] => failHere .endInValue []
  | letter :: letters, c :: rest =>
    if c = letter then word letters rest else failNext .expectedWord (c :: rest)

/-- The value of a hexadecimal digit. -/
def hexDigit? (c : Char) : Option Nat :=
  if '0' ≤ c ∧ c ≤ '9' then some (c.toNat - '0'.toNat)
  else if 'a' ≤ c ∧ c ≤ 'f' then some (c.toNat - 'a'.toNat + 10)
  else if 'A' ≤ c ∧ c ≤ 'F' then some (c.toNat - 'A'.toNat + 10)
  else none

/-- The value of hexadecimal digits. -/
def hexValue? (digits : List Char) : Option Nat :=
  digits.foldlM (fun value c => (hexDigit? c).map (value * 16 + ·)) 0

/-- The code unit that the next four characters spell. Four octets are taken at once, whether or not
they are digits. -/
def codeUnit (text : List Char) : Except Fault Nat :=
  if Text.Utf8.size (text.take 4) < 4 then failHere .endInText []
  else
    match text with
    | a :: b :: c :: d :: _ =>
      match hexValue? [a, b, c, d] with
      | some unit => .ok unit
      | none => .error ⟨.invalidEscape, text, 4⟩
    | _ => .error ⟨.invalidEscape, text, 4⟩

def isLeadSurrogate (unit : Nat) : Bool := 0xD800 ≤ unit && unit ≤ 0xDBFF

def isTrailSurrogate (unit : Nat) : Bool := 0xDC00 ≤ unit && unit ≤ 0xDFFF

/-- The character of a pair of surrogates. -/
def joinSurrogates (lead trail : Nat) : Char :=
  Char.ofNat ((lead - 0xD800) * 0x400 + (trail - 0xDC00) + 0x10000)

/-- The character that a letter after the backslash stands for. -/
def shortEscape? (c : Char) : Option Char :=
  if c = '"' ∨ c = '\\' ∨ c = '/' then some c
  else if c = 'b' then some '\x08'
  else if c = 'f' then some '\x0c'
  else if c = 'n' then some '\n'
  else if c = 'r' then some '\r'
  else if c = 't' then some '\t'
  else none

/-- The character of a code unit written in full, and the number of characters that spell it after
the letter. A leading surrogate needs its trailing one. -/
def unitEscape (text : List Char) : Except Fault (Char × Nat) := do
  let unit ← codeUnit text
  let rest := text.drop 4
  if isTrailSurrogate unit then failHere .loneSurrogate rest
  else if isLeadSurrogate unit then
    match rest with
    | [] => failHere .endInText []
    | '\\' :: rest =>
      match rest with
      | [] => failHere .endInText []
      | 'u' :: rest =>
        let trail ← codeUnit rest
        if isTrailSurrogate trail then return (joinSurrogates unit trail, 10)
        else failHere .loneSurrogate (rest.drop 4)
      | rest => failNext .unfinishedSurrogate rest
    | rest => failNext .unfinishedSurrogate rest
  else return (Char.ofNat unit, 4)

/-- The character of an escape, and the number of characters that spell it after the backslash. -/
def unescape : List Char → Except Fault (Char × Nat)
  | [] => failHere .endInText []
  | c :: rest =>
    if c = 'u' then (unitEscape rest).map fun (c, count) => (c, count + 1)
    else
      match shortEscape? c with
      | some c => .ok (c, 1)
      | none => failNext .invalidEscape (c :: rest)

/-- The characters of a string up to its closing quote. The count holds how many characters still
belong to the last escape. -/
def textChars : Nat → List Char → Except Fault (List Char × List Char)
  | _, [] => failHere .endInText []
  | count + 1, _ :: rest => textChars count rest
  | 0, c :: rest =>
    if c = '"' then .ok ([], rest)
    else if c = '\\' then do
      let (c, count) ← unescape rest
      let (chars, rest) ← textChars count rest
      return (c :: chars, rest)
    else if c.toNat < 0x20 then failNext .controlCharacter (c :: rest)
    else do
      let (chars, rest) ← textChars 0 rest
      return (c :: chars, rest)

/-- A string after its opening quote. -/
def scanText (text : List Char) : Except Fault (String × List Char) := do
  let (chars, rest) ← textChars 0 text
  return (String.ofList chars, rest)

/-- The number of characters that spell an escape whose meaning does not matter. -/
def skipEscape : List Char → Except Fault Nat
  | [] => failHere .endInText []
  | c :: rest =>
    if c = 'u' then (codeUnit rest).map fun _ => 5
    else if (shortEscape? c).isSome then .ok 1
    else failNext .invalidEscape (c :: rest)

/-- Passes over the characters of a string, its closing quote included. -/
def skipChars : Nat → List Char → Except Fault (List Char)
  | _, [] => failHere .endInText []
  | count + 1, _ :: rest => skipChars count rest
  | 0, c :: rest =>
    if c = '"' then .ok rest
    else if c = '\\' then do
      let count ← skipEscape rest
      skipChars count rest
    else if c.toNat < 0x20 then failHere .controlCharacter (c :: rest)
    else skipChars 0 rest

/-- Passes over a string after its opening quote. -/
def skipText (text : List Char) : Except Fault (List Char) :=
  skipChars 0 text

end MonitorFeed.Json
