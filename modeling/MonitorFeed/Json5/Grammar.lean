import MonitorFeed.Json5.Node
import MonitorFeed.Text.Name

/-!
The grammar of JSON5: comments, single quotes, unquoted names, signs and trailing commas. A reader
takes the longest token that its rule allows and fails with the remainder where it stood.
-/

namespace MonitorFeed.Json5

/-- Characters that end a line. -/
def endsLine (c : Char) : Bool :=
  c = '\n' || c = '\r' || c = '\u2028' || c = '\u2029'

/-- White space between tokens: controls, the byte order mark, space separators and line ends. -/
def isGap (c : Char) : Bool :=
  c = '\t' || c = '\x0b' || c = '\x0c' || c = ' ' || c = '\u00a0' || c = '\ufeff' ||
    c = '\u1680' || ('\u2000' ≤ c && c ≤ '\u200a') || c = '\u202f' || c = '\u205f' ||
    c = '\u3000' || endsLine c

/-- Between tokens, in a comment up to the end of the line, or in one up to its closing mark. -/
inductive Gap where
  | between
  | line
  | block

/-- Passes over white space and comments; a comment that is not closed has no end. -/
def skipGap : Gap → List Char → Option (List Char)
  | .block, [] => none
  | _, [] => some []
  | .between, '/' :: '/' :: rest => skipGap .line rest
  | .between, '/' :: '*' :: rest => skipGap .block rest
  | .between, c :: rest => if isGap c then skipGap .between rest else some (c :: rest)
  | .line, c :: rest => if endsLine c then skipGap .between rest else skipGap .line rest
  | .block, '*' :: '/' :: rest => skipGap .between rest
  | .block, _ :: rest => skipGap .block rest

/-- The start of the next token, or the remainder that is none. -/
def nextToken (text : List Char) : Except (List Char) (List Char) :=
  match skipGap .between text with
  | some rest => .ok rest
  | none => .error text

/-- A number of hexadecimal digits at the start of a text. -/
def hexDigits? (count : Nat) (text : List Char) : Option (List Char) :=
  let digits := text.take count
  if digits.length = count && digits.all fun c => (Json.hexDigit? c).isSome then some digits
  else none

/-- What follows a backslash: a piece, or none for a line that is continued, and the number of
characters taken. -/
def escaped : List Char → Option (Option Piece × Nat)
  | [] => none
  | 'x' :: rest => (hexDigits? 2 rest).map fun digits => (some (.octet digits), 3)
  | 'u' :: rest => (hexDigits? 4 rest).map fun digits => (some (.unit digits), 5)
  | '\r' :: '\n' :: _ => some (none, 2)
  | c :: _ =>
    if endsLine c then some (none, 1)
    else if c.isDigit && c ≠ '0' then none
    else some (some (.short c), 1)

/-- The pieces of a string up to its closing quote. The count holds how many characters still
belong to the last escape. -/
def scanPieces (quote : Char) : Nat → List Char → Except (List Char) (List Piece × List Char)
  | _, [] => .error []
  | count + 1, _ :: rest => scanPieces quote count rest
  | 0, c :: rest =>
    if c = quote then .ok ([], rest)
    else if c = '\\' then
      match escaped rest with
      | none => .error rest
      | some (piece, count) => do
        let (pieces, rest) ← scanPieces quote count rest
        return (piece.toList ++ pieces, rest)
    else if endsLine c then .error (c :: rest)
    else do
      let (pieces, rest) ← scanPieces quote 0 rest
      return (.plain c :: pieces, rest)

/-- The pieces of an unquoted name, which may be empty. -/
def scanName : Bool → Nat → List Char → List Piece × List Char
  | _, _, [] => ([], [])
  | first, count + 1, _ :: rest => scanName first count rest
  | first, 0, c :: rest =>
    if if first then Text.startsName c else Text.continuesName c then
      let (pieces, rest) := scanName false 0 rest
      (.plain c :: pieces, rest)
    else
      match c, rest with
      | '\\', 'u' :: digits =>
        match hexDigits? 4 digits with
        | some spelled =>
          let (pieces, rest) := scanName false 5 rest
          (.unit spelled :: pieces, rest)
        | none => ([], c :: rest)
      | _, _ => ([], c :: rest)

/-- A member's name: a string or an unquoted name. -/
def scanKey (text : List Char) : Except (List Char) (List Piece × List Char) :=
  match text with
  | '"' :: rest => scanPieces '"' 0 rest
  | '\'' :: rest => scanPieces '\'' 0 rest
  | text =>
    match scanName true 0 text with
    | ([], rest) => .error rest
    | (pieces, rest) => .ok (pieces, rest)

/-- An exponent part, if there is one, and what follows it. -/
def spanExponent : List Char → List Char × List Char
  | [] => ([], [])
  | mark :: rest =>
    if mark = 'e' || mark = 'E' then
      let (sign, rest') :=
        match rest with
        | '-' :: rest => (['-'], rest)
        | '+' :: rest => (['+'], rest)
        | rest => ([], rest)
      let (digits, rest') := rest'.span Char.isDigit
      if digits.isEmpty then ([], mark :: rest) else (mark :: sign ++ digits, rest')
    else ([], mark :: rest)

/-- The digits before the point: a zero, or digits that do not start with one. -/
def spanWhole : List Char → List Char × List Char
  | '0' :: rest => (['0'], rest)
  | text => text.span Char.isDigit

/-- A decimal number without a sign; nothing if there is none. -/
def spanDecimal (text : List Char) : List Char × List Char :=
  let (whole, rest) := spanWhole text
  let (fraction, rest) :=
    match rest with
    | '.' :: tail =>
      let (digits, tail) := tail.span Char.isDigit
      if whole.isEmpty && digits.isEmpty then ([], rest) else ('.' :: digits, tail)
    | rest => ([], rest)
  if whole.isEmpty && fraction.isEmpty then ([], text)
  else
    let (exponent, rest) := spanExponent rest
    (whole ++ fraction ++ exponent, rest)

/-- A hexadecimal number; nothing if there is none. -/
def spanHexadecimal (text : List Char) : List Char × List Char :=
  match text with
  | '0' :: mark :: rest =>
    if mark = 'x' || mark = 'X' then
      let (digits, rest) := rest.span fun c => (Json.hexDigit? c).isSome
      if digits.isEmpty then ([], text) else ('0' :: mark :: digits, rest)
    else ([], text)
  | text => ([], text)

/-- A fixed word; nothing if it does not come next. -/
def spanWord (word text : List Char) : List Char × List Char :=
  if word.isPrefixOf text then (word, text.drop word.length) else ([], text)

/-- The first reading that takes something. -/
def firstSpan (text : List Char) : List (List Char → List Char × List Char) → List Char × List Char
  | [] => ([], text)
  | span :: spans =>
    match span text with
    | ([], _) => firstSpan text spans
    | taken => taken

/-- A number: an optional sign, then digits or the name of a value that is no finite number. -/
def scanNumber (text : List Char) : Except (List Char) (List Char × List Char) :=
  let (sign, rest) :=
    match text with
    | '-' :: rest => (['-'], rest)
    | '+' :: rest => (['+'], rest)
    | rest => ([], rest)
  match firstSpan rest
    [spanHexadecimal, spanDecimal, spanWord "Infinity".toList, spanWord "NaN".toList] with
  | ([], rest) => .error rest
  | (token, rest) => .ok (sign ++ token, rest)

/-- The items of a list up to its closing bracket. -/
def scanItems (item : List Char → Except (List Char) (Node × List Char)) :
    Nat → List Char → Except (List Char) (List Node × List Char)
  | 0, text => .error text
  | steps + 1, text => do
    match ← nextToken text with
    | ']' :: rest => return ([], rest)
    | text =>
      let (value, rest) ← item text
      match ← nextToken rest with
      | ']' :: rest => return ([value], rest)
      | ',' :: rest =>
        let (values, rest) ← scanItems item steps rest
        return (value :: values, rest)
      | rest => throw rest

/-- The members of an object up to its closing bracket. -/
def scanMembers (value : List Char → Except (List Char) (Node × List Char)) :
    Nat → List Char → Except (List Char) (List (List Piece × Node) × List Char)
  | 0, text => .error text
  | steps + 1, text => do
    match ← nextToken text with
    | '\x7d' :: rest => return ([], rest)
    | text =>
      let (key, rest) ← scanKey text
      match ← nextToken rest with
      | ':' :: rest =>
        let (node, rest) ← value (← nextToken rest)
        match ← nextToken rest with
        | '\x7d' :: rest => return ([(key, node)], rest)
        | ',' :: rest =>
          let (members, rest) ← scanMembers value steps rest
          return ((key, node) :: members, rest)
        | rest => throw rest
      | rest => throw rest

/-- A value at the start of a text; the count bounds its nesting. -/
def scanNode : Nat → List Char → Except (List Char) (Node × List Char)
  | 0, text => .error text
  | depth + 1, text =>
    match text with
    | '[' :: rest => (scanItems (scanNode depth) (rest.length + 1) rest).map
        fun (items, rest) => (.list items, rest)
    | '\x7b' :: rest => (scanMembers (scanNode depth) (rest.length + 1) rest).map
        fun (members, rest) => (.object members, rest)
    | '"' :: rest => (scanPieces '"' 0 rest).map fun (pieces, rest) => (.text pieces, rest)
    | '\'' :: rest => (scanPieces '\'' 0 rest).map fun (pieces, rest) => (.text pieces, rest)
    | text =>
      let word (spelling : String) (node : Node) : Option (Node × List Char) :=
        match spanWord spelling.toList text with
        | ([], _) => none
        | (_, rest) => some (node, rest)
      match (word "null" .null).or ((word "true" (.flag true)).or (word "false" (.flag false))) with
      | some taken => .ok taken
      | none => (scanNumber text).map fun (token, rest) => (.number token, rest)

/-- A text that holds one value and nothing else but white space and comments. -/
def scanDocument (text : List Char) : Except (List Char) Node := do
  let (node, rest) ← scanNode (text.length + 1) (← nextToken text)
  match ← nextToken rest with
  | [] => return node
  | rest => throw rest

/-- Line and column of a remainder, both from one, in characters. -/
def placeOf (text rest : List Char) : Nat × Nat :=
  let taken := text.take (text.length - rest.length)
  (taken.count '\n' + 1, (taken.reverse.takeWhile (· ≠ '\n')).length + 1)

/-- The document that a text spells. -/
def Node.ofText (text : String) : Except Cause Node :=
  (scanDocument text.toList).mapError fun rest =>
    let place := placeOf text.toList rest
    .malformed place.1 place.2

end MonitorFeed.Json5
