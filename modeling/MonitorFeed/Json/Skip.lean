import MonitorFeed.Json.Number

/-!
Passing over a value that nobody asked for. Only its syntax is checked: numbers may be of any size,
surrogates need no partner, and nesting has no limit.
-/

namespace MonitorFeed.Json

/-- Passes over the items of a list and its closing bracket. -/
def skipItems (item : List Char → Except Fault (List Char)) :
    Nat → Bool → List Char → Except Fault (List Char)
  | 0, _, text => failNext .endInList text
  | steps + 1, first, text =>
    match skipSpace text with
    | [] => failNext .endInList []
    | c :: rest =>
      if c = ']' then .ok rest
      else if first then item (c :: rest) >>= skipItems item steps false
      else if c = ',' then item rest >>= skipItems item steps false
      else failNext .expectedListEnd (c :: rest)

/-- Passes over one member of an object. -/
def skipMember (value : List Char → Except Fault (List Char)) (text : List Char) :
    Except Fault (List Char) :=
  match skipSpace text with
  | [] => failNext .endInObject []
  | c :: rest =>
    if c = '"' then do
      match skipSpace (← skipText rest) with
      | [] => failNext .endInObject []
      | d :: rest => if d = ':' then value rest else failNext .expectedColon (d :: rest)
    else failNext .keyNotText (c :: rest)

/-- Passes over the members of an object and its closing bracket. -/
def skipMembers (value : List Char → Except Fault (List Char)) :
    Nat → Bool → List Char → Except Fault (List Char)
  | 0, _, text => failNext .endInObject text
  | steps + 1, first, text =>
    match skipSpace text with
    | [] => failNext .endInObject []
    | c :: rest =>
      if c = '\x7d' then .ok rest
      else if first then skipMember value (c :: rest) >>= skipMembers value steps false
      else if c = ',' then skipMember value rest >>= skipMembers value steps false
      else failNext .expectedObjectEnd (c :: rest)

/-- Passes over one value; the count bounds its nesting, and the items at each level. -/
def skipNested : Nat → List Char → Except Fault (List Char)
  | 0, text => failNext .endInValue text
  | depth + 1, text =>
    match skipSpace text with
    | [] => failNext .endInValue []
    | c :: rest =>
      if c = 'n' then word "ull".toList rest
      else if c = 't' then word "rue".toList rest
      else if c = 'f' then word "alse".toList rest
      else if c = '-' then skipNumber rest
      else if c.isDigit then skipNumber (c :: rest)
      else if c = '"' then skipText rest
      else if c = '[' then skipItems (skipNested depth) depth true rest
      else if c = '\x7b' then skipMembers (skipNested depth) depth true rest
      else failNext .expectedValue (c :: rest)

/-- Passes over one value. No value is nested deeper than its text is long, and what is inside it has
fewer items than are left. -/
def skipValue (text : List Char) : Except Fault (List Char) :=
  skipNested (text.length + 1) text

end MonitorFeed.Json
