import MonitorFeed.Json.Scanner

/-!
The loops over the items of a list and the members of an object. They take the reader of one item or
member and stop before the closing bracket.
-/

namespace MonitorFeed.Json

/-- Moves to the next item of a list; `false` stands before the closing bracket. -/
def nextItem (first : Bool) (text : List Char) : Except Fault (Bool × List Char) :=
  match skipSpace text with
  | [] => failNext .endInList []
  | c :: rest =>
    if c = ']' then .ok (false, c :: rest)
    else if first then .ok (true, c :: rest)
    else if c = ',' then
      match skipSpace rest with
      | [] => failNext .endInValue []
      | d :: rest =>
        if d = ']' then failNext .trailingComma (d :: rest) else .ok (true, d :: rest)
    else failNext .expectedListEnd (c :: rest)

/-- The items of a list, one after the other. -/
def scanItems {α : Type} (item : List Char → Except Fault (α × List Char)) :
    Nat → Bool → List Char → Except Fault (List α × List Char)
  | 0, _, text => failNext .endInList text
  | steps + 1, first, text => do
    let (more, text) ← nextItem first text
    if more then
      let (value, text) ← item text
      let (values, text) ← scanItems item steps false text
      return (value :: values, text)
    else return ([], text)

/-- Takes the bracket that closes a list. -/
def closeList (text : List Char) : Except Fault (List Char) :=
  match skipSpace text with
  | [] => failNext .endInList []
  | c :: rest =>
    if c = ']' then .ok rest
    else if c = ',' then
      match skipSpace rest with
      | ']' :: rest => failNext .trailingComma (']' :: rest)
      | rest => failNext .trailingCharacters rest
    else failNext .trailingCharacters (c :: rest)

/-- Where a reader stands that gives a list up and looks for its end. -/
def abandonList (text : List Char) : List Char :=
  match skipSpace text with
  | ']' :: rest => rest
  | ',' :: rest => skipSpace rest
  | text => text

/-- Where a reader stands that gives an object up and looks for its end. -/
def abandonObject (text : List Char) : List Char :=
  match skipSpace text with
  | '\x7d' :: rest => rest
  | text => text

/-- Reads a member's name after its opening quote. -/
def scanKey (text : List Char) : Except Fault (Option String × List Char) := do
  let (key, rest) ← scanText text
  return (some key, rest)

/-- Moves to the next member of an object and reads its name; no name stands before the closing
bracket. -/
def nextKey (first : Bool) (text : List Char) : Except Fault (Option String × List Char) :=
  match skipSpace text with
  | [] => failNext .endInObject []
  | c :: rest =>
    if c = '\x7d' then .ok (none, c :: rest)
    else if first then
      if c = '"' then scanKey rest else failNext .keyNotText (c :: rest)
    else if c = ',' then
      match skipSpace rest with
      | [] => failNext .endInValue []
      | d :: rest =>
        if d = '"' then scanKey rest
        else if d = '\x7d' then failNext .trailingComma (d :: rest)
        else failNext .keyNotText (d :: rest)
    else failNext .expectedObjectEnd (c :: rest)

/-- Takes the colon between a name and its value. -/
def colon (text : List Char) : Except Fault (List Char) :=
  match skipSpace text with
  | [] => failNext .endInObject []
  | c :: rest => if c = ':' then .ok rest else failNext .expectedColon (c :: rest)

/-- The members of an object, each handed to `member` with its name and what follows it. -/
def foldMembers {σ : Type} (member : String → List Char → σ → Except Fault (σ × List Char)) :
    Nat → Bool → σ → List Char → Except Fault (σ × List Char)
  | 0, _, _, text => failNext .endInObject text
  | steps + 1, first, state, text => do
    match ← nextKey first text with
    | (none, text) => return (state, text)
    | (some key, text) =>
      let (state, text) ← member key text state
      foldMembers member steps false state text

end MonitorFeed.Json
