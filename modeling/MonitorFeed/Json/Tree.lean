import MonitorFeed.Json.Basic
import MonitorFeed.Json.Number
import MonitorFeed.Json.Sequence

/-!
Reading a document of any shape as a tree. Objects come out in the order of their keys with the last
value of each, and nesting is limited.
-/

namespace MonitorFeed.Json

/-- The tree of a number. -/
def Number.tree : Number → Json
  | .natural value => .integer value
  | .negative magnitude => .integer (-(magnitude : Int))
  | .real value => .real value

/-- One level less of nesting is left than the number of brackets that may open. -/
def scanTree : Nat → List Char → Except Fault (Json × List Char)
  | depth, text =>
    match skipSpace text with
    | [] => failNext .endInValue []
    | c :: rest =>
      if c = 'n' then (word "ull".toList rest).map (Json.null, ·)
      else if c = 't' then (word "rue".toList rest).map (Json.flag true, ·)
      else if c = 'f' then (word "alse".toList rest).map (Json.flag false, ·)
      else if c = '-' then (scanNumber true rest).map fun (n, rest) => (n.tree, rest)
      else if c.isDigit then (scanNumber false (c :: rest)).map fun (n, rest) => (n.tree, rest)
      else if c = '"' then (scanText rest).map fun (value, rest) => (Json.string value, rest)
      else if c = '[' then
        match depth with
        | 0 => failNext .tooDeep (c :: rest)
        | depth + 1 => do
          let (items, rest) ← scanItems (scanTree depth) (rest.length + 1) true rest
          return (.list items, rest.drop 1)
      else if c = '\x7b' then
        match depth with
        | 0 => failNext .tooDeep (c :: rest)
        | depth + 1 => do
          let member (key : String) (text : List Char) (entries : List (String × Json)) := do
            let (value, text) ← scanTree depth (← colon text)
            return (insertEntry key value entries, text)
          let (entries, rest) ← foldMembers member (rest.length + 1) true [] rest
          return (.object entries, rest.drop 1)
      else failNext .expectedValue (c :: rest)

/-- The number of brackets that may be open at once. -/
def nestingLimit : Nat := 127

/-- Nothing but white space may follow a document. -/
def finish {α : Type} (value : α) (rest : List Char) : Except Fault α :=
  match skipSpace rest with
  | [] => .ok value
  | rest => failNext .trailingCharacters rest

/-- Reads a whole text with a reader of one value. -/
def readWhole {α : Type} (scan : List Char → Except Fault (α × List Char)) (text : String) :
    Except Error α :=
  let chars := text.toList
  (scan chars >>= fun (value, rest) => finish value rest).mapError (·.locate chars)

/-- Reads a document of any shape. -/
def ofText (text : String) : Except Error Json :=
  readWhole (scanTree nestingLimit) text

end MonitorFeed.Json
