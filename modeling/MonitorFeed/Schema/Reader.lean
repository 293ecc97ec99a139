import MonitorFeed.Schema.Basic
import MonitorFeed.Json.Skip
import MonitorFeed.Json.Tree

/-!
Reading JSON text as a value of a schema, in one pass from left to right: the first fault met
decides. A record is an object whose members come in any order, strange ones passed over, or a list
of its values; an alternative is its name, or an object of that one name with a null.
-/

namespace MonitorFeed

open Json

/-- A difference found after all that has been taken. -/
def differ {α : Type} (difference : Mismatch) (rest : List Char) : Except Fault α :=
  failHere (.mismatch difference) rest

/-- What a number is called. -/
def Json.Number.found : Number → Found
  | .natural value => .integer value
  | .negative magnitude => .integer (-(magnitude : Int))
  | .real value => .real value

/-- Refuses a value of another type. A scalar is read first and the fault stands after it; a list or
an object is not entered. -/
def refuse {α : Type} (wanted : String) (text : List Char) : Except Fault α :=
  let differs (found : Found) (rest : List Char) : Except Fault α :=
    differ (.wrongType found wanted) rest
  match text with
  | [] => failNext .expectedValue []
  | c :: rest =>
    if c = 'n' then word "ull".toList rest >>= differs .null
    else if c = 't' then word "rue".toList rest >>= differs (.flag true)
    else if c = 'f' then word "alse".toList rest >>= differs (.flag false)
    else if c = '-' then scanNumber true rest >>= fun (n, rest) => differs n.found rest
    else if c.isDigit then scanNumber false (c :: rest) >>= fun (n, rest) => differs n.found rest
    else if c = '"' then scanText rest >>= fun (value, rest) => differs (.text value) rest
    else if c = '[' then differs .list (c :: rest)
    else if c = '\x7b' then differs .object (c :: rest)
    else failNext .expectedValue (c :: rest)

/-- Finds the start of a value. -/
def atValue {α : Type} (read : Char → List Char → Except Fault α) (text : List Char) :
    Except Fault α :=
  match skipSpace text with
  | [] => failNext .endInValue []
  | c :: rest => read c rest

/-- A string. -/
def readText (wanted : String) : List Char → Except Fault (String × List Char) :=
  atValue fun c rest => if c = '"' then scanText rest else refuse wanted (c :: rest)

/-- A truth value. -/
def readFlag : List Char → Except Fault (Bool × List Char) :=
  atValue fun c rest =>
    if c = 't' then (word "rue".toList rest).map (true, ·)
    else if c = 'f' then (word "alse".toList rest).map (false, ·)
    else refuse "a boolean" (c :: rest)

/-- A number, handed to `accept` with what follows it. -/
def readNumber {α : Type} (wanted : String)
    (accept : Number → List Char → Except Fault (α × List Char)) :
    List Char → Except Fault (α × List Char) :=
  atValue fun c rest =>
    if c = '-' then scanNumber true rest >>= fun (n, rest) => accept n rest
    else if c.isDigit then scanNumber false (c :: rest) >>= fun (n, rest) => accept n rest
    else refuse wanted (c :: rest)

/-- An integer of a signed word. -/
def acceptInteger (number : Number) (rest : List Char) : Except Fault (Int64 × List Char) :=
  match number with
  | .natural n =>
    if n < 1 <<< 63 then .ok (Int64.ofInt n, rest)
    else differ (.wrongValue number.found "i64") rest
  | .negative m => .ok (Int64.ofInt (-(m : Int)), rest)
  | .real _ => differ (.wrongType number.found "i64") rest

/-- An integer of an unsigned word. -/
def acceptNatural (number : Number) (rest : List Char) : Except Fault (UInt64 × List Char) :=
  match number with
  | .natural n => .ok (UInt64.ofNat n, rest)
  | .negative _ => differ (.wrongValue number.found "u64") rest
  | .real _ => differ (.wrongType number.found "u64") rest

/-- The double of a number. -/
def Json.Number.toFloat : Number → Float
  | .natural n => (Decimal.nearest n 1).toFloat
  | .negative m => -(Decimal.nearest m 1).toFloat
  | .real x => x

/-- An instant that could be taken from a value, or the fault of it. -/
def acceptInstant (result : Except Timestamp.Fault Timestamp) (rest : List Char) :
    Except Fault (Timestamp × List Char) :=
  match result with
  | .ok instant => .ok (instant, rest)
  | .error fault => differ (.instant fault) rest

/-- An instant, as a string or an integer. -/
def readInstant : List Char → Except Fault (Timestamp × List Char) :=
  atValue fun c rest =>
    let number : Number × List Char → Except Fault (Timestamp × List Char) := fun (n, rest) =>
      match n with
      | .natural value => acceptInstant (Timestamp.ofInteger value) rest
      | .negative magnitude => acceptInstant (Timestamp.ofInteger (-(magnitude : Int))) rest
      | .real value => differ (.wrongType (.real value) instantWanted) rest
    if c = '"' then
      scanText rest >>= fun (value, rest) => acceptInstant (Timestamp.ofText value.toList) rest
    else if c = '-' then scanNumber true rest >>= number
    else if c.isDigit then scanNumber false (c :: rest) >>= number
    else if c = '[' then differ (.wrongType .list instantWanted) (abandonList rest)
    else if c = '\x7b' then differ (.wrongType .object instantWanted) (abandonObject rest)
    else refuse instantWanted (c :: rest)

/-- The name of an alternative, after its opening quote. -/
def readName {α : Type} (kind : Choice α) (text : List Char) : Except Fault (α × List Char) := do
  let (given, rest) ← scanText text
  match kind.find? given with
  | some value => return (value, rest)
  | none => differ (.unknownChoice given (Choice.names α)) rest

/-- A null. -/
def readNull : List Char → Except Fault (List Char) :=
  atValue fun c rest =>
    if c = 'n' then word "ull".toList rest else refuse "unit" (c :: rest)

/-- An alternative. -/
def readChoice {α : Type} (kind : Choice α) : List Char → Except Fault (α × List Char) :=
  atValue fun c rest =>
    if c = '"' then readName kind rest
    else if c = '\x7b' then
      match skipSpace rest with
      | [] => failNext .endInObject []
      | '"' :: rest => do
        let (value, rest) ← readName kind rest
        let rest ← readNull (← colon rest)
        match skipSpace rest with
        | [] => failHere .endInObject []
        | '\x7d' :: rest => return (value, rest)
        | rest => failHere .expectedValue rest
      | '\x7d' :: rest => failNext .expectedValue ('\x7d' :: rest)
      | rest => failNext .keyNotText rest
    else failNext .expectedValue (c :: rest)

/-- The content of an optional value, unless there is a null. -/
def readOptional {α : Type} (content : List Char → Except Fault (α × List Char))
    (text : List Char) : Except Fault (Option α × List Char) :=
  match skipSpace text with
  | 'n' :: rest => (word "ull".toList rest).map (none, ·)
  | text => (content text).map fun (value, rest) => (some value, rest)

/-- The items of a list. -/
def readList {α : Type} (item : List Char → Except Fault (α × List Char)) :
    List Char → Except Fault (List α × List Char) :=
  atValue fun c rest =>
    if c = '[' then do
      let (values, rest) ← scanItems item (rest.length + 1) true rest
      return (values, rest.drop 1)
    else refuse "a sequence" (c :: rest)

/-- The entries of a table; the last value of a key stays. -/
def readTable {α : Type} (entry : List Char → Except Fault (α × List Char)) :
    List Char → Except Fault (Table α × List Char) :=
  atValue fun c rest =>
    if c = '\x7b' then do
      let member (key : String) (text : List Char) (table : Table α) := do
        let (value, text) ← entry (← colon text)
        return (table.insert key value, text)
      let (table, rest) ← foldMembers member (rest.length + 1) true Table.empty rest
      return (table, rest.drop 1)
    else refuse "a map" (c :: rest)

mutual
/-- Reads one value and gives the remainder. -/
def Schema.scan : {α : Type} → Schema α → List Char → Except Fault (α × List Char)
  | _, .text, text => readText "a string" text
  | _, .path, text => readText "path string" text
  | _, .flag, text => readFlag text
  | _, .integer, text => readNumber "i64" acceptInteger text
  | _, .natural, text => readNumber "u64" acceptNatural text
  | _, .real, text => readNumber "f64" (fun n rest => .ok (n.toFloat, rest)) text
  | _, .instant, text => readInstant text
  | _, .choice kind, text => readChoice kind text
  | _, .optional content, text => readOptional (fun text => content.scan text) text
  | _, .list item, text => readList (fun text => item.scan text) text
  | _, .table entry, text => readTable (fun text => entry.scan text) text
  | _, .record label members view, text =>
    atValue (fun c rest =>
      if c = '[' then do
        let wanted := recordLength label members.names.length
        let (values, rest) ← members.scanRow wanted 0 true rest
        return (view.build values, ← closeList rest)
      else if c = '\x7b' then do
        let member (key : String) (text : List Char) (slots : _) := do
          match ← members.scanMember key text slots with
          | some read => return read
          | none => return (slots, ← skipValue (← colon text))
        let (slots, rest) ← foldMembers member (rest.length + 1) true members.unread rest
        match members.complete slots with
        | .ok values => return (view.build values, rest.drop 1)
        | .error name => differ (.missingMember name) (abandonObject rest)
      else refuse (recordWanted label) (c :: rest)) text

/-- Reads the value of a member into its place, if the record has a member of that name. -/
def Members.scanMember : {β σ : Type} → Members β σ → String → List Char → σ →
    Except Fault (Option (σ × List Char))
  | _, _, .nil, _, _, () => .ok none
  | _, _, .cons name _ content rest, key, text, (slot, slots) =>
    if key = name then
      if slot.isSome then differ (.duplicateMember name) (abandonObject text)
      else do
        let (value, text) ← content.scan (← colon text)
        return some ((some value, slots), text)
    else do
      let read ← rest.scanMember key text slots
      return read.map fun (slots, text) => ((slot, slots), text)

/-- Reads the values of a record that is written as a list. -/
def Members.scanRow : {β σ : Type} → Members β σ → String → Nat → Bool → List Char →
    Except Fault (β × List Char)
  | _, _, .nil, _, _, _, text => .ok ((), text)
  | _, _, .cons _ presence content rest, wanted, index, first, text => do
    let (more, text) ← nextItem first text
    if more then
      let (value, text) ← content.scan text
      let (values, text) ← rest.scanRow wanted (index + 1) false text
      return ((value, values), text)
    else
      match presence.absent? content with
      | none => differ (.wrongLength index wanted) (abandonList text)
      | some value =>
        let (values, text) ← rest.scanRow wanted (index + 1) false text
        return ((value, values), text)
end

/-- Reads a text that holds one value of the schema. -/
def Schema.read {α : Type} (schema : Schema α) (text : String) : Except Json.Error α :=
  readWhole (fun text => schema.scan text) text

/-- Reads a list of values; a null is the empty list. -/
def Schema.readMany {α : Type} (schema : Schema α) (text : String) : Except Json.Error (List α) :=
  (Schema.optional (.list schema)).read text |>.map (·.getD [])

end MonitorFeed
