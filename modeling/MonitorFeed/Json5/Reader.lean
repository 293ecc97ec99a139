import MonitorFeed.Schema.Basic
import MonitorFeed.Json5.Grammar
import MonitorFeed.Json5.Number

/-!
Reading a JSON5 document as a value of a schema, members in the order in which they are written.
-/

namespace MonitorFeed

open Json5

namespace Json5

/-- A difference between a document and its schema. -/
def differ {α : Type} (difference : Mismatch) : Except Cause α :=
  .error (.mismatch difference)

/-- Refuses a value of another type; a scalar that cannot be read is at fault itself. -/
def refuse {α : Type} (wanted : String) (node : Node) : Except Cause α := do
  differ (.wrongType (← node.found) wanted)

/-- A string. -/
def readText (wanted : String) : Node → Except Cause String
  | .text pieces => textOf pieces
  | node => refuse wanted node

/-- A truth value. -/
def readFlag : Node → Except Cause Bool
  | .flag value => .ok value
  | node => refuse "a boolean" node

/-- The fault of an instant as a fault of its document. -/
def acceptInstant : Except Timestamp.Fault Timestamp → Except Cause Timestamp
  | .ok instant => .ok instant
  | .error fault => differ (.instant fault)

/-- An instant, as a string or an integer. -/
def readInstant (node : Node) : Except Cause Timestamp := do
  match ← node.found with
  | .integer value => acceptInstant (Timestamp.ofInteger value)
  | .text value => acceptInstant (Timestamp.ofText value.toList)
  | found => differ (.wrongType found instantWanted)

/-- The alternative of a name. -/
def readName {α : Type} (kind : Choice α) (pieces : List Piece) : Except Cause α := do
  let given ← textOf pieces
  match kind.find? given with
  | some value => return value
  | none => differ (.unknownChoice given (Choice.names α))

/-- An alternative: its name, or an object whose first member has that name. -/
def readChoice {α : Type} (kind : Choice α) : Node → Except Cause α
  | .text pieces => readName kind pieces
  | .object [] => .error .emptyChoice
  | .object ((key, _) :: _) => readName kind key
  | _ => .error .noChoice

/-- The content of an optional value, unless there is a null. -/
def readOptional {α : Type} (content : Node → Except Cause α) : Node → Except Cause (Option α)
  | .null => .ok none
  | node => (content node).map some

/-- The items of a list. -/
def readList {α : Type} (item : Node → Except Cause α) : Node → Except Cause (List α)
  | .list items => items.mapM item
  | node => refuse "a sequence" node

/-- The entries of a table; the last value of a key stays. -/
def readTable {α : Type} (entry : Node → Except Cause α) : Node → Except Cause (Table α)
  | .object members => members.foldlM (fun table (key, node) => do
      let key ← textOf key
      return table.insert key (← entry node)) Table.empty
  | node => refuse "a map" node

end Json5

mutual
/-- The value that a document holds. -/
def Schema.ofNode : {α : Type} → Schema α → Node → Except Cause α
  | _, .text, node => readText "a string" node
  | _, .path, node => readText "path string" node
  | _, .flag, node => readFlag node
  | _, .integer, node =>
    node.double.map fun value =>
      Int64.ofInt (value.truncate Int64.minValue.toInt Int64.maxValue.toInt)
  | _, .natural, node =>
    node.double.map fun value => UInt64.ofNat (value.truncate 0 (UInt64.size - 1)).toNat
  | _, .real, node => node.double.map (·.toFloat)
  | _, .instant, node => readInstant node
  | _, .choice kind, node => readChoice kind node
  | _, .optional content, node => readOptional (fun node => content.ofNode node) node
  | _, .list item, node => readList (fun node => item.ofNode node) node
  | _, .table entry, node => readTable (fun node => entry.ofNode node) node
  | _, .record label members view, node =>
    match node with
    | .list items =>
      (members.ofRow (recordLength label members.names.length) 0 items).map view.build
    | .object entries => do
      let member (slots : _) (entry : List Piece × Node) : Except Cause _ := do
        match ← members.ofMember (← textOf entry.1) entry.2 slots with
        | some slots => return slots
        | none =>
          entry.2.check
          return slots
      match members.complete (← entries.foldlM member members.unread) with
      | .ok values => return view.build values
      | .error name => differ (.missingMember name)
    | node => refuse (recordWanted label) node

/-- Reads the value of a member into its place, if the record has a member of that name. -/
def Members.ofMember : {β σ : Type} → Members β σ → String → Node → σ → Except Cause (Option σ)
  | _, _, .nil, _, _, () => .ok none
  | _, _, .cons name _ content rest, key, node, (slot, slots) =>
    if key = name then
      if slot.isSome then differ (.duplicateMember name)
      else (content.ofNode node).map fun value => some (some value, slots)
    else (rest.ofMember key node slots).map fun read => read.map fun slots => (slot, slots)

/-- Reads the values of a record that is written as a list; further items count for nothing. -/
def Members.ofRow : {β σ : Type} → Members β σ → String → Nat → List Node → Except Cause β
  | _, _, .nil, _, _, _ => .ok ()
  | _, _, .cons _ _ content rest, wanted, index, node :: nodes => do
    let value ← content.ofNode node
    return (value, ← rest.ofRow wanted (index + 1) nodes)
  | _, _, .cons _ presence content rest, wanted, index, [] => do
    match presence.absent? content with
    | none => differ (.wrongLength index wanted)
    | some value => return (value, ← rest.ofRow wanted (index + 1) [])
end

/-- Reads a JSON5 text that holds one value of the schema. -/
def Schema.readJson5 {α : Type} (schema : Schema α) (text : String) : Except Cause α :=
  Node.ofText text >>= schema.ofNode

end MonitorFeed
