import MonitorFeed.Schema.Basic
import MonitorFeed.Json.Writer

/-!
The document of a value: what its schema makes of it. A number that is not finite has no document of
its own and becomes a null.
-/

namespace MonitorFeed

mutual
/-- The document of a value. -/
def Schema.toJson : {α : Type} → Schema α → α → Json
  | _, .text, value => .string value
  | _, .path, value => .string value
  | _, .flag, value => .flag value
  | _, .integer, value => .integer value.toInt
  | _, .natural, value => .integer value.toNat
  | _, .real, value => if Decimal.isFinite value then .real value else .null
  | _, .instant, value => .string (String.ofList value.text)
  | _, .choice kind, value => .string (kind.name value)
  | _, .optional _, none => .null
  | _, .optional content, some value => content.toJson value
  | _, .list item, values => .list (values.map fun value => item.toJson value)
  | _, .table entry, table => .object (table.entries.map fun (key, value) => (key, entry.toJson value))
  | _, .record _ members view, value => .object (members.toJson (view.split value))

/-- The members of a record that are written, in order. -/
def Members.toJson : {β σ : Type} → Members β σ → β → List (String × Json)
  | _, _, .nil, () => []
  | _, _, .cons name presence content rest, (value, values) =>
    if presence.omits content value then rest.toJson values
    else (name, content.toJson value) :: rest.toJson values
end

/-- The text of a value on one line. -/
def Schema.write {α : Type} (schema : Schema α) (value : α) : String :=
  String.ofList (schema.toJson value).compact

/-- The text of a value over several lines. -/
def Schema.writePretty {α : Type} (schema : Schema α) (value : α) : String :=
  String.ofList ((schema.toJson value).pretty 0)

end MonitorFeed
