import MonitorFeed.Schema.Reader
import MonitorFeed.Schema.Writer

/-!
Types with a document form, and the texts that carry their values.
-/

namespace MonitorFeed

/-- A type whose values travel as documents of one schema. -/
class Document (α : Type) where
  schema : Schema α

namespace Document

variable {α : Type} [Document α]

/-- The text that carries a value. -/
def encode (value : α) : String :=
  (schema : Schema α).write value

/-- The text of a value for a human reader. -/
def encodePretty (value : α) : String :=
  (schema : Schema α).writePretty value

/-- The text of a list of values for a human reader. -/
def encodeListPretty (values : List α) : String :=
  (Schema.list (schema : Schema α)).writePretty values

/-- The value that a text carries. -/
def decode (text : String) : Except Json.Error α :=
  (schema : Schema α).read text

/-- The values that a text carries; the word `null` is a list of none. -/
def decodeList (text : String) : Except Json.Error (List α) :=
  (schema : Schema α).readMany text

end Document

end MonitorFeed
