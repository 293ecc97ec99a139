import MonitorFeed.Payload.Document

/-!
Measured values, each tagged with its kind.
-/

namespace MonitorFeed

/-- What a value is a value of. -/
inductive ValueKind where
  | integer
  | double
  | text
  | boolean
  | time
  | unspecified
deriving BEq, DecidableEq

instance : Choice ValueKind where
  all := [.integer, .double, .text, .boolean, .time, .unspecified]
  name
    | .integer => "IntegerType"
    | .double => "DoubleType"
    | .text => "StringType"
    | .boolean => "BooleanType"
    | .time => "TimeType"
    | .unspecified => "UnspecifiedType"
  distinct := by intro value; cases value <;> decide

instance : Document ValueKind where
  schema := .choice inferInstance

/-- A value with its kind; a value that was built holds something in the place of its kind only. -/
structure TypedValue where
  kind : ValueKind
  boolean : Option Bool
  double : Option Float
  integer : Option Int64
  text : Option String
  time : Option Timestamp
deriving BEq

namespace TypedValue

instance : Document TypedValue where
  schema := .record "TypedValue"
    (.cons "valueType" .required (.choice inferInstance) <|
     .cons "boolValue" .sparse (.optional .flag) <|
     .cons "doubleValue" .sparse (.optional .real) <|
     .cons "integerValue" .sparse (.optional .integer) <|
     .cons "stringValue" .sparse (.optional .text) <|
     .cons "timeValue" .sparse (.optional .instant) .nil)
    { build := fun (kind, boolean, double, integer, text, time, ()) =>
        ⟨kind, boolean, double, integer, text, time⟩
      split := fun value =>
        (value.kind, value.boolean, value.double, value.integer, value.text, value.time, ())
      build_split := fun _ => rfl
      split_build := fun _ => rfl }

/-- A kind without a value. -/
def bare (kind : ValueKind) : TypedValue :=
  ⟨kind, none, none, none, none, none⟩

def ofInteger (value : Int64) : TypedValue :=
  { bare .integer with integer := some value }

def ofDouble (value : Float) : TypedValue :=
  { bare .double with double := some value }

def ofText (value : String) : TypedValue :=
  { bare .text with text := some value }

def ofBoolean (value : Bool) : TypedValue :=
  { bare .boolean with boolean := some value }

def ofTime (value : Timestamp) : TypedValue :=
  { bare .time with time := some value }

end TypedValue

instance : Document Timestamp where
  schema := .instant

end MonitorFeed
