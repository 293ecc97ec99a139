import MonitorFeed.Decimal.Shortest
import MonitorFeed.Text.Quoted
import MonitorFeed.Timestamp

/-!
What can be wrong with a document that is well formed but not of its schema, and the wording of it.
-/

namespace MonitorFeed

/-- What stands in the document where something else is wanted. -/
inductive Found where
  | null
  | flag (value : Bool)
  | integer (value : Int)
  | real (value : Float)
  | text (value : String)
  | list
  | object

/-- The words in which two document formats differ. -/
structure Wording where
  nullWord : String
  realText : Float → String

/-- A difference between a document and its schema. -/
inductive Mismatch where
  | wrongType (found : Found) (wanted : String)
  | wrongValue (found : Found) (wanted : String)
  | wrongLength (count : Nat) (wanted : String)
  | unknownChoice (given : String) (names : List String)
  | missingMember (name : String)
  | duplicateMember (name : String)
  | instant (fault : Timestamp.Fault)

def Found.describe (wording : Wording) : Found → String
  | .null => wording.nullWord
  | .flag value => if value then "boolean \x60true\x60" else "boolean \x60false\x60"
  | .integer value => "integer \x60" ++ String.ofList (Decimal.integerText value) ++ "\x60"
  | .real value => "floating point \x60" ++ wording.realText value ++ "\x60"
  | .text value => "string " ++ Text.quoted value
  | .list => "sequence"
  | .object => "map"

/-- A name between grave accents. -/
def ticked (name : String) : String :=
  "\x60" ++ name ++ "\x60"

/-- The alternatives that would have been accepted. -/
def expectedNames : List String → String
  | [] => "there are no variants"
  | [only] => "expected " ++ ticked only
  | [first, second] => "expected " ++ ticked first ++ " or " ++ ticked second
  | names => "expected one of " ++ ", ".intercalate (names.map ticked)

def Mismatch.message (wording : Wording) : Mismatch → String
  | .wrongType found wanted =>
    "invalid type: " ++ found.describe wording ++ ", expected " ++ wanted
  | .wrongValue found wanted =>
    "invalid value: " ++ found.describe wording ++ ", expected " ++ wanted
  | .wrongLength count wanted =>
    "invalid length " ++ String.ofList (Decimal.naturalText count) ++ ", expected " ++ wanted
  | .unknownChoice given names =>
    "unknown variant " ++ ticked given ++ ", " ++ expectedNames names
  | .missingMember name => "missing field " ++ ticked name
  | .duplicateMember name => "duplicate field " ++ ticked name
  | .instant fault => fault.message

/-- What a record is called when something else stands in its place. -/
def recordWanted (label : String) : String := "struct " ++ label

/-- What a record written as a list is called when it is too short. -/
def recordLength (label : String) (count : Nat) : String :=
  "struct " ++ label ++ " with " ++ String.ofList (Decimal.naturalText count) ++
    (if count = 1 then " element" else " elements")

/-- What an instant is called. -/
def instantWanted : String := "epoch milliseconds as a string or integer"

end MonitorFeed
