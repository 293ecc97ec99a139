import MonitorFeed.Table

/-!
JSON documents as trees.
-/

namespace MonitorFeed

/-- A JSON document. The members of an object stand in the order of the text. -/
inductive Json where
  | null
  | flag (value : Bool)
  | integer (value : Int)
  | real (value : Float)
  | string (value : String)
  | list (items : List Json)
  | object (members : List (String × Json))

namespace Json

instance : Inhabited Json := ⟨null⟩

end Json

end MonitorFeed
