/-!
The six operations of the pipeline, and calls of them with their documents.
-/

namespace MonitorFeed

/-- What the pipeline can be asked to do. -/
inductive Operation where
  | connect
  | disconnect
  | send
  | list
  | synchronize
  | test
deriving Repr, DecidableEq

namespace Operation

/-- Every operation. -/
def all : List Operation :=
  [.connect, .disconnect, .send, .list, .synchronize, .test]

/-- The name under which a library exports an operation. -/
def symbol : Operation → String
  | .connect => "Connect"
  | .disconnect => "Disconnect"
  | .send => "SendResourcesWithMetrics"
  | .list => "ListMetrics"
  | .synchronize => "SynchronizeInventory"
  | .test => "TestMonitoredResource"

/-- The operation that is exported under a name. -/
def ofSymbol? (name : String) : Option Operation :=
  all.find? (·.symbol == name)

end Operation

/-- A call of an operation with the document it takes, if it takes one. -/
inductive Call where
  | connect (credentials : String)
  | disconnect
  | send (report : String)
  | list
  | synchronize (inventory : String)
  | test (resource : String)
deriving Repr, DecidableEq

namespace Call

def operation : Call → Operation
  | .connect _ => .connect
  | .disconnect => .disconnect
  | .send _ => .send
  | .list => .list
  | .synchronize _ => .synchronize
  | .test _ => .test

/-- The document that goes with a call. -/
def document? : Call → Option String
  | .connect text | .send text | .synchronize text | .test text => some text
  | .disconnect | .list => none

/-- The call of an operation with a text, which counts only where a document is taken. -/
def ofText (operation : Operation) (text : String) : Call :=
  match operation with
  | .connect => .connect text
  | .disconnect => .disconnect
  | .send => .send text
  | .list => .list
  | .synchronize => .synchronize text
  | .test => .test text

end Call

end MonitorFeed
