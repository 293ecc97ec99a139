import MonitorFeed.Payload.Document

/-!
The header that tells one delivery from another.
-/

namespace MonitorFeed

/-- Who delivers, in which version, under which token and at what time. -/
structure Context where
  appType : String
  agentId : String
  traceToken : String
  timeStamp : Timestamp
  version : String
deriving BEq

instance : Document Context where
  schema := .record "TracerContext"
    (.cons "appType" .required .text <|
     .cons "agentId" .required .text <|
     .cons "traceToken" .required .text <|
     .cons "timeStamp" .required .instant <|
     .cons "version" .required .text .nil)
    { build := fun (appType, agentId, traceToken, timeStamp, version, ()) =>
        ⟨appType, agentId, traceToken, timeStamp, version⟩
      split := fun context =>
        (context.appType, context.agentId, context.traceToken, context.timeStamp,
          context.version, ())
      build_split := fun _ => rfl
      split_build := fun _ => rfl }

/-- What is drawn anew for each delivery: a token that no other delivery has, and the time. -/
structure Draw where
  token : String
  time : Timestamp
deriving BEq

end MonitorFeed
