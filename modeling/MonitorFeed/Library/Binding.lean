import MonitorFeed.Backend.Basic
import MonitorFeed.Library.Buffer

/-!
Calls into a shared library, in three steps: a call is prepared with a buffer of its own, enters the
library, which runs one call at a time, and is concluded from what came back. Only the second step
touches what calls share.
-/

namespace MonitorFeed.Library

/-- What a library function gives back: a status that is zero on failure, or a text that is missing
on failure. -/
inductive Return where
  | status (code : UInt8)
  | text (octets : Option (List UInt8))
deriving Repr, DecidableEq

/-- How a library function ends: what it gives back, the message that it copies into the buffer of
the call, and the state that it leaves. -/
structure Exit (σ : Type) where
  result : Return
  message : List UInt8
  state : σ

/-- The functions of a library. Texts come without their end marks. -/
abbrev Functions (σ : Type) := Operation → Option (List UInt8) → σ → Exit σ

/-- A call that is ready to enter the library. -/
structure Prepared where
  operation : Operation
  input : Option (List UInt8)
  buffer : MessageBuffer

/-- Whether a text can be passed on: the end mark must not occur in it. -/
def passable (text : String) : Bool :=
  !text.toList.contains '\x00'

/-- Prepares a call; one with a text that cannot be passed on does not enter the library. -/
def prepare (call : Call) : Except ClientError Prepared :=
  match call.document? with
  | none => .ok ⟨call.operation, none, .blank⟩
  | some text =>
    if passable text then
      .ok ⟨call.operation, some (Text.Utf8.encode text.toList), .blank⟩
    else .error (.invalidText call.operation.symbol)

/-- What is logged when a call enters the library. -/
def entry (prepared : Prepared) : Event :=
  ⟨.trace, .library, "Native call",
    ("operation", .text prepared.operation.symbol) ::
      match prepared.input with
      | none => []
      | some octets => [("bytes", .count octets.length)]⟩

/-- What a call brings back from the library. -/
structure Returned where
  operation : Operation
  result : Return
  buffer : MessageBuffer

/-- Enters the library. -/
def enter {σ : Type} (functions : Functions σ) (prepared : Prepared) (state : σ) : Returned × σ :=
  let exit := functions prepared.operation prepared.input state
  (⟨prepared.operation, exit.result, prepared.buffer.copy exit.message⟩, exit.state)

/-- Takes over a text of the library. -/
def acceptText (operation : Operation) (octets : List UInt8) : Reply :=
  match Text.Utf8.decode? (MessageBuffer.untilMark octets) with
  | some text => .answered (String.ofList text)
  | none => .failed (.invalidText operation.symbol)

/-- Concludes a call. -/
def conclude (returned : Returned) : Reply :=
  let failure : Reply := .failed (.refused returned.operation.symbol returned.buffer.message)
  match returned.result with
  | .status code => if code = 0 then failure else .answered ""
  | .text none => failure
  | .text (some octets) => acceptText returned.operation octets

/-- The library as what answers the calls of a client. -/
def respond {σ : Type} (functions : Functions σ) : Backend σ := fun call state =>
  match prepare call with
  | .error fault => ⟨.failed fault, [], state⟩
  | .ok prepared =>
    let (returned, state) := enter functions prepared state
    ⟨conclude returned, [entry prepared], state⟩

end MonitorFeed.Library
