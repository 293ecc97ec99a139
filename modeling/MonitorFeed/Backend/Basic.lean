import MonitorFeed.Backend.Operation
import MonitorFeed.Log.Event
import MonitorFeed.Payload.Context
import MonitorFeed.Storage

/-!
What surrounds a client: something that answers its calls, the files it reads, and the tokens and
times that are drawn for its deliveries. A run of a client is a function of its surroundings, so two
runs can be compared.
-/

namespace MonitorFeed

/-- How a call ends. An operation that returns a document answers with its text, the others with the
empty text; a call can also fail, or crash the worker that carries it. -/
inductive Reply where
  | answered (text : String)
  | failed (fault : ClientError)
  | crashed (report : String)
deriving Repr, DecidableEq

/-- A reply, what was logged before it, and the state that the call leaves. -/
structure Response (σ : Type) where
  reply : Reply
  events : List Event
  state : σ

/-- What answers the calls of a client. -/
abbrev Backend (σ : Type) := Call → σ → Response σ

/-- The surroundings of a client. Every call may change what the files hold. -/
structure Surroundings (σ : Type) where
  respond : Backend σ
  storage : σ → Storage
  draw : Nat → Draw

/-- How far a run has come: the state of the surroundings, the calls made with their replies, the
events logged, and the number of draws made. -/
structure Progress (σ : Type) where
  state : σ
  calls : List (Call × Reply)
  log : List Event
  draws : Nat

/-- The progress of a run that has done nothing. -/
def Progress.start {σ : Type} (state : σ) : Progress σ :=
  ⟨state, [], [], 0⟩

/-- A part of a run. -/
abbrev Session (σ : Type) := StateM (Progress σ)

namespace Session

variable {σ : Type}

/-- Logs an event. -/
def log (event : Event) : Session σ Unit :=
  modify fun progress => { progress with log := progress.log ++ [event] }

/-- Makes a call. -/
def call (around : Surroundings σ) (call : Call) : Session σ Reply := do
  let progress ← get
  let response := around.respond call progress.state
  set { progress with
    state := response.state
    calls := progress.calls ++ [(call, response.reply)]
    log := progress.log ++ response.events }
  return response.reply

/-- The files as they are now. -/
def files (around : Surroundings σ) : Session σ Storage :=
  return around.storage (← get).state

/-- A draw that no other one of the run repeats. -/
def draw (around : Surroundings σ) : Session σ Draw := do
  let progress ← get
  set { progress with draws := progress.draws + 1 }
  return around.draw progress.draws

end Session

end MonitorFeed
