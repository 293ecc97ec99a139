import MonitorFeed.Backend.StandIn
import MonitorFeed.FileTree

/-!
Rehearsals: a stand-in and a tree of files, both of which change before given calls.
-/

namespace MonitorFeed

/-- What happens before a call. -/
inductive Incident where
  | fail (operation : Operation) (text : String)
  | recover (operation : Operation)
  | write (path : String) (octets : List UInt8)
  | delete (path : String)
  | crash (report : String)
deriving Repr

/-- A rehearsal in progress: the stand-in, the files, the number of calls made, and what is to
happen before the call of which number. -/
structure Rehearsal where
  double : StandIn
  files : FileTree
  count : Nat
  plan : List (Nat × Incident)

namespace Rehearsal

/-- Lets incidents happen one after the other. A crash ends the call, and what was to happen after
it does not. -/
def happen (rehearsal : Rehearsal) : List Incident → Option String × Rehearsal
  | [] => (none, rehearsal)
  | .fail operation text :: rest =>
    happen { rehearsal with double := rehearsal.double.fail operation text } rest
  | .recover operation :: rest =>
    happen { rehearsal with double := rehearsal.double.recover operation } rest
  | .write path octets :: rest =>
    happen { rehearsal with files := rehearsal.files.write path octets } rest
  | .delete path :: rest => happen { rehearsal with files := rehearsal.files.remove path } rest
  | .crash report :: _ => (some report, rehearsal)

/-- What is to happen before the next call. -/
def due (rehearsal : Rehearsal) : List Incident :=
  (rehearsal.plan.filter (·.1 = rehearsal.count)).map (·.2)

/-- A call: first what is due, then the answer of the stand-in, which does not see a call that
crashes. -/
def respond : Backend Rehearsal := fun call rehearsal =>
  match { rehearsal with count := rehearsal.count + 1 }.happen rehearsal.due with
  | (some report, rehearsal) => ⟨.crashed report, [], rehearsal⟩
  | (none, rehearsal) =>
    ⟨rehearsal.double.reply call, [],
      { rehearsal with double := rehearsal.double.remember call }⟩

/-- The surroundings of a rehearsal. -/
def surroundings (draw : Nat → Draw) : Surroundings Rehearsal where
  respond := respond
  storage rehearsal := rehearsal.files.storage
  draw := draw

end Rehearsal

end MonitorFeed
