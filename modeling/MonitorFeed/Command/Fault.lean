import MonitorFeed.Decimal.Integer
import MonitorFeed.Error

/-!
How a command fails, and how the failure is reported.
-/

namespace MonitorFeed

/-- Why a command fails. -/
inductive CommandFault where
  | settings (path : String) (fault : ClientError)
  | client (fault : ClientError)
  | output (fault : IoFault)
  | notHere
deriving Repr, DecidableEq

namespace CommandFault

/-- A fault of the client and what is behind it. -/
def clientCauses (fault : ClientError) : List String :=
  fault.message :: fault.cause?.toList

/-- What went wrong, from the surface down. -/
def causes : CommandFault → List String
  | .settings path fault => ("loading configuration from " ++ path) :: clientCauses fault
  | .client fault => clientCauses fault
  | .output fault => [fault.message]
  | .notHere => ["\x60run\x60 is driven by the feeder runner"]

/-- What went wrong, on the surface. -/
def message : CommandFault → String
  | .settings path _ => "loading configuration from " ++ path
  | .client fault => fault.message
  | .output fault => fault.message
  | .notHere => "\x60run\x60 is driven by the feeder runner"

/-- Begins every line of a text but the first with spaces. -/
def indent (width : Nat) (text : String) : String :=
  String.ofList (text.toList.flatMap fun c =>
    if c = '\n' then '\n' :: List.replicate width ' ' else [c])

/-- A cause on lines of its own. -/
def reportCause (number : Option Nat) (cause : String) : String :=
  match number with
  | none => "\n    " ++ indent 4 cause
  | some n =>
    let digits := String.ofList (Decimal.naturalText n)
    "\n" ++ String.ofList (List.replicate (5 - digits.length) ' ') ++ digits ++ ": " ++
      indent 7 cause

/-- The report of a failure with its causes, numbered if there are several. -/
def report (fault : CommandFault) : String :=
  match fault.causes with
  | [] => ""
  | [surface] => "Error: " ++ surface ++ "\n"
  | [surface, cause] =>
    "Error: " ++ surface ++ "\n\nCaused by:" ++ reportCause none cause ++ "\n"
  | surface :: causes =>
    "Error: " ++ surface ++ "\n\nCaused by:" ++
      String.join (causes.mapIdx fun n cause => reportCause (some n) cause) ++ "\n"

end CommandFault

end MonitorFeed
