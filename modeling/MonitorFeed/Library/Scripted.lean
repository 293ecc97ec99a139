import MonitorFeed.Library.Binding

/-!
A library that does as it is told and remembers what it is given.
-/

namespace MonitorFeed.Library

/-- What a function is to do: its status, the message that it leaves in any case, and the text that
it returns when the status is not zero. -/
structure Script where
  status : UInt8
  message : List UInt8
  output : Option (List UInt8)
deriving Repr, DecidableEq

/-- A function that succeeds. -/
def Script.success : Script := ⟨1, [], none⟩

/-- A scripted library: the script of each function, and what the functions were given. -/
structure Scripted where
  scripts : Operation → Script
  received : List (Operation × Option (List UInt8))

namespace Scripted

/-- A library whose every function succeeds. -/
def fresh : Scripted := ⟨fun _ => .success, []⟩

/-- Sets the script of a function. -/
def set (library : Scripted) (operation : Operation) (script : Script) : Scripted :=
  { library with
    scripts := fun asked => if asked = operation then script else library.scripts asked }

/-- The text that a function returns when its script names none: a test returns what it was given,
and a listing is empty. -/
def standardOutput (operation : Operation) (input : Option (List UInt8)) : List UInt8 :=
  match operation, input with
  | .test, some octets => octets
  | _, _ => "[]".toUTF8.toList

/-- What a function gives back. -/
def result (script : Script) (operation : Operation) (input : Option (List UInt8)) : Return :=
  match operation with
  | .list | .test =>
    if script.status = 0 then .text none
    else .text (some (script.output.getD (standardOutput operation input)))
  | .connect | .disconnect | .send | .synchronize => .status script.status

/-- The functions of a scripted library. -/
def functions : Functions Scripted := fun operation input library =>
  let script := library.scripts operation
  ⟨result script operation input, script.message,
    { library with received := library.received ++ [(operation, input)] }⟩

end Scripted

end MonitorFeed.Library
