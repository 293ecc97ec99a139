import MonitorFeed.Error
import MonitorFeed.Text.Utf8

/-!
Where commands write what they have to say. An outlet keeps what it accepts, also of a text that it
refuses in part.
-/

namespace MonitorFeed

/-- What has been written, and how many octets more are accepted, with the fault of going beyond;
an outlet without such a limit accepts everything. -/
structure Outlet where
  written : List UInt8
  limit : Option (Nat × IoFault)
deriving Repr, DecidableEq

namespace Outlet

/-- An outlet that accepts everything. -/
def unlimited : Outlet := ⟨[], none⟩

/-- An outlet that accepts a number of octets. -/
def limited (room : Nat) (fault : IoFault) : Outlet := ⟨[], some (room, fault)⟩

/-- Writes octets; what does not fit is a fault, and what fits stays. -/
def write (outlet : Outlet) (octets : List UInt8) : Except IoFault Unit × Outlet :=
  match outlet.limit with
  | none => (.ok (), ⟨outlet.written ++ octets, none⟩)
  | some (room, fault) =>
    (if octets.length ≤ room then .ok () else .error fault,
      ⟨outlet.written ++ octets.take room, some (room - octets.length, fault)⟩)

/-- Writes a text and ends the line. -/
def writeLine (outlet : Outlet) (text : String) : Except IoFault Unit × Outlet :=
  outlet.write (Text.Utf8.encode (text.toList ++ ['\n']))

/-- What has been written as a text. -/
def text (outlet : Outlet) : String :=
  String.ofList (Text.Utf8.decodeLossy outlet.written)

end Outlet

end MonitorFeed
