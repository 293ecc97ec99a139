import MonitorFeed.Error
import MonitorFeed.Text.Utf8

/-!
Where files are found. What a path leads to is all that the rest of the library asks of a storage.
-/

namespace MonitorFeed

/-- What a path leads to. What is there need not be readable. -/
inductive Lookup where
  | missing (fault : IoFault)
  | directory
  | unreadable (fault : IoFault)
  | file (octets : List UInt8)

/-- What every path leads to. -/
abbrev Storage := String → Lookup

namespace Storage

/-- Whether a path leads anywhere. -/
def holds (storage : Storage) (path : String) : Bool :=
  match storage path with
  | .missing _ => false
  | .directory | .unreadable _ | .file _ => true

/-- The text of a file. -/
def readText (storage : Storage) (path : String) : Except IoFault String :=
  match storage path with
  | .missing fault | .unreadable fault => .error fault
  | .directory => .error .isDirectory
  | .file octets =>
    match Text.Utf8.decode? octets with
    | some text => .ok (String.ofList text)
    | none => .error .notText

end Storage

end MonitorFeed
