import MonitorFeed.Backend.Operation
import MonitorFeed.Log.Event
import MonitorFeed.Storage
import MonitorFeed.Text.Quoted

/-!
Loading a shared library: finding it at its path, and finding every operation among its exports.
-/

namespace MonitorFeed.Library

/-- What a path leads the loader to: the operations that are exported there. A path that leads
nowhere is refused with a reason. -/
abbrev Loader := String → Except String (List Operation)

/-- Loads the library at a path and logs that it is there. The first operation that is not exported
is named. -/
def load (loader : Loader) (path : String) : Except ClientError Event :=
  match loader path with
  | .error reason => .error (.library (path ++ ": " ++ reason))
  | .ok exported =>
    match Operation.all.find? (! exported.contains ·) with
    | some operation =>
      .error (.library ("symbol " ++ operation.symbol ++ ": not exported"))
    | none => .ok ⟨.info, .library, "Loaded transit library", [("path", .text path)]⟩

/-- A loaded library for diagnostics. -/
def describe (path : String) : String :=
  "NativeLibrary \x7b path: " ++ Text.quoted path ++ ", .. \x7d"

/-- The octets with which a library's file starts. -/
def fileMark : List UInt8 := [0x7F, 0x45, 0x4C, 0x46, 0x02, 0x01, 0x01, 0x00, 0xFF]

/-- Names under which the system has libraries of its own, which export none of the operations. -/
def systemLibraries : List String :=
  ["libc.so.6", "libm.so.6", "libdl.so.2", "libpthread.so.0", "librt.so.1", "libgcc_s.so.1",
    "ld-linux-x86-64.so.2"]

/-- A loader that finds one library. A path with a slash leads to a file, and only a library's file
can be loaded. The empty path leads to the running program, which exports nothing; a path without a
slash leads to the libraries of the system, among which this one is not. -/
def fileLoader (storage : Storage) (exported : List Operation) : Loader := fun path =>
  if path = "" || systemLibraries.contains path then .ok []
  else if path.toList.contains '/' then
    match storage path with
    | .file octets => if fileMark.isPrefixOf octets then .ok exported else .error "not a library"
    | .directory => .error "not a library"
    | .missing fault | .unreadable fault => .error fault.message
  else .error "not found"

end MonitorFeed.Library
