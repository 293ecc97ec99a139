import MonitorFeed.Path
import MonitorFeed.Storage

/-!
A tree of files and directories, as a program sees it from its working directory: where a path leads
in it, and what writing and removing a file leave of it.
-/

namespace MonitorFeed

/-- Where the names of a place are counted from: the root, or the directory that many levels above
the working directory. -/
inductive FileTree.Base where
  | root
  | above (levels : Nat)
deriving DecidableEq

/-- A place in a tree, under the names of the directories on the way from its base. -/
structure FileTree.Place where
  base : FileTree.Base
  names : List (List Char)
deriving DecidableEq

namespace FileTree.Place

/-- Where a path starts. -/
def start (path : String) : Place :=
  ⟨if Path.isAbsolute path then .root else .above 0, []⟩

/-- The directory above a place. The root is above itself. -/
def up (place : Place) : Place :=
  match place.names, place.base with
  | [], .root => place
  | [], .above levels => ⟨.above (levels + 1), []⟩
  | names, base => ⟨base, names.dropLast⟩

/-- One segment further; an empty one and a dot stay in place. -/
def step (place : Place) (segment : List Char) : Place :=
  if segment = [] || segment = ['.'] then place
  else if segment = ['.', '.'] then place.up
  else ⟨place.base, place.names ++ [segment]⟩

end FileTree.Place

/-- What stands at a place. A sink takes whatever is written to it and is empty to a reader. -/
inductive FileTree.Entry where
  | directory
  | file (octets : List UInt8)
  | sink

/-- What stands at which place. Every base is a directory, whether it is listed or not. -/
structure FileTree where
  entries : List (FileTree.Place × FileTree.Entry)

namespace FileTree

/-- What stands at a place. -/
def find? (tree : FileTree) (place : Place) : Option Entry :=
  if place.names = [] then some .directory else tree.entries.lookup place

/-- Takes away what stands at a place. -/
def erase (tree : FileTree) (place : Place) : FileTree :=
  ⟨tree.entries.filter (·.1 ≠ place)⟩

/-- Puts an entry at a place, instead of what stands there. -/
def insert (tree : FileTree) (place : Place) (entry : Entry) : FileTree :=
  ⟨(place, entry) :: (tree.erase place).entries⟩

/-- The longest name of a file, in octets. -/
def longestName : Nat := 255

/-- The longest path, in octets. -/
def longestPath : Nat := 4095

/-- Goes on from a place, one segment at a time. Only a directory can be left, be it for itself. -/
def reach (tree : FileTree) (here : Place) : List (List Char) → Except IoFault Place
  | [] => .ok here
  | segment :: rest =>
    match tree.find? here with
    | none => .error .notFound
    | some .directory =>
      if longestName < Text.Utf8.size segment then .error .nameTooLong
      else tree.reach (here.step segment) rest
    | some (.file _) | some .sink => .error .notDirectory

/-- The place to which a path leads. It is in a directory, but nothing needs to stand there. -/
def locate (tree : FileTree) (path : String) : Except IoFault Place :=
  let chars := path.toList
  if chars.contains '\x00' then .error .invalidName
  else if chars.isEmpty then .error .notFound
  else if longestPath < Text.Utf8.size chars then .error .nameTooLong
  else tree.reach (.start path) (Path.segments chars)

/-- The storage of a tree. -/
def storage (tree : FileTree) : Storage := fun path =>
  match tree.locate path with
  | .error fault => .missing fault
  | .ok place =>
    match tree.find? place with
    | none => .missing .notFound
    | some .directory => .directory
    | some (.file octets) => .file octets
    | some .sink => .file []

/-- Writes a file. Where a path leads nowhere or to a directory, nothing changes. -/
def write (tree : FileTree) (path : String) (octets : List UInt8) : FileTree :=
  match tree.locate path with
  | .error _ => tree
  | .ok place =>
    match tree.find? place with
    | none | some (.file _) => tree.insert place (.file octets)
    | some .directory | some .sink => tree

/-- Removes a file. Where a path does not lead to one, nothing changes. -/
def remove (tree : FileTree) (path : String) : FileTree :=
  match tree.locate path with
  | .error _ => tree
  | .ok place =>
    match tree.find? place with
    | some (.file _) => tree.erase place
    | none | some .directory | some .sink => tree

/-- Puts an entry where segments lead from a place, and directories where there is nothing on the
way. -/
def plantFrom (tree : FileTree) (here : Place) (entry : Entry) : List (List Char) → FileTree
  | [] => tree.insert here entry
  | segment :: rest =>
    let way := if (tree.find? here).isSome then tree else tree.insert here .directory
    way.plantFrom (here.step segment) entry rest

/-- Sets an entry up at a path, with the directories above it. -/
def plant (tree : FileTree) (path : String) (entry : Entry) : FileTree :=
  tree.plantFrom (.start path) entry (Path.segments path.toList)

/-- An empty working directory in a system that has its usual directories. -/
def bare : FileTree :=
  ["bin", "boot", "dev", "etc", "home", "lib", "media", "mnt", "opt", "proc", "root", "run", "sbin",
    "srv", "sys", "tmp", "usr", "var"].foldl
    (fun tree name => tree.plant ("/" ++ name) .directory)
    (plant ⟨[]⟩ "/dev/null" .sink)

end FileTree

end MonitorFeed
