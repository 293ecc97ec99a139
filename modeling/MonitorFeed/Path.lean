/-!
Paths of files: segments between slashes.
-/

namespace MonitorFeed.Path

/-- Splits at every slash. -/
def segments (path : List Char) : List (List Char) :=
  match path with
  | [] => [[]]
  | c :: rest =>
    if c = '/' then [] :: segments rest
    else
      match segments rest with
      | [] => [[c]]
      | first :: others => (c :: first) :: others

/-- Joins segments with slashes. -/
def ofSegments (segments : List (List Char)) : List Char :=
  List.intercalate ['/'] segments

/-- A path that starts at the root. -/
def isAbsolute (path : String) : Bool :=
  path.toList.head? = some '/'

/-- Removes segments that lead nowhere from the end. -/
def dropIdle (segments : List (List Char)) : List (List Char) :=
  (segments.reverse.dropWhile fun segment => segment = [] || segment = ['.']).reverse

/-- The part before the first segment that counts: the root, or a leading dot. -/
def splitHead : List Char → List Char × List Char
  | '/' :: rest => (['/'], rest)
  | ['.'] => (['.'], [])
  | '.' :: '/' :: rest => (['.'], '/' :: rest)
  | path => ([], path)

/-- The directory of a path: the path without its last segment. The root and the empty path have
none. -/
def parent? (path : String) : Option String :=
  let (head, body) := splitHead path.toList
  match (dropIdle (segments body)).reverse with
  | [] => if head = ['.'] then some "" else none
  | _ :: before => some (String.ofList (head ++ ofSegments (dropIdle before.reverse)))

/-- A path as seen from a directory. An absolute path stays as it is, and so does every path seen
from the empty one. -/
def join (base path : String) : String :=
  if isAbsolute path || base = "" then path
  else if base.toList.getLast? = some '/' then base ++ path
  else base ++ "/" ++ path

end MonitorFeed.Path
