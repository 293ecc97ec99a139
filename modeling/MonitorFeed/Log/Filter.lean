import MonitorFeed.Log.Directive

/-!
Which events are logged. A filter is a list of directives; of those that apply to an event the one
that applies most narrowly decides.
-/

namespace MonitorFeed

abbrev LogFilter := List Directive

namespace LogFilter

/-- The parts of a text between commas, less the empty ones. -/
def parts (text : String) : List (List Char) :=
  ((text.splitOn ",").map String.toList).filter (!·.isEmpty)

/-- Reads a filter of which every directive is in order. -/
def read? (text : String) : Option LogFilter :=
  (parts text).mapM fun part => (Directive.read part).toOption

/-- What is said of a directive that is left out. -/
def complaint (part : List Char) (fault : Directive.Fault) : String :=
  "ignoring \x60" ++ String.ofList part ++ "\x60: " ++ fault.message ++ "\n"

/-- Reads a filter, leaves out what is not in order, and complains of it. -/
def readLeniently (text : String) : LogFilter × String :=
  (parts text).foldl (fun (filter, complaints) part =>
    match Directive.read part with
    | .ok directive => (filter ++ [directive], complaints)
    | .error fault => (filter, complaints ++ complaint part fault)) ([], "")

/-- The filter of a run with the complaints about it: the one the environment asks for if it is in
order, and else that of the settings. -/
def choose (asked : Option String) (level : String) : LogFilter × String :=
  match asked.bind read? with
  | some filter => (filter, "")
  | none => readLeniently level

/-- The directive that lets errors through, which stands in for an empty filter. -/
def errorsOnly : Directive := ⟨none, none, none, some .error⟩

/-- The directives of a filter that can apply: those that need a span never do, since the program
opens none. -/
def plain (filter : LogFilter) : List Directive :=
  if filter.isEmpty then [errorsOnly] else filter.filter (·.isPlain)

/-- The directive that decides over an event. -/
def governing? (filter : LogFilter) (event : Event) : Option Directive :=
  (filter.plain.filter (·.covers event)).foldl (fun best directive =>
    match best with
    | some other => if directive.outranks other then some directive else best
    | none => some directive) none

/-- Whether an event is logged. -/
def admits (filter : LogFilter) (event : Event) : Bool :=
  match filter.governing? event with
  | some directive => directive.least.any fun least => least.rank ≤ event.level.rank
  | none => false

end LogFilter

end MonitorFeed
