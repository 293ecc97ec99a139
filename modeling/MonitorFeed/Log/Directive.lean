import MonitorFeed.Decimal.Nearest
import MonitorFeed.Log.Event
import MonitorFeed.Log.Pattern
import MonitorFeed.Text.Utf8

/-!
Directives of a log filter. One sets the least important level to log; it applies to all events, to
those of one part of the program, to those within a span, or to those that have a field.
-/

namespace MonitorFeed

/-- A field that a directive asks for, and the pattern of its value, if it asks for one. -/
structure FieldDemand where
  name : List Char
  value : Option (List Char)
deriving Repr, DecidableEq

/-- A directive: the address under which it applies, the span and the field that it asks for, and
the least level that it lets through, if any. -/
structure Directive where
  address : Option (List Char)
  span : Option (List Char)
  field : Option FieldDemand
  least : Option Level
deriving Repr, DecidableEq

namespace Directive

/-- Why a text is no directive. -/
inductive Fault where
  | malformed
  | level
  | field (fault : Pattern.Fault)
deriving Repr, DecidableEq

def Fault.message : Fault → String
  | .malformed => "invalid filter directive"
  | .level =>
    "error parsing level filter: expected one of \"off\", \"error\", \"warn\", \"info\", " ++
    "\"debug\", \"trace\", or a number 0-5"
  | .field fault => "invalid field filter: " ++ fault.message

/-- The levels by their names, and the word that silences. -/
def levelNames : List (String × Option Level) :=
  [("off", none), ("error", some .error), ("warn", some .warn), ("info", some .info),
    ("debug", some .debug), ("trace", some .trace)]

/-- The level of a number; zero silences. -/
def levelOfNumber? (n : Nat) : Option (Option Level) :=
  (levelNames.map (·.2))[n]?

/-- Reads a level: a number with an optional plus sign, or a name in letters of either case. -/
def readLevel? (text : List Char) : Option (Option Level) :=
  let digits :=
    match text with
    | '+' :: digits => digits
    | digits => digits
  if !digits.isEmpty && digits.all Char.isDigit then levelOfNumber? (Decimal.digitsValue digits)
  else levelNames.lookup (String.ofList (text.map Char.toLower))

/-- Reads the level after an equals sign; no text lets everything through. -/
def readLeast (text : List Char) : Except Fault (Option Level) :=
  if text.isEmpty then .ok (some .trace)
  else
    match readLevel? text with
    | some least => .ok least
    | none => .error .level

/-- Reads a demand on a field: its name, and after an equals sign a truth value, a number or a
pattern. A further equals sign ends the pattern, and what follows it counts for nothing. -/
def readDemand (text : List Char) : Except Fault FieldDemand :=
  let name := text.takeWhile (· ≠ '=')
  match text.drop name.length with
  | [] => .ok ⟨name, none⟩
  | _ :: rest =>
    let value := rest.takeWhile (· ≠ '=')
    if (Decimal.readDouble value).isSome then .ok ⟨name, some value⟩
    else (Pattern.check value).mapError .field |>.map fun () => ⟨name, some value⟩

/-- Cuts the stretch between two places, counted in octets, out of a directive. -/
abbrev Cut := Nat → Nat → List Char

/-- Reads the end of a directive, after what it asks for. -/
def readEnd (cut : Cut) (whole : Nat) (place : Nat) (asked : Option Level → Directive) :
    List Char → Except Fault Directive
  | [] => .ok (asked (some .trace))
  | '=' :: _ => (readLeast (cut (place + 1) whole)).map asked
  | _ => .error .malformed

/-- Reads the demand on a field, after its opening brace. -/
def readField (cut : Cut) (whole : Nat) (place : Nat) (address span : Option (List Char))
    (text : List Char) : Except Fault Directive := do
  let shown := text.takeWhile (· ≠ '\x7d')
  let stop := place + Text.Utf8.size shown
  match text.drop shown.length with
  | '\x7d' :: rest =>
    let demand := cut place stop
    if demand.isEmpty then throw .malformed
    let field ← readDemand demand
    match rest with
    | ']' :: rest =>
      readEnd cut whole (stop + 2) (fun least => ⟨address, span, some field, least⟩) rest
    | _ => throw .malformed
  | _ => throw .malformed

/-- Reads a span, after its opening bracket. -/
def readSpan (cut : Cut) (whole : Nat) (place : Nat) (address : Option (List Char))
    (text : List Char) : Except Fault Directive :=
  let shown := text.takeWhile fun c => c ≠ ']' && c ≠ '\x7b'
  let stop := place + Text.Utf8.size shown
  match text.drop shown.length with
  | ']' :: rest =>
    readEnd cut whole (stop + 1) (fun least => ⟨address, some (cut place stop), none, least⟩) rest
  | '\x7b' :: rest =>
    let span := cut place stop
    readField cut whole (stop + 1) address (if span.isEmpty then none else some span) rest
  | _ => .error .malformed

/-- A level for all events, or the address of a part whose every event is logged. -/
def ofWord (text : List Char) : Directive :=
  match readLevel? text with
  | some least => ⟨none, none, none, least⟩
  | none => ⟨some text, none, none, some .trace⟩

/-- Whether a character can start an address. -/
def startsAddress (c : Char) : Bool :=
  c = '-' || c = ':' || c = '_' || Text.isAlphanumeric c

/-- Reads a directive. Its marks are looked for without the white space around it, but their places
are counted from its very start, so that white space before a directive with marks belongs to its
first part and shifts the others. -/
def read (text : List Char) : Except Fault Directive :=
  let whole := Text.Utf8.size text
  let cut : Cut := fun start stop => Text.Utf8.slice start stop 0 text
  match Text.trim text with
  | [] => .error .malformed
  | '[' :: rest => readSpan cut whole 1 none rest
  | c :: rest =>
    if startsAddress c then
      let shown := c :: rest.takeWhile fun c => c ≠ '=' && c ≠ '['
      let stop := Text.Utf8.size shown
      let address := some (cut 0 stop)
      match (c :: rest).drop shown.length with
      | [] => .ok (ofWord text)
      | '=' :: _ =>
        (readLeast (cut (stop + 1) whole)).map fun least => ⟨address, none, none, least⟩
      | _ :: rest => readSpan cut whole (stop + 1) address rest
    else .error .malformed

/-- Whether a directive can apply outside spans: it names none and asks for no value. -/
def isPlain (directive : Directive) : Bool :=
  directive.span.isNone && directive.field.all (·.value.isNone)

/-- Whether an event is one of those to which a plain directive applies. -/
def covers (directive : Directive) (event : Event) : Bool :=
  directive.address.all (·.isPrefixOf event.source.address.toList) &&
    directive.field.all fun demand => event.fields.contains (String.ofList demand.name)

/-- How narrowly a directive applies: the length of its address, one more than none, and the field
that it asks for. -/
def reach (directive : Directive) : Nat × Nat × String :=
  (match directive.address with
    | none => 0
    | some address => Text.Utf8.size address + 1,
    if directive.field.isSome then 1 else 0,
    match directive.field with
    | none => ""
    | some demand => String.ofList demand.name)

/-- Whether a directive goes before an earlier one: it applies more narrowly, or as narrowly. -/
def outranks (later earlier : Directive) : Bool :=
  let (size, fields, name) := later.reach
  let (size', fields', name') := earlier.reach
  size' < size || (size' = size && (fields' < fields || (fields' = fields && name' ≤ name)))

end Directive

end MonitorFeed
