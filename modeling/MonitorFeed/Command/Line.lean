import MonitorFeed.Command.Basic
import MonitorFeed.Settings.Load

/-!
Reading the command line. It has two levels, before and after the name of the command, and the
options may stand on either. The text of an option or of a file is settled when the next one is met,
or at the end of its level, so a fault in it comes to light only then.
-/

namespace MonitorFeed

/-- Why a command line does not lead to a command. -/
inductive LineFault where
  | helpWanted
  | versionWanted
  | nothingGiven
  | noCommand
  | unknownCommand
  | unknownArgument
  | missingArgument
  | unusableText
  | repeatedOption
  | needlessText
deriving Repr, DecidableEq

/-- The exit code of a program whose command line has a fault; a wish that is met is no failure. -/
def LineFault.exitCode : LineFault → Nat
  | .helpWanted | .versionWanted => 0
  | _ => 2

/-- What a command line asks for. -/
structure CommandLine where
  overrides : Overrides
  command : Command
deriving DecidableEq

namespace CommandLine

/-- The version of the program. -/
def version : String := "transit 0.2.0"

/-- An option that takes a text. -/
inductive OptionName where
  | config
  | logLevel
  | library
deriving Repr, DecidableEq

/-- The option of a long name. -/
def OptionName.ofLong? (name : List Char) : Option OptionName :=
  if name = "config".toList then some .config
  else if name = "log-level".toList then some .logLevel
  else if name = "library".toList then some .library
  else none

/-- What takes a text: an option, or the file of a command. -/
inductive Slot where
  | option (name : OptionName)
  | file
deriving Repr, DecidableEq

/-- Whether a slot takes the empty text; a path is never empty. -/
def Slot.takesEmpty : Slot → Bool
  | .option .logLevel => true
  | _ => false

/-- What one level has been given: settled texts, and a slot whose text is not settled or has not
been met. -/
structure Level where
  settled : List (Slot × String)
  pending : Option (Slot × Option String)
deriving Repr, DecidableEq

namespace Level

/-- The level at its start. -/
def empty : Level := ⟨[], none⟩

/-- The settled text of a slot. -/
def text? (level : Level) (slot : Slot) : Option String :=
  level.settled.lookup slot

/-- Gives a slot its text, at most once. -/
def assign (level : Level) (slot : Slot) (text : String) : Except LineFault Level :=
  if (level.text? slot).isSome then .error .repeatedOption
  else if text.isEmpty && !slot.takesEmpty then .error .unusableText
  else .ok { level with settled := level.settled ++ [(slot, text)] }

/-- Settles what is pending. -/
def settle (level : Level) : Except LineFault Level :=
  match level.pending with
  | none => .ok level
  | some (_, none) => .error .unusableText
  | some (slot, some text) => { level with pending := none }.assign slot text

/-- Settles what is pending and opens a slot, with its text or to wait for it. -/
def openSlot (level : Level) (slot : Slot) (text : Option String) : Except LineFault Level := do
  let level ← level.settle
  return { level with pending := some (slot, text) }

/-- Settles what is pending and gives an option the text that is attached to it. -/
def assignAttached (level : Level) (name : OptionName) (text : String) :
    Except LineFault Level := do
  (← level.settle).assign (.option name) text

/-- The slot that waits for its text. -/
def awaited? (level : Level) : Option Slot :=
  match level.pending with
  | some (slot, none) => some slot
  | _ => none

/-- Whether the file of the command has been met. -/
def hasFile (level : Level) : Bool :=
  (level.text? .file).isSome || level.pending.any (·.1 = .file)

end Level

/-- Where on the command line a text stands: before the name of a command, or after that of one that
takes a file or none. -/
inductive Place where
  | beforeCommand
  | afterCommand (takesFile : Bool)
deriving Repr, DecidableEq

/-- A request for help or for the version wins unless what is pending is at fault. -/
def wish (level : Level) (wanted : LineFault) : Except LineFault Level := do
  let _ ← level.settle
  throw wanted

/-- Reads an argument after two dashes: the name of an option, with its text after an equals sign or
in the next argument. -/
def readLong (place : Place) (level : Level) (argument : List Char) : Except LineFault Level :=
  let name := argument.takeWhile (· ≠ '=')
  let attached : Option (List Char) :=
    match argument.dropWhile (· ≠ '=') with
    | [] => none
    | _ :: text => some text
  match OptionName.ofLong? name with
  | some option =>
    match attached with
    | some text => level.assignAttached option (String.ofList text)
    | none => level.openSlot (.option option) none
  | none =>
    if name = "help".toList || (name = "version".toList && place = .beforeCommand) then
      if attached.isSome then .error .needlessText
      else wish level (if name = "help".toList then .helpWanted else .versionWanted)
    else .error .unknownArgument

/-- Reads an argument after one dash: a letter, and the text of the option behind it. -/
def readShort (place : Place) (level : Level) : List Char → Except LineFault Level
  | 'c' :: [] => level.openSlot (.option .config) none
  | 'c' :: '=' :: text => level.assignAttached .config (String.ofList text)
  | 'c' :: text => level.assignAttached .config (String.ofList text)
  | 'h' :: _ => wish level .helpWanted
  | 'V' :: _ => if place = .beforeCommand then wish level .versionWanted else .error .unknownArgument
  | _ => .error .unknownArgument

/-- Reads an argument that has no dashes to it: the text that an option waits for, or a file. -/
def readPlain (place : Place) (level : Level) (argument : String) : Except LineFault Level :=
  match level.awaited? with
  | some slot => .ok { level with pending := some (slot, some argument) }
  | none =>
    match place with
    | .beforeCommand => .error .unknownCommand
    | .afterCommand takesFile =>
      if takesFile && !level.hasFile then level.openSlot .file (some argument)
      else .error .unknownArgument

/-- The names of the commands, and what their file makes of them. -/
def commands : List (String × (Command ⊕ (String → Command))) :=
  [("connect", .inl .connect), ("send-metrics", .inr .sendMetrics),
    ("list-metrics", .inl .listMetrics), ("sync-inventory", .inr .syncInventory),
    ("test-resource", .inr .testResource), ("disconnect", .inl .disconnect), ("run", .inl .run)]

/-- The name under which help can be asked for like a command. -/
def helpName : String := "help"

/-- Whether a text names a command. -/
def isCommand (text : String) : Bool :=
  text = helpName || (commands.lookup text).isSome

/-- Reads an argument after the bare dashes that end the options. -/
def readTrailing (place : Place) (level : Level) (argument : String) : Except LineFault Level :=
  match place with
  | .beforeCommand => .error (if isCommand argument then .unknownArgument else .unknownCommand)
  | .afterCommand takesFile =>
    if takesFile && !level.hasFile then level.openSlot .file (some argument)
    else .error .unknownArgument

/-- Reads the arguments of a level; before a command they end at its name, which is returned with
what follows it. -/
def readLevel (place : Place) :
    Level → List String → Except LineFault (Level × Option (String × List String))
  | level, [] => .ok (level, none)
  | level, argument :: rest =>
    if place = .beforeCommand && level.awaited?.isNone && isCommand argument then
      .ok (level, some (argument, rest))
    else
      match argument.toList with
      | ['-', '-'] => do
        let level ← rest.foldlM (readTrailing place) level
        return (level, none)
      | '-' :: '-' :: text => do readLevel place (← readLong place level text) rest
      | '-' :: c :: text => do readLevel place (← readShort place level (c :: text)) rest
      | _ => do readLevel place (← readPlain place level argument) rest

/-- What asking for help about names leads to. -/
def helpOn : List String → LineFault
  | [] => .helpWanted
  | [name] => if isCommand name then .helpWanted else .unknownCommand
  | _ => .unknownCommand

/-- Reads the level after the name of a command. -/
def readCommand (name : String) (arguments : List String) : Except LineFault (Level × Command) := do
  match commands.lookup name with
  | none => throw (if name = helpName then helpOn arguments else .unknownCommand)
  | some kind =>
    let (level, _) ← readLevel (.afterCommand kind.isRight) .empty arguments
    let level ← level.settle
    match kind, level.text? .file with
    | .inl command, _ => return (level, command)
    | .inr ofFile, some file => return (level, ofFile file)
    | .inr _, none => throw .missingArgument

/-- The overrides that two levels ask for; the text after the command wins. -/
def merge (before after : Level) : Overrides :=
  let text? (name : OptionName) : Option String :=
    (after.text? (.option name)).or (before.text? (.option name))
  ⟨(text? .config).getD Overrides.defaultConfig, text? .logLevel, text? .library⟩

/-- Reads a command line, without the name of the program. -/
def read (arguments : List String) : Except LineFault CommandLine := do
  let (before, rest) ← readLevel .beforeCommand .empty arguments
  match rest with
  | some (name, arguments) =>
    let (after, command) ← readCommand name arguments
    let before ← before.settle
    return ⟨merge before after, command⟩
  | none =>
    let before ← before.settle
    throw (if before.settled.isEmpty then .nothingGiven else .noCommand)

end CommandLine

end MonitorFeed
