import MonitorFeed.Json.Scanner
import MonitorFeed.Text.Alphanumeric
import MonitorFeed.Text.Blank

/-!
Which regular expressions can be used in the filter of a log. Only whether one is in order matters
here: no event has a value that is matched against it.

Letters of all scripts are known by their code points alone, so shorthands for classes of characters
and matching without regard to case are refused wherever they would reach beyond ASCII. Counted
repetitions are refused too: their closing brace would end the field that holds the expression.
-/

namespace MonitorFeed.Pattern

/-- Why an expression cannot be used. -/
inductive Fault where
  | malformed
  | wordBoundary
deriving Repr, DecidableEq

def Fault.message : Fault → String
  | .malformed => "error building NFA"
  | .wordBoundary =>
    "unsupported regex feature for DFAs: cannot build DFAs for regexes with Unicode word " ++
    "boundaries; switch to ASCII word boundaries, or heuristically enable Unicode word " ++
    "boundaries or use a different regex engine"

/-- How the rest of a group is read: whether case counts for nothing, whether characters beyond
ASCII are meant too, and whether white space and comments are passed over. -/
structure Mode where
  fold : Bool
  wide : Bool
  spaced : Bool
deriving Repr, DecidableEq

namespace Mode

/-- The mode at the start. -/
def standard : Mode := ⟨false, true, false⟩

/-- Switches a flag; those that change only what is matched are left out. -/
def switch (mode : Mode) (flag : Char) (on : Bool) : Mode :=
  if flag = 'i' then { mode with fold := on }
  else if flag = 'u' then { mode with wide := on }
  else if flag = 'x' then { mode with spaced := on }
  else mode

/-- Whether single characters can be matched. -/
def takesLiterals (mode : Mode) : Bool := !(mode.fold && mode.wide)

/-- Passes over white space, and over comments up to the end of their line. -/
def skipSpaced (comment : Bool) : List Char → List Char
  | [] => []
  | c :: rest =>
    if comment then skipSpaced (c ≠ '\n') rest
    else if Text.isBlank c then skipSpaced false rest
    else if c = '#' then skipSpaced true rest
    else c :: rest

/-- The next character that counts, and what follows it. -/
def skip (mode : Mode) (text : List Char) : List Char :=
  if mode.spaced then skipSpaced false text else text

end Mode

/-- What an escape stands for. -/
inductive Escape where
  | literal (c : Char)
  | octet (value : Nat)
  | edge
  | boundary
  | shorthand (negated : Bool)
deriving Repr, DecidableEq

/-- A code point that is spelled by a number of hexadecimal digits. -/
def codePoint? (count : Nat) (text : List Char) : Option Nat :=
  let digits := text.take count
  if digits.length = count then
    (Json.hexValue? digits).filter fun value => value.isValidChar
  else none

/-- The control characters that have a letter. -/
def controlLetters : List (Char × Char) :=
  [('a', '\x07'), ('f', '\x0c'), ('t', '\t'), ('n', '\n'), ('r', '\r'), ('v', '\x0b')]

/-- Reads an escape after its backslash. -/
def readEscape : List Char → Option (Escape × List Char)
  | [] => none
  | 'x' :: rest => (codePoint? 2 rest).map fun value => (.octet value, rest.drop 2)
  | 'u' :: rest => (codePoint? 4 rest).map fun value => (.literal (Char.ofNat value), rest.drop 4)
  | 'U' :: rest => (codePoint? 8 rest).map fun value => (.literal (Char.ofNat value), rest.drop 8)
  | c :: rest =>
    if c = 'd' || c = 's' || c = 'w' then some (.shorthand false, rest)
    else if c = 'D' || c = 'S' || c = 'W' then some (.shorthand true, rest)
    else if c = 'A' || c = 'z' then some (.edge, rest)
    else if c = 'b' || c = 'B' || c = '<' || c = '>' then some (.boundary, rest)
    else
      match controlLetters.lookup c with
      | some control => some (.literal control, rest)
      | none => if c.toNat < 128 && !c.isAlphanum then some (.literal c, rest) else none

/-! Bracketed classes. -/

/-- The names of the classes that are written between colons. -/
def classNames : List String :=
  ["alnum", "alpha", "ascii", "blank", "cntrl", "digit", "graph", "lower", "print", "punct",
    "space", "upper", "word", "xdigit"]

/-- Reads a named class after its bracket; tells whether it is negated. -/
def readNamedClass? (text : List Char) : Option (Bool × List Char) :=
  match text with
  | ':' :: text =>
    let (negated, text) :=
      match text with
      | '^' :: text => (true, text)
      | text => (false, text)
    let name := text.takeWhile (· ≠ ':')
    match text.drop name.length with
    | ':' :: ']' :: rest =>
      if classNames.contains (String.ofList name) then some (negated, rest) else none
    | _ => none
  | _ => none

/-- Passes over the dashes at the start of a class, or over the closing bracket that stands there
for itself. -/
def skipClassStart (mode : Mode) : Bool → List Char → List Char
  | _, '-' :: rest => skipClassStart mode false rest
  | first, c :: rest =>
    if mode.spaced && Text.isBlank c then skipClassStart mode first rest
    else if first && c = ']' then rest
    else c :: rest
  | _, [] => []

/-- Reads what stands at the start of a class, after its bracket. -/
def openClass (mode : Mode) (text : List Char) : Option (List Char) :=
  match mode.skip text with
  | '^' :: rest => if mode.wide then some (skipClassStart mode true rest) else none
  | rest => some (skipClassStart mode true rest)

/-- Reads an item of a class: a character, or a shorthand, which is none. -/
def readClassItem (mode : Mode) : List Char → Option (Option Char × List Char)
  | [] => none
  | '\\' :: rest => do
    let (escape, rest) ← readEscape rest
    match escape with
    | .literal c => if mode.wide || c.toNat < 128 then some (some c, rest) else none
    | .octet value => if mode.wide || value < 128 then some (some (Char.ofNat value), rest) else none
    | .shorthand negated => if mode.wide || negated then none else some (none, rest)
    | .edge | .boundary => none
  | c :: rest => if mode.wide || c.toNat < 128 then some (some c, rest) else none

/-- Reads a class up to its closing bracket. The depth counts the classes open inside it. -/
def scanClass (mode : Mode) : Nat → Nat → List Char → Option (List Char)
  | 0, _, _ => none
  | steps + 1, depth, text =>
    match mode.skip text with
    | [] => none
    | '[' :: rest =>
      match readNamedClass? rest with
      | some (negated, rest) =>
        if mode.wide || !negated then scanClass mode steps depth rest else none
      | none => do scanClass mode steps (depth + 1) (← openClass mode rest)
    | ']' :: rest => if depth = 0 then some rest else scanClass mode steps (depth - 1) rest
    | '&' :: '&' :: rest => scanClass mode steps depth rest
    | '-' :: '-' :: rest => scanClass mode steps depth rest
    | '~' :: '~' :: rest => scanClass mode steps depth rest
    | text => do
      let (item, rest) ← readClassItem mode text
      match mode.skip rest with
      | '-' :: after =>
        match mode.skip after with
        | ']' :: _ | '-' :: _ => scanClass mode steps depth ('-' :: after)
        | after =>
          let (last, rest) ← readClassItem mode after
          match item, last with
          | some first, some last => if first ≤ last then scanClass mode steps depth rest else none
          | _, _ => none
      | rest => scanClass mode steps depth rest

/-! Groups. -/

/-- Reads flags up to the colon or the parenthesis that ends them: the flags in reverse, the mode
that they lead to, and what follows. -/
def readFlags : List Char → Bool → Mode → List Char →
    Option (List Char × Mode × Bool × List Char)
  | _, _, _, [] => none
  | seen, on, mode, c :: rest =>
    if c = ':' || c = ')' then
      if seen.head? = some '-' then none else some (seen, mode, c = ':', rest)
    else if seen.contains c then none
    else if c = '-' then readFlags (c :: seen) false mode rest
    else if "imsUuRx".toList.contains c then readFlags (c :: seen) on (mode.switch c on) rest
    else none

/-- Whether a text can name a group. -/
def isGroupName : List Char → Bool
  | [] => false
  | c :: rest =>
    (c = '_' || Text.isAlphabetic c) &&
      rest.all fun c => c = '_' || c = '.' || c = '[' || c = ']' || Text.isAlphanumeric c

/-- How far the reading of an expression has come: the mode, those of the groups around, whether
there is something to repeat, the names of the groups, and whether a word boundary was met. -/
structure Progress where
  mode : Mode
  outer : List Mode
  operand : Bool
  names : List (List Char)
  boundary : Bool

namespace Progress

/-- Nothing read yet. -/
def start : Progress := ⟨.standard, [], false, [], false⟩

/-- After something that can be repeated. -/
def item (progress : Progress) : Progress := { progress with operand := true }

/-- Inside a further group. -/
def enter (progress : Progress) (mode : Mode) : Progress :=
  { progress with mode := mode, outer := progress.mode :: progress.outer, operand := false }

/-- Opens a group under a name, given what follows the angle bracket. -/
def enterNamed (progress : Progress) (text : List Char) : Option (Progress × List Char) :=
  let name := text.takeWhile (· ≠ '>')
  match text.drop name.length with
  | '>' :: rest =>
    if isGroupName name && !progress.names.contains name then
      some ({ progress.enter progress.mode with names := name :: progress.names }, rest)
    else none
  | _ => none

/-- Opens a group, or switches flags for the rest of the one that is open. -/
def openGroup (progress : Progress) (text : List Char) : Option (Progress × List Char) :=
  match progress.mode.skip text with
  | '?' :: 'P' :: '<' :: rest => progress.enterNamed rest
  | '?' :: '<' :: rest => progress.enterNamed rest
  | '?' :: rest => do
    let (seen, mode, groups, rest) ← readFlags [] true progress.mode rest
    if groups then some (progress.enter mode, rest)
    else if seen.isEmpty then none
    else some ({ progress with mode := mode, operand := false }, rest)
  | rest => some (progress.enter progress.mode, rest)

/-- Closes a group. -/
def closeGroup (progress : Progress) : Option Progress :=
  match progress.outer with
  | [] => none
  | mode :: outer => some { progress with mode := mode, outer := outer, operand := true }

/-- Takes an escape. -/
def takeEscape (progress : Progress) : Escape → Option Progress
  | .literal _ => if progress.mode.takesLiterals then some progress.item else none
  | .octet value =>
    if progress.mode.takesLiterals && (progress.mode.wide || value < 128) then some progress.item
    else none
  | .edge => some progress.item
  | .boundary =>
    some { progress.item with boundary := progress.boundary || progress.mode.wide }
  | .shorthand negated => if progress.mode.wide || negated then none else some progress.item

end Progress

/-- Reads an expression to its end. -/
def scan : Nat → Progress → List Char → Option Progress
  | 0, _, _ => none
  | steps + 1, progress, text =>
    match progress.mode.skip text with
    | [] => if progress.outer.isEmpty then some progress else none
    | c :: rest =>
      if c = '(' then do
        let (progress, rest) ← progress.openGroup rest
        scan steps progress rest
      else if c = ')' then do scan steps (← progress.closeGroup) rest
      else if c = '|' then scan steps { progress with operand := false } rest
      else if c = '[' then do
        if progress.mode.takesLiterals = false then none
        let rest ← scanClass progress.mode (rest.length + 1) 0 (← openClass progress.mode rest)
        scan steps progress.item rest
      else if c = '*' || c = '+' || c = '?' then
        if progress.operand = false then none
        else
          match rest with
          | '?' :: rest => scan steps progress rest
          | rest => scan steps progress rest
      else if c = '\x7b' then none
      else if c = '\\' then do
        let (escape, rest) ← readEscape rest
        scan steps (← progress.takeEscape escape) rest
      else if c = '^' || c = '$' then scan steps progress.item rest
      else if c = '.' then if progress.mode.wide then scan steps progress.item rest else none
      else if progress.mode.takesLiterals then scan steps progress.item rest
      else none

/-- Whether an expression can be used. -/
def check (text : List Char) : Except Fault Unit :=
  match scan (text.length + 1) .start text with
  | none => .error .malformed
  | some progress => if progress.boundary then .error .wordBoundary else .ok ()

end MonitorFeed.Pattern
