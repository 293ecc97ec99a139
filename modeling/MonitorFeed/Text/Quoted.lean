import MonitorFeed.Text.Printable

/-!
Values in diagnostics. A text stands between double quotes, with every character that has no shape
of its own spelled by its code point.
-/

namespace MonitorFeed.Text

/-- The spelling of one character between double quotes. -/
def quoteChar (c : Char) : List Char :=
  if c = '\x00' then ['\\', '0']
  else if c = '\t' then ['\\', 't']
  else if c = '\r' then ['\\', 'r']
  else if c = '\n' then ['\\', 'n']
  else if c = '"' then ['\\', '"']
  else if c = '\\' then ['\\', '\\']
  else if isVisible c then [c]
  else ['\\', 'u', '\x7b'] ++ Nat.toDigits 16 c.toNat ++ ['\x7d']

/-- A text as a diagnostic quotes it. -/
def quoted (text : String) : String :=
  String.ofList ('"' :: text.toList.flatMap quoteChar ++ ['"'])

/-- A record as a diagnostic shows it: its label, and its members between braces. -/
def record (label : String) (members : List (String × String)) : String :=
  label ++ " \x7b " ++ ", ".intercalate (members.map fun (name, shown) => name ++ ": " ++ shown) ++
    " \x7d"

/-- A value that may be missing as a diagnostic shows it. -/
def optional {α : Type} (shown : α → String) : Option α → String
  | none => "None"
  | some value => "Some(" ++ shown value ++ ")"

end MonitorFeed.Text
