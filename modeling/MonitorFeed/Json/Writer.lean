import MonitorFeed.Json.Basic
import MonitorFeed.Decimal.Shortest

/-!
The two written forms of a JSON document: on one line without spaces, and indented for reading. Both
write every string through one table of escapes, which leaves no control character in the text.
-/

namespace MonitorFeed.Json

/-- The spelling of one character inside a string. -/
def escape (c : Char) : List Char :=
  if c = '"' then ['\\', '"']
  else if c = '\\' then ['\\', '\\']
  else if c = '\x08' then ['\\', 'b']
  else if c = '\x0c' then ['\\', 'f']
  else if c = '\n' then ['\\', 'n']
  else if c = '\r' then ['\\', 'r']
  else if c = '\t' then ['\\', 't']
  else if c.toNat < 0x20 then
    ['\\', 'u', '0', '0', Nat.digitChar (c.toNat / 16), Nat.digitChar (c.toNat % 16)]
  else [c]

/-- A string between its quotes. -/
def writeText (text : String) : List Char :=
  '"' :: text.toList.flatMap escape ++ ['"']

/-- A number that is finite; the others have no spelling and are written as nothing. -/
def writeReal (value : Float) : List Char :=
  if Decimal.isFinite value then Decimal.Layout.json.write value else "null".toList

/-- A document that holds no other. -/
def writeFlag (value : Bool) : List Char :=
  if value then "true".toList else "false".toList

mutual
/-- The document on one line. -/
def compact : Json → List Char
  | .null => "null".toList
  | .flag value => writeFlag value
  | .integer value => Decimal.integerText value
  | .real value => writeReal value
  | .string value => writeText value
  | .list items => '[' :: compactItems items ++ [']']
  | .object members => '\x7b' :: compactMembers members ++ ['\x7d']

/-- Items separated by commas. -/
def compactItems : List Json → List Char
  | [] => []
  | [item] => compact item
  | item :: rest => compact item ++ ',' :: compactItems rest

/-- Members separated by commas. -/
def compactMembers : List (String × Json) → List Char
  | [] => []
  | [(name, value)] => writeText name ++ ':' :: compact value
  | (name, value) :: rest => writeText name ++ ':' :: compact value ++ ',' :: compactMembers rest
end

/-- The start of a line at a depth of nesting. -/
def indent (depth : Nat) : List Char :=
  '\n' :: List.replicate (2 * depth) ' '

mutual
/-- The document over several lines, two spaces for each level. -/
def pretty (depth : Nat) : Json → List Char
  | .null => "null".toList
  | .flag value => writeFlag value
  | .integer value => Decimal.integerText value
  | .real value => writeReal value
  | .string value => writeText value
  | .list [] => "[]".toList
  | .list (item :: rest) =>
    '[' :: prettyItems (depth + 1) (item :: rest) ++ indent depth ++ [']']
  | .object [] => ['\x7b', '\x7d']
  | .object (member :: rest) =>
    '\x7b' :: prettyMembers (depth + 1) (member :: rest) ++ indent depth ++ ['\x7d']

/-- Items, each on its own line. -/
def prettyItems (depth : Nat) : List Json → List Char
  | [] => []
  | [item] => indent depth ++ pretty depth item
  | item :: rest => indent depth ++ pretty depth item ++ ',' :: prettyItems depth rest

/-- Members, each on its own line, a space after the colon. -/
def prettyMembers (depth : Nat) : List (String × Json) → List Char
  | [] => []
  | [(name, value)] => indent depth ++ writeText name ++ ':' :: ' ' :: pretty depth value
  | (name, value) :: rest =>
    indent depth ++ writeText name ++ ':' :: ' ' :: pretty depth value ++
      ',' :: prettyMembers depth rest
end

end MonitorFeed.Json
