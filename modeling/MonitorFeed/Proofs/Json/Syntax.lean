import MonitorFeed.Json.Number
import MonitorFeed.Json.Writer

/-!
The syntax of JSON text. A node is a document as it is spelled, up to the white space between its
tokens: strings are made of pieces, numbers of digits, and the members of an object stand in the
order of the text, whatever their names are.
-/

namespace MonitorFeed.Json

/-- White space. -/
def Blank (text : List Char) : Prop :=
  ∀ c ∈ text, isSpace c = true

/-- One digit or more. -/
structure Digits where
  first : Char
  others : List Char
  spelled : ∀ c ∈ first :: others, c.isDigit = true

def Digits.text (digits : Digits) : List Char :=
  digits.first :: digits.others

/-- The number that digits spell in base ten. -/
def Digits.value (digits : Digits) : Nat :=
  Nat.ofDigitChars 10 digits.text 0

/-- The number of a sign and a word. Below the range of signed words, and for a zero with a sign, it
is a double. -/
def ofWord (negative : Bool) (magnitude : Nat) : Number :=
  if negative = false then .natural magnitude
  else if 0 < magnitude ∧ magnitude ≤ 1 <<< 63 then .negative magnitude
  else .real (-(Decimal.nearest magnitude 1).toFloat)

/-- The exponent of a number: a letter, perhaps a sign, and digits. -/
structure Exponent where
  capital : Bool
  sign : Option Bool
  digits : Digits

namespace Exponent

def letter (exponent : Exponent) : Char :=
  if exponent.capital then 'E' else 'e'

def signText (exponent : Exponent) : List Char :=
  match exponent.sign with
  | none => []
  | some true => ['-']
  | some false => ['+']

def text (exponent : Exponent) : List Char :=
  exponent.letter :: (exponent.signText ++ exponent.digits.text)

end Exponent

/-- A number as it is spelled. Its whole part has no leading zero but the only one. -/
structure Token where
  negative : Bool
  whole : Digits
  fraction : Option Digits
  exponent : Option Exponent
  canonical : whole.first = '0' → whole.others = []

namespace Token

/-- What follows the whole part before the exponent. -/
def fractionText (token : Token) : List Char :=
  token.fraction.elim [] fun digits => '.' :: digits.text

def exponentText (token : Token) : List Char :=
  token.exponent.elim [] Exponent.text

/-- The spelling without the sign. -/
def unsigned (token : Token) : List Char :=
  token.whole.text ++ (token.fractionText ++ token.exponentText)

def text (token : Token) : List Char :=
  if token.negative then '-' :: token.unsigned else token.unsigned

/-- The magnitude of a number without point and exponent, if it fits a word. -/
def word? (token : Token) : Option Nat :=
  if token.fraction.isNone ∧ token.exponent.isNone ∧ token.whole.value ≤ largestWord then
    some token.whole.value
  else none

/-- The double that a number is scanned as, unless it is out of range. -/
def real? (token : Token) : Option Float :=
  (scanNumber token.negative token.unsigned).toOption.bind fun scanned =>
    match scanned.1 with
    | .real value => some value
    | _ => none

/-- The number that is spelled: an integer if its magnitude fits a word, and a double otherwise. -/
def number? (token : Token) : Option Number :=
  match token.word? with
  | some magnitude => some (ofWord token.negative magnitude)
  | none => token.real?.map .real

end Token

/-- A piece of a string as it is spelled: a character of its own, a letter that stands for one, or a
code unit in four hexadecimal digits. -/
inductive Piece where
  | plain (c : Char) (usual : c ≠ '"' ∧ c ≠ '\\' ∧ 0x20 ≤ c.toNat)
  | short (letter c : Char) (meaning : shortEscape? letter = some c)
  | unit (digits : List Char) (value : Nat) (four : digits.length = 4)
      (meaning : hexValue? digits = some value)

namespace Piece

def text : Piece → List Char
  | .plain c _ => [c]
  | .short letter _ _ => ['\\', letter]
  | .unit digits _ _ _ => '\\' :: 'u' :: digits

/-- The characters that pieces spell. Surrogates count in pairs only. -/
def meaning? : List Piece → Option (List Char)
  | [] => some []
  | .plain c _ :: rest => (meaning? rest).map (c :: ·)
  | .short _ c _ :: rest => (meaning? rest).map (c :: ·)
  | .unit _ lead _ _ :: rest =>
    if isTrailSurrogate lead then none
    else if isLeadSurrogate lead then
      match rest with
      | .unit _ trail _ _ :: rest =>
        if isTrailSurrogate trail then (meaning? rest).map (joinSurrogates lead trail :: ·)
        else none
      | _ => none
    else (meaning? rest).map (Char.ofNat lead :: ·)

/-- The string that pieces spell. -/
def string? (pieces : List Piece) : Option String :=
  (meaning? pieces).map String.ofList

/-- What follows the opening quote of a string. -/
def closed (pieces : List Piece) : List Char :=
  pieces.flatMap text ++ ['"']

/-- The pieces of a text in which each character stands for itself. -/
def ofText (text : String) : List Piece :=
  text.toList.filterMap fun c =>
    if usual : c ≠ '"' ∧ c ≠ '\\' ∧ 0x20 ≤ c.toNat then some (.plain c usual) else none

/-- A string with its quotes. -/
def quoted (pieces : List Piece) : List Char :=
  '"' :: closed pieces

end Piece

/-- A document as it is spelled, up to white space. -/
inductive Node where
  | null
  | flag (value : Bool)
  | number (token : Token)
  | string (pieces : List Piece)
  | list (items : List Node)
  | object (members : List (List Piece × Node))

/-- The members of an object under their names, in the order of the text. -/
def decodeMembers (members : List (List Piece × Node)) : Option (List (String × Node)) :=
  members.mapM fun member => (Piece.string? member.1).map (·, member.2)

theorem decodeMembers_cons (key : List Piece) (node : Node) (members : List (List Piece × Node)) :
    decodeMembers ((key, node) :: members) =
      (Piece.string? key).bind fun name => (decodeMembers members).map ((name, node) :: ·) := by
  rw [decodeMembers, List.mapM_cons, ← decodeMembers]
  cases Piece.string? key with
  | none => rfl
  | some name => cases decodeMembers members <;> rfl

theorem decodeMembers_append (left right : List (List Piece × Node)) :
    decodeMembers (left ++ right) =
      (decodeMembers left).bind fun before => (decodeMembers right).map (before ++ ·) := by
  rw [decodeMembers, List.mapM_append, ← decodeMembers, ← decodeMembers]
  cases decodeMembers left with
  | none => rfl
  | some before => cases decodeMembers right <;> rfl

/-- What stands between an item or a member and the one before it. -/
def separator (first : Bool) : List Char :=
  if first then [] else [',']

namespace Node

mutual
/-- A text spells a node, with any white space between the tokens. -/
def Spells : Node → List Char → Prop
  | .null, text => text = "null".toList
  | .flag value, text => text = writeFlag value
  | .number token, text => text = token.text
  | .string pieces, text => text = Piece.quoted pieces
  | .list items, text => ∃ inside, text = '[' :: inside ∧ SpellsItems true items inside
  | .object members, text => ∃ inside, text = '\x7b' :: inside ∧ SpellsMembers true members inside

/-- A text spells items, up to and with the closing bracket. -/
def SpellsItems : Bool → List Node → List Char → Prop
  | _, [], text => ∃ gap, Blank gap ∧ text = gap ++ [']']
  | first, item :: rest, text => ∃ gap lead spelled others, Blank gap ∧ Blank lead ∧
      item.Spells spelled ∧ SpellsItems false rest others ∧
        text = gap ++ (separator first ++ (lead ++ (spelled ++ others)))

/-- A text spells members, up to and with the closing bracket. -/
def SpellsMembers : Bool → List (List Piece × Node) → List Char → Prop
  | _, [], text => ∃ gap, Blank gap ∧ text = gap ++ ['\x7d']
  | first, (key, value) :: rest, text => ∃ gap lead pause space spelled others,
      Blank gap ∧ Blank lead ∧ Blank pause ∧ Blank space ∧
      value.Spells spelled ∧ SpellsMembers false rest others ∧
        text = gap ++ (separator first ++ (lead ++ (Piece.quoted key ++
          (pause ++ ':' :: (space ++ (spelled ++ others))))))
end

mutual
/-- The text of a node without white space. -/
def spelling : Node → List Char
  | .null => "null".toList
  | .flag value => writeFlag value
  | .number token => token.text
  | .string pieces => Piece.quoted pieces
  | .list items => '[' :: spellingItems true items
  | .object members => '\x7b' :: spellingMembers true members

def spellingItems : Bool → List Node → List Char
  | _, [] => [']']
  | first, item :: rest => separator first ++ (item.spelling ++ spellingItems false rest)

def spellingMembers : Bool → List (List Piece × Node) → List Char
  | _, [] => ['\x7d']
  | first, (key, value) :: rest =>
    separator first ++ (Piece.quoted key ++ ':' :: (value.spelling ++ spellingMembers false rest))
end

mutual
theorem spells_spelling : (node : Node) → node.Spells node.spelling
  | .null => rfl
  | .flag _ => rfl
  | .number _ => rfl
  | .string _ => rfl
  | .list items => ⟨_, rfl, spells_items true items⟩
  | .object members => ⟨_, rfl, spells_members true members⟩

theorem spells_items (first : Bool) : (items : List Node) →
    SpellsItems first items (spellingItems first items)
  | [] => ⟨[], List.forall_mem_nil _, rfl⟩
  | item :: rest => ⟨[], [], _, _, List.forall_mem_nil _, List.forall_mem_nil _,
      item.spells_spelling, spells_items false rest, rfl⟩

theorem spells_members (first : Bool) : (members : List (List Piece × Node)) →
    SpellsMembers first members (spellingMembers first members)
  | [] => ⟨[], List.forall_mem_nil _, rfl⟩
  | (_, value) :: rest => ⟨[], [], [], [], _, _, List.forall_mem_nil _, List.forall_mem_nil _,
      List.forall_mem_nil _, List.forall_mem_nil _, value.spells_spelling,
      spells_members false rest, rfl⟩
end

/-- A text is a document that is spelled as a node. -/
def IsDocument (node : Node) (text : String) : Prop :=
  ∃ before spelled after, Blank before ∧ Blank after ∧ node.Spells spelled ∧
    text.toList = before ++ (spelled ++ after)

theorem isDocument_spelling (node : Node) : node.IsDocument (String.ofList node.spelling) :=
  ⟨[], node.spelling, [], List.forall_mem_nil _, List.forall_mem_nil _, node.spells_spelling,
    by simp⟩

end Node

end MonitorFeed.Json
