/-!
UTF-8 as an octet machine with one refusal point. An ill-formed stretch is refused at its maximal
subpart: the octets that could still have begun a character, or the one octet that could not.
-/

namespace MonitorFeed.Text.Utf8

/-- The octets of a text. -/
def encode (text : List Char) : List UInt8 :=
  text.flatMap String.utf8EncodeChar

/-- Number of octets of a text. -/
def size (text : List Char) : Nat :=
  text.foldr (fun c octets => c.utf8Size + octets) 0

/-- The characters that start within a stretch of octets; the count holds the octets before the
text. -/
def slice (start stop : Nat) : Nat → List Char → List Char
  | _, [] => []
  | count, c :: rest =>
    if count < start then slice start stop (count + c.utf8Size) rest
    else if count < stop then c :: slice start stop (count + c.utf8Size) rest
    else []

/-- Between characters, or inside one: the bits gathered so far, the number of octets still to
come, and the bounds of the next one. -/
inductive State where
  | ready
  | inside (gathered : Nat) (missing : Nat) (lowest highest : UInt8)
deriving Repr, DecidableEq

/-- What the first octet of a character announces; no character starts with the octets refused. -/
def lead (octet : UInt8) : Option (Sum Char State) :=
  if octet < 0x80 then some (.inl (Char.ofNat octet.toNat))
  else if octet < 0xC2 then none
  else if octet < 0xE0 then some (.inr (.inside (octet.toNat - 0xC0) 1 0x80 0xBF))
  else if octet < 0xF0 then
    some (.inr (.inside (octet.toNat - 0xE0) 2
      (if octet = 0xE0 then 0xA0 else 0x80) (if octet = 0xED then 0x9F else 0xBF)))
  else if octet < 0xF5 then
    some (.inr (.inside (octet.toNat - 0xF0) 3
      (if octet = 0xF0 then 0x90 else 0x80) (if octet = 0xF4 then 0x8F else 0xBF)))
  else none

/-- The characters read from a stretch of octets, `none` standing for each refusal. -/
def scan : State → List UInt8 → List (Option Char)
  | .ready, [] => []
  | .inside .., [] => [none]
  | .ready, octet :: rest =>
    match lead octet with
    | none => none :: scan .ready rest
    | some (.inl c) => some c :: scan .ready rest
    | some (.inr state) => scan state rest
  | .inside gathered missing lowest highest, octet :: rest =>
    if lowest ≤ octet ∧ octet ≤ highest then
      let gathered := gathered * 64 + (octet.toNat - 0x80)
      if missing ≤ 1 then some (Char.ofNat gathered) :: scan .ready rest
      else scan (.inside gathered (missing - 1) 0x80 0xBF) rest
    else
      match lead octet with
      | none => none :: none :: scan .ready rest
      | some (.inl c) => none :: some c :: scan .ready rest
      | some (.inr state) => none :: scan state rest

/-- The text that the octets spell, if nothing is refused. -/
def decode? (octets : List UInt8) : Option (List Char) :=
  (scan .ready octets).mapM id

/-- The text that the octets spell, with the replacement character for each refusal. -/
def decodeLossy (octets : List UInt8) : List Char :=
  (scan .ready octets).map (·.getD '\uFFFD')

end MonitorFeed.Text.Utf8
