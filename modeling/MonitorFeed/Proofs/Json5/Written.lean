import MonitorFeed.Proofs.Json.Compact
import MonitorFeed.Proofs.Json5.Lexemes

/-!
JSON documents as JSON5 reads them. A document whose strings hold no line end that only JSON allows
there, and whose numbers are integers, is taken from its text on one line node by node.
-/

namespace MonitorFeed

open Json5

namespace Json

mutual
/-- What the text of a document on one line is read as. -/
def node : Json → Json5.Node
  | .null => .null
  | .flag value => .flag value
  | .integer value => .number (Decimal.integerText value)
  | .real value => .number (writeReal value)
  | .string value => .text (piecesOf value)
  | .list items => .list (nodes items)
  | .object members => .object (nodeMembers members)

def nodes : List Json → List Json5.Node
  | [] => []
  | item :: rest => node item :: nodes rest

def nodeMembers : List (String × Json) → List (List Json5.Piece × Json5.Node)
  | [] => []
  | (name, value) :: rest => (piecesOf name, node value) :: nodeMembers rest
end

/-- A document that means the same to a reader of JSON5. Its strings hold no line end that only JSON
allows there, and its numbers are integers that doubles hold, since JSON5 has no other numbers. -/
inductive Portable : Json → Prop where
  | null : Portable .null
  | flag (value : Bool) : Portable (.flag value)
  | integer {value : Int} (within : value.natAbs ≤ Decimal.wholeLimit) : Portable (.integer value)
  | string {text : String} (unbroken : Unbroken text) : Portable (.string text)
  | list {items : List Json} (each : ∀ item ∈ items, Portable item) : Portable (.list items)
  | object {members : List (String × Json)} (names : ∀ member ∈ members, Unbroken member.1)
      (each : ∀ member ∈ members, Portable member.2) : Portable (.object members)

end Json

namespace Json5

open Json (compactItems compactMembers escape)

/-- Visible characters of one octet are no white space. -/
theorem isGap_of_visible {c : Char} (visible : 0x20 < c.toNat ∧ c.toNat < 0x80) :
    isGap c = false := by
  have ne (d : Char) (outside : d.toNat ≤ 0x20 ∨ 0x80 ≤ d.toNat) : c ≠ d := by
    rintro rfl
    omega
  have low : ¬ '\u2000' ≤ c := fun above =>
    absurd (show 0x2000 ≤ c.toNat from above) (by omega)
  simp [isGap, endsLine, low, ne '\t', ne '\x0b', ne '\x0c', ne ' ', ne '\u00a0', ne '\ufeff', ne '\u1680',
    ne '\u202f', ne '\u205f', ne '\u3000', ne '\n', ne '\r', ne '\u2028', ne '\u2029']

theorem ne_of_isNumeral {c d : Char} (numeral : Decimal.isNumeral c = true)
    (other : Decimal.isNumeral d = false) : c ≠ d := by
  rintro rfl
  rw [numeral] at other
  cases other

theorem visible_of_isNumeral {c : Char} (numeral : Decimal.isNumeral c = true) :
    0x20 < c.toNat ∧ c.toNat < 0x80 := by
  simp only [Decimal.isNumeral, Bool.or_eq_true, decide_eq_true_eq] at numeral
  rcases numeral with (((digit | rfl) | rfl) | rfl) | rfl
  · have range := Char.isDigit_iff_toNat.mp digit
    exact ⟨Nat.lt_of_lt_of_le (by decide) range.1, Nat.lt_of_le_of_lt range.2 (by decide)⟩
  all_goals decide

/-- The text of a document begins with a token that closes no list. -/
theorem exists_token (document : Json) : ∃ c tail, document.compact = c :: tail ∧ c ≠ ']' ∧
    ∀ rest, nextToken (c :: rest) = .ok (c :: rest) := by
  have word : ∀ c ∈ Json.openings, (0x20 < c.toNat ∧ c.toNat < 0x80) ∧ c ≠ ']' ∧ c ≠ '/' := by
    simp [Json.openings]
  obtain ⟨c, tail, text, begins, -⟩ := Json.exists_compact_head document
  have fair : (0x20 < c.toNat ∧ c.toNat < 0x80) ∧ c ≠ ']' ∧ c ≠ '/' :=
    begins.elim (fun numeral => ⟨visible_of_isNumeral numeral, ne_of_isNumeral numeral rfl,
      ne_of_isNumeral numeral rfl⟩) (word c)
  exact ⟨c, tail, text, fair.2.1, nextToken_cons (isGap_of_visible fair.1) fair.2.2⟩

/-- A reader takes the node of a document from its text, and nothing more. -/
def Reads (scan : List Char → Except (List Char) (Node × List Char)) (document : Json) : Prop :=
  ∀ rest, Ends rest → scan (document.compact ++ rest) = .ok (document.node, rest)

section Containers

variable {scan : List Char → Except (List Char) (Node × List Char)}

private theorem token_comma (rest : List Char) : nextToken (',' :: rest) = .ok (',' :: rest) :=
  nextToken_cons (by decide) (by decide) rest

private theorem token_bracket (rest : List Char) : nextToken (']' :: rest) = .ok (']' :: rest) :=
  nextToken_cons (by decide) (by decide) rest

private theorem token_brace (rest : List Char) :
    nextToken ('\x7d' :: rest) = .ok ('\x7d' :: rest) :=
  nextToken_cons (by decide) (by decide) rest

private theorem token_colon (rest : List Char) : nextToken (':' :: rest) = .ok (':' :: rest) :=
  nextToken_cons (by decide) (by decide) rest

private theorem token_quote (rest : List Char) : nextToken ('"' :: rest) = .ok ('"' :: rest) :=
  nextToken_cons (by decide) (by decide) rest

section Items

variable {item : Json} (reads : Reads scan item) (steps : Nat)

include reads

private theorem scanItems_last (rest : List Char) :
    scanItems scan (steps + 1) (item.compact ++ ']' :: rest) = .ok ([item.node], rest) := by
  obtain ⟨c, tail, same, bracket, token⟩ := exists_token item
  have read := reads _ (.bracket rest)
  have closing : ∀ after, c :: (tail ++ ']' :: rest) = ']' :: after → False :=
    fun _ begins => bracket (List.cons_eq_cons.mp begins).1
  rw [same, List.cons_append] at read ⊢
  simp only [scanItems, token, read, token_bracket, bind, Except.bind, pure, Except.pure]

private theorem scanItems_more (text : List Char) :
    scanItems scan (steps + 1) (item.compact ++ ',' :: text) =
      (scanItems scan steps text).map fun read => (item.node :: read.1, read.2) := by
  obtain ⟨c, tail, same, bracket, token⟩ := exists_token item
  have read := reads _ (.comma text)
  have closing : ∀ after, c :: (tail ++ ',' :: text) = ']' :: after → False :=
    fun _ begins => bracket (List.cons_eq_cons.mp begins).1
  rw [same, List.cons_append] at read ⊢
  simp only [scanItems, token, read, token_comma, bind, Except.bind]
  cases scanItems scan steps text <;> rfl

end Items

/-- A list is read item by item up to its closing bracket. -/
theorem scanItems_compact {items : List Json} (each : ∀ item ∈ items, Reads scan item) {steps : Nat}
    (enough : items.length < steps) (rest : List Char) :
    scanItems scan steps (compactItems items ++ ']' :: rest) = .ok (Json.nodes items, rest) := by
  induction items generalizing steps with
  | nil =>
    obtain ⟨steps, rfl⟩ := Nat.exists_eq_succ_of_ne_zero (Nat.ne_of_gt enough)
    rfl
  | cons item items ih =>
    obtain ⟨steps, rfl⟩ := Nat.exists_eq_succ_of_ne_zero (Nat.ne_of_gt (Nat.zero_lt_of_lt enough))
    obtain ⟨head, tail⟩ := List.forall_mem_cons.mp each
    have later := ih tail (Nat.lt_of_succ_lt_succ enough)
    rw [Json.compactItems_cons, List.append_assoc]
    cases items with
    | nil =>
      rw [Json.laterItems, List.flatMap_nil, List.nil_append, scanItems_last head]
      rfl
    | cons next items =>
      rw [Json.laterItems_cons, List.cons_append, scanItems_more head, later]
      rfl

theorem scanKey_written {name : String} (unbroken : Unbroken name) (rest : List Char) :
    scanKey (Json.writeText name ++ rest) = .ok (piecesOf name, rest) := by
  rw [Json.writeText_append]
  exact scanPieces_written unbroken rest

section Members

variable {name : String} {document : Json} (unbroken : Unbroken name) (reads : Reads scan document)
  (steps : Nat)

include unbroken reads

private theorem scanMembers_last (rest : List Char) :
    scanMembers scan (steps + 1) (Json.writeText name ++ ':' :: (document.compact ++ '\x7d' :: rest)) =
      .ok ([(piecesOf name, document.node)], rest) := by
  obtain ⟨c, tail, same, -, token⟩ := exists_token document
  have read := reads _ (.brace rest)
  have key := scanKey_written unbroken (':' :: (document.compact ++ '\x7d' :: rest))
  rw [Json.writeText_append] at key ⊢
  rw [same, List.cons_append] at read key ⊢
  simp only [scanMembers, token_quote, List.cons.injEq, Char.reduceEq, false_and, imp_self,
    implies_true, key, token_colon, token, read, token_brace, bind, Except.bind, pure, Except.pure]

private theorem scanMembers_more (text : List Char) :
    scanMembers scan (steps + 1) (Json.writeText name ++ ':' :: (document.compact ++ ',' :: text)) =
      (scanMembers scan steps text).map fun read =>
        ((piecesOf name, document.node) :: read.1, read.2) := by
  obtain ⟨c, tail, same, -, token⟩ := exists_token document
  have read := reads _ (.comma text)
  have key := scanKey_written unbroken (':' :: (document.compact ++ ',' :: text))
  rw [Json.writeText_append] at key ⊢
  rw [same, List.cons_append] at read key ⊢
  simp only [scanMembers, token_quote, List.cons.injEq, Char.reduceEq, false_and, imp_self,
    implies_true, key, token_colon, token, read, token_comma, bind, Except.bind]
  cases scanMembers scan steps text <;> rfl

end Members

/-- An object is read member by member up to its closing brace. -/
theorem scanMembers_compact {members : List (String × Json)}
    (names : ∀ member ∈ members, Unbroken member.1)
    (each : ∀ member ∈ members, Reads scan member.2) {steps : Nat}
    (enough : members.length < steps) (rest : List Char) :
    scanMembers scan steps (compactMembers members ++ '\x7d' :: rest) =
      .ok (Json.nodeMembers members, rest) := by
  induction members generalizing steps with
  | nil =>
    obtain ⟨steps, rfl⟩ := Nat.exists_eq_succ_of_ne_zero (Nat.ne_of_gt enough)
    rfl
  | cons member members ih =>
    obtain ⟨steps, rfl⟩ := Nat.exists_eq_succ_of_ne_zero (Nat.ne_of_gt (Nat.zero_lt_of_lt enough))
    obtain ⟨name, document⟩ := member
    obtain ⟨unbroken, others⟩ := List.forall_mem_cons.mp names
    obtain ⟨head, tail⟩ := List.forall_mem_cons.mp each
    have later := ih others tail (Nat.lt_of_succ_lt_succ enough)
    rw [Json.compactMembers_cons, List.append_assoc, List.cons_append, List.append_assoc]
    cases members with
    | nil =>
      rw [Json.laterMembers, List.flatMap_nil, List.nil_append, scanMembers_last unbroken head]
      rfl
    | cons next members =>
      rw [Json.laterMembers_cons, List.cons_append, scanMembers_more unbroken head, later]
      rfl

end Containers

theorem scanNode_numeral {c : Char} (numeral : Decimal.isNumeral c = true) (depth : Nat)
    (tail : List Char) : scanNode (depth + 1) (c :: tail) =
      (scanNumber (c :: tail)).map fun (token, rest) => (.number token, rest) := by
  have ne {d : Char} (other : Decimal.isNumeral d = false) : d ≠ c :=
    (ne_of_isNumeral numeral other).symm
  simp [scanNode, spanWord, (ne (d := '[') rfl).symm, (ne (d := '\x7b') rfl).symm,
    (ne (d := '"') rfl).symm, (ne (d := '\'') rfl).symm, ne (d := 'n') rfl, ne (d := 't') rfl,
    ne (d := 'f') rfl]

private theorem exists_succ {document : Json} {depth : Nat}
    (enough : document.compact.length ≤ depth) : ∃ below, depth = below + 1 := by
  obtain ⟨c, tail, text, -⟩ := exists_token document
  rw [text, List.length_cons] at enough
  exact Nat.exists_eq_succ_of_ne_zero (Nat.ne_of_gt (Nat.lt_of_lt_of_le (Nat.succ_pos _) enough))

/-- A portable document is taken from its text node by node. The text is longer than that of each
part, so its length bounds the nesting. -/
theorem reads_scanNode {document : Json} (portable : document.Portable) {depth : Nat}
    (enough : document.compact.length ≤ depth) : Reads (scanNode depth) document := by
  induction portable generalizing depth with
  | null =>
    obtain ⟨depth, rfl⟩ := exists_succ enough
    exact fun _ _ => rfl
  | flag value =>
    obtain ⟨depth, rfl⟩ := exists_succ enough
    cases value <;> exact fun _ _ => rfl
  | @integer value =>
    obtain ⟨depth, rfl⟩ := exists_succ enough
    intro rest ends
    have numeral := Decimal.Numeral.integerText value
    have scanned := scanNumber_integerText value ends
    rw [Json.compact, Json.node]
    cases text : Decimal.integerText value with
    | nil => exact absurd text numeral.1
    | cons c tail =>
      rw [text] at numeral scanned
      rw [List.cons_append] at scanned ⊢
      rw [scanNode_numeral (numeral.2 c List.mem_cons_self), scanned]
      rfl
  | @string text unbroken =>
    obtain ⟨depth, rfl⟩ := exists_succ enough
    intro rest ends
    rw [Json.compact, Json.writeText_append, scanNode, scanPieces_written unbroken]
    rfl
  | @list items _ ih =>
    obtain ⟨depth, rfl⟩ := exists_succ enough
    intro rest ends
    rw [Json.compact, List.length_append, List.length_cons, List.length_singleton] at enough
    have each : ∀ item ∈ items, Reads (scanNode depth) item := by
      intro item held
      have within := Json.length_compact_le held
      exact ih item held (by omega)
    have fits : items.length < (compactItems items ++ ']' :: rest).length + 1 := by
      have fewer := Json.length_le_compactItems items
      rw [List.length_append]
      omega
    rw [Json.compact, List.append_assoc, List.cons_append, List.singleton_append, scanNode,
      scanItems_compact each fits]
    rfl
  | @object members names _ ih =>
    obtain ⟨depth, rfl⟩ := exists_succ enough
    intro rest ends
    rw [Json.compact, List.length_append, List.length_cons, List.length_singleton] at enough
    have each : ∀ member ∈ members, Reads (scanNode depth) member.2 := by
      intro member held
      have within := Json.length_compact_le_of_member held
      exact ih member held (by omega)
    have fits : members.length < (compactMembers members ++ '\x7d' :: rest).length + 1 := by
      have fewer := Json.length_le_compactMembers members
      rw [List.length_append]
      omega
    rw [Json.compact, List.append_assoc, List.cons_append, List.singleton_append, scanNode,
      scanMembers_compact names each fits]
    rfl

/-- The text of a portable document holds its node and nothing else. -/
theorem Node.ofText_compact {document : Json} (portable : document.Portable) :
    Node.ofText (String.ofList document.compact) = .ok document.node := by
  obtain ⟨c, tail, text, -, token⟩ := exists_token document
  have read : scanNode (document.compact.length + 1) (document.compact ++ []) =
      .ok (document.node, []) :=
    reads_scanNode portable (Nat.le_succ _) [] Ends.nil
  rw [List.append_nil] at read
  have scanned : scanDocument document.compact = .ok document.node := by
    rw [text] at read ⊢
    simp only [scanDocument, token, read, bind, Except.bind]
    rfl
  rw [Node.ofText, String.toList_ofList, scanned]
  rfl

end Json5

end MonitorFeed
