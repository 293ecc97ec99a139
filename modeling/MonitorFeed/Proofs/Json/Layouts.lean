import MonitorFeed.Proofs.Json.Loops
import MonitorFeed.Proofs.Json.Places
import MonitorFeed.Proofs.Json.Spelling
import Mathlib.Data.List.Forall2

/-!
The two layouts of a document. Both spell one node, so they are read alike; and whatever text spells
a node is its text without white space once the white space outside its strings is deleted.
-/

namespace MonitorFeed.Json

/-- A text without the white space outside its strings. -/
def despace : Stand → List Char → List Char
  | _, [] => []
  | .outside, c :: rest =>
    if isSpace c then despace .outside rest
    else c :: despace (if c = '"' then .inside else .outside) rest
  | .inside, c :: rest =>
    c :: despace (if c = '"' then .outside else if c = '\\' then .escaped else .inside) rest
  | .escaped, c :: rest => c :: despace .inside rest

/-- A character outside strings that stays there. -/
def Solid (c : Char) : Prop :=
  isSpace c = false ∧ c ≠ '"'

section Despace

variable (rest : List Char)

theorem despace_blank {gap : List Char} (blank : Blank gap) :
    despace .outside (gap ++ rest) = despace .outside rest := by
  induction gap with
  | nil => rfl
  | cons c gap ih =>
    obtain ⟨space, others⟩ := List.forall_mem_cons.mp blank
    rw [List.cons_append, despace, if_pos space, ih others]

theorem despace_solid {c : Char} (solid : Solid c) :
    despace .outside (c :: rest) = c :: despace .outside rest := by
  rw [despace, if_neg (Bool.eq_false_iff.mp solid.1), if_neg solid.2]

theorem despace_append {text : List Char} (solid : ∀ c ∈ text, Solid c) :
    despace .outside (text ++ rest) = text ++ despace .outside rest := by
  induction text with
  | nil => rfl
  | cons c text ih =>
    obtain ⟨first, others⟩ := List.forall_mem_cons.mp solid
    rw [List.cons_append, despace_solid _ first, ih others, List.cons_append]

/-- Every digit of a code unit has a value. -/
private theorem isSome_of_hexValue? {digits : List Char} {start value : Nat}
    (meaning : digits.foldlM (fun value c => (hexDigit? c).map (value * 16 + ·)) start =
      some value) : ∀ c ∈ digits, (hexDigit? c).isSome = true := by
  induction digits generalizing start with
  | nil => exact List.forall_mem_nil _
  | cons c digits ih =>
    obtain ⟨next, taken, later⟩ := Option.bind_eq_some_iff.mp meaning
    obtain ⟨digit, known, -⟩ := Option.map_eq_some_iff.mp taken
    exact List.forall_mem_cons.mpr ⟨Option.isSome_of_eq_some known, ih later⟩

theorem despace_inside {text : List Char} (usual : ∀ c ∈ text, c ≠ '"' ∧ c ≠ '\\') :
    despace .inside (text ++ rest) = text ++ despace .inside rest := by
  induction text with
  | nil => rfl
  | cons c text ih =>
    obtain ⟨⟨quote, slash⟩, others⟩ := List.forall_mem_cons.mp usual
    rw [List.cons_append, despace, if_neg quote, if_neg slash, ih others, List.cons_append]

/-- A piece of a string leaves the string neither ended nor escaped. -/
theorem despace_piece (piece : Piece) :
    despace .inside (piece.text ++ rest) = piece.text ++ despace .inside rest := by
  cases piece with
  | plain c usual =>
    exact despace_inside rest (List.forall_mem_singleton.mpr ⟨usual.1, usual.2.1⟩)
  | short letter c meaning => rfl
  | unit digits value four meaning =>
    have usual : ∀ c ∈ digits, c ≠ '"' ∧ c ≠ '\\' := by
      intro c member
      have known := isSome_of_hexValue? meaning c member
      constructor <;> (rintro rfl; cases known)
    exact congrArg (List.cons '\\' <| List.cons 'u' ·) (despace_inside rest usual)

theorem despace_quoted (pieces : List Piece) :
    despace .outside (Piece.quoted pieces ++ rest) =
      Piece.quoted pieces ++ despace .outside rest := by
  have closed : despace .inside (Piece.closed pieces ++ rest) =
      Piece.closed pieces ++ despace .outside rest := by
    induction pieces with
    | nil => rfl
    | cons piece pieces ih =>
      have text (more : List Char) : Piece.closed (piece :: pieces) ++ more =
          piece.text ++ (Piece.closed pieces ++ more) := by
        simp [Piece.closed]
      rw [text, text, despace_piece, ih]
  exact congrArg (List.cons '"') closed

theorem solid_of_isDigit {c : Char} (digit : c.isDigit = true) : Solid c := by
  refine ⟨(numeral_ne (Decimal.isNumeral_of_isDigit digit)).1, ?_⟩
  rintro rfl
  cases digit

/-- A number holds neither white space nor a quote. -/
theorem solid_of_mem_token (token : Token) : ∀ c ∈ token.text, Solid c := by
  have digits (digits : Digits) : ∀ c ∈ digits.text, Solid c :=
    fun c member => solid_of_isDigit (digits.spelled c member)
  have mark {c : Char} (space : isSpace c = false) (quote : c ≠ '"') : Solid c := ⟨space, quote⟩
  have fraction : ∀ c ∈ token.fractionText, Solid c := by
    unfold Token.fractionText
    cases token.fraction with
    | none => exact List.forall_mem_nil _
    | some fraction => exact List.forall_mem_cons.mpr ⟨mark rfl (by decide), digits fraction⟩
  have exponent : ∀ c ∈ token.exponentText, Solid c := by
    unfold Token.exponentText
    cases token.exponent with
    | none => exact List.forall_mem_nil _
    | some exponent =>
      refine List.forall_mem_cons.mpr
        ⟨?_, List.forall_mem_append.mpr ⟨?_, digits exponent.digits⟩⟩
      · unfold Exponent.letter
        split <;> exact mark rfl (by decide)
      · unfold Exponent.signText
        split
        · exact List.forall_mem_nil _
        · exact List.forall_mem_singleton.mpr (mark rfl (by decide))
        · exact List.forall_mem_singleton.mpr (mark rfl (by decide))
  have unsigned : ∀ c ∈ token.unsigned, Solid c :=
    List.forall_mem_append.mpr ⟨digits token.whole, List.forall_mem_append.mpr ⟨fraction, exponent⟩⟩
  unfold Token.text
  split
  · exact List.forall_mem_cons.mpr ⟨mark rfl (by decide), unsigned⟩
  · exact unsigned

theorem despace_separator (first : Bool) :
    despace .outside (separator first ++ rest) = separator first ++ despace .outside rest := by
  cases first <;> rfl

end Despace

namespace Node

mutual
/-- Without the white space outside its strings, a text that spells a node is the spelling of it. -/
theorem despace_spells : (node : Node) → (text rest : List Char) → node.Spells text →
    despace .outside (text ++ rest) = node.spelling ++ despace .outside rest
  | .null, _, _, rfl => rfl
  | .flag value, _, _, rfl => by cases value <;> rfl
  | .number token, _, rest, rfl => despace_append rest (solid_of_mem_token token)
  | .string pieces, _, rest, rfl => despace_quoted rest pieces
  | .list items, _, rest, ⟨inside, rfl, spells⟩ =>
    congrArg (List.cons '[') (despace_items true items inside rest spells)
  | .object members, _, rest, ⟨inside, rfl, spells⟩ =>
    congrArg (List.cons '\x7b') (despace_members true members inside rest spells)

theorem despace_items (first : Bool) : (items : List Node) → (text rest : List Char) →
    SpellsItems first items text →
    despace .outside (text ++ rest) = spellingItems first items ++ despace .outside rest
  | [], _, rest, ⟨gap, blank, rfl⟩ => by
    rw [List.append_assoc, despace_blank _ blank]
    rfl
  | item :: items, _, rest, ⟨gap, lead, spelled, others, blank, blankLead, spells, later, rfl⟩ => by
    simp only [List.append_assoc, despace_blank _ blank, despace_separator,
      despace_blank _ blankLead, despace_spells item _ _ spells,
      despace_items false items _ _ later, spellingItems]

theorem despace_members (first : Bool) : (members : List (List Piece × Node)) →
    (text rest : List Char) → SpellsMembers first members text →
    despace .outside (text ++ rest) = spellingMembers first members ++ despace .outside rest
  | [], _, rest, ⟨gap, blank, rfl⟩ => by
    rw [List.append_assoc, despace_blank _ blank]
    rfl
  | (key, value) :: members, _, rest, ⟨gap, lead, pause, space, spelled, others, blank, blankLead,
      blankPause, blankSpace, spells, later, rfl⟩ => by
    have colon : Solid ':' := ⟨rfl, by decide⟩
    simp only [List.append_assoc, List.cons_append, despace_blank _ blank, despace_separator,
      despace_blank _ blankLead, despace_quoted, despace_blank _ blankPause,
      despace_solid _ colon, despace_blank _ blankSpace, despace_spells value _ _ spells,
      despace_members false members _ _ later, spellingMembers]
end

end Node

/-- A node is what a document is spelled as, on one line and over several. -/
def LaidOut (document : Json) (node : Node) : Prop :=
  node.spelling = document.compact ∧ ∀ depth, node.Spells (document.pretty depth)

theorem blank_indent (depth : Nat) : Blank (indent depth) := by
  refine List.forall_mem_cons.mpr ⟨rfl, fun c member => ?_⟩
  rw [List.eq_of_mem_replicate member]
  rfl

section Items

variable {items : List Json} {nodes : List Node}

/-- Items after the first one, each on its own line behind the comma of the one before it. -/
def laterPretty (depth : Nat) (items : List Json) : List Char :=
  items.flatMap fun item => ',' :: (indent depth ++ item.pretty depth)

theorem prettyItems_cons (depth : Nat) (item : Json) (items : List Json) :
    prettyItems depth (item :: items) =
      indent depth ++ (item.pretty depth ++ laterPretty depth items) := by
  induction items generalizing item with
  | nil => simp [prettyItems, laterPretty]
  | cons next items ih => simp [prettyItems, ih, laterPretty]

theorem spelling_laterItems (each : List.Forall₂ LaidOut items nodes) :
    Node.spellingItems false nodes = laterItems items ++ [']'] := by
  induction each with
  | nil => rfl
  | cons head _ ih =>
    simp [Node.spellingItems, separator, head.1, ih, laterItems]

theorem spells_laterPretty (each : List.Forall₂ LaidOut items nodes) (depth outer : Nat) :
    Node.SpellsItems false nodes (laterPretty depth items ++ (indent outer ++ [']'])) := by
  induction each with
  | nil => exact ⟨indent outer, blank_indent outer, rfl⟩
  | @cons item node items nodes head _ ih =>
    refine ⟨[], indent depth, item.pretty depth, _, blank_nil, blank_indent depth, head.2 depth,
      ih, ?_⟩
    simp [laterPretty, separator]

theorem laidOut_list (each : List.Forall₂ LaidOut items nodes) :
    (Json.list items).LaidOut (.list nodes) := by
  cases each with
  | nil => exact ⟨rfl, fun _ => ⟨[']'], rfl, [], blank_nil, rfl⟩⟩
  | @cons item node items nodes head tail =>
    constructor
    · simp only [Node.spelling, Node.spellingItems, separator, ↓reduceIte, List.nil_append, head.1,
        spelling_laterItems tail, compact, compactItems_cons, List.cons_append, List.append_assoc]
    · intro depth
      refine ⟨_, rfl, [], indent (depth + 1), item.pretty (depth + 1), _, blank_nil,
        blank_indent _, head.2 _, spells_laterPretty tail (depth + 1) depth, ?_⟩
      simp [prettyItems_cons, separator]

end Items

section Members

variable {members : List (String × Json)} {nodes : List (List Piece × Node)}

/-- A member is what both layouts of a document hold under a name. -/
def LaidOutMember (member : String × Json) (node : List Piece × Node) : Prop :=
  Piece.quoted node.1 = writeText member.1 ∧ member.2.LaidOut node.2

/-- Members after the first one, each on its own line behind the comma of the one before it. -/
def laterPrettyMembers (depth : Nat) (members : List (String × Json)) : List Char :=
  members.flatMap fun member =>
    ',' :: (indent depth ++ (writeText member.1 ++ ':' :: ' ' :: member.2.pretty depth))

theorem prettyMembers_cons (depth : Nat) (member : String × Json)
    (members : List (String × Json)) :
    prettyMembers depth (member :: members) =
      indent depth ++ (writeText member.1 ++ ':' :: ' ' ::
        (member.2.pretty depth ++ laterPrettyMembers depth members)) := by
  induction members generalizing member with
  | nil => simp [prettyMembers, laterPrettyMembers]
  | cons next members ih => simp [prettyMembers, ih, laterPrettyMembers]

theorem spelling_laterMembers (each : List.Forall₂ LaidOutMember members nodes) :
    Node.spellingMembers false nodes = laterMembers members ++ ['\x7d'] := by
  induction each with
  | nil => rfl
  | cons head _ ih =>
    simp [Node.spellingMembers, separator, head.1, head.2.1, ih, laterMembers]

theorem spells_laterPrettyMembers (each : List.Forall₂ LaidOutMember members nodes)
    (depth outer : Nat) :
    Node.SpellsMembers false nodes
      (laterPrettyMembers depth members ++ (indent outer ++ ['\x7d'])) := by
  induction each with
  | nil => exact ⟨indent outer, blank_indent outer, rfl⟩
  | @cons member node members nodes head _ ih =>
    refine ⟨[], indent depth, [], [' '], member.2.pretty depth, _, blank_nil, blank_indent depth,
      blank_nil, blank_space, head.2.2 depth, ih, ?_⟩
    simp [laterPrettyMembers, separator, head.1]

theorem laidOut_object (each : List.Forall₂ LaidOutMember members nodes) :
    (Json.object members).LaidOut (.object nodes) := by
  cases each with
  | nil => exact ⟨rfl, fun _ => ⟨['\x7d'], rfl, [], blank_nil, rfl⟩⟩
  | @cons member node members nodes head tail =>
    obtain ⟨name, value⟩ := member
    constructor
    · simp only [Node.spelling, Node.spellingMembers, separator, ↓reduceIte, List.nil_append,
        head.1, head.2.1, spelling_laterMembers tail, compact, compactMembers_cons,
        List.cons_append, List.append_assoc]
    · intro depth
      refine ⟨_, rfl, [], indent (depth + 1), [], [' '], value.pretty (depth + 1), _, blank_nil,
        blank_indent _, blank_nil, blank_space, head.2.2 _,
        spells_laterPrettyMembers tail (depth + 1) depth, ?_⟩
      simp [prettyMembers_cons, separator, head.1]

end Members

mutual
/-- Every document has a node that both of its layouts spell. -/
theorem exists_laidOut : (document : Json) → ∃ node, document.LaidOut node
  | .null => ⟨.null, rfl, fun _ => rfl⟩
  | .flag value => ⟨.flag value, rfl, fun _ => rfl⟩
  | .integer value => by
    obtain ⟨token, same⟩ := Decimal.exists_token_integerText value
    exact ⟨.number token, same, fun _ => same.symm⟩
  | .real value => by
    by_cases finite : Decimal.isFinite value = true
    · obtain ⟨token, same⟩ := Decimal.exists_token_write finite
      have written : token.text = writeReal value := by rw [writeReal, if_pos finite, same]
      exact ⟨.number token, written, fun _ => written.symm⟩
    · have written : "null".toList = writeReal value := by rw [writeReal, if_neg finite]
      exact ⟨.null, written, fun _ => written.symm⟩
  | .string value => by
    obtain ⟨pieces, same⟩ := exists_quoted value
    exact ⟨.string pieces, same, fun _ => same.symm⟩
  | .list items => by
    obtain ⟨nodes, each⟩ := exists_laidOutItems items
    exact ⟨.list nodes, laidOut_list each⟩
  | .object members => by
    obtain ⟨nodes, each⟩ := exists_laidOutMembers members
    exact ⟨.object nodes, laidOut_object each⟩

theorem exists_laidOutItems : (items : List Json) → ∃ nodes, List.Forall₂ LaidOut items nodes
  | [] => ⟨[], .nil⟩
  | item :: items => by
    obtain ⟨node, head⟩ := exists_laidOut item
    obtain ⟨nodes, tail⟩ := exists_laidOutItems items
    exact ⟨node :: nodes, .cons head tail⟩

theorem exists_laidOutMembers : (members : List (String × Json)) →
    ∃ nodes, List.Forall₂ LaidOutMember members nodes
  | [] => ⟨[], .nil⟩
  | (name, value) :: members => by
    obtain ⟨key, quoted⟩ := exists_quoted name
    obtain ⟨node, head⟩ := exists_laidOut value
    obtain ⟨nodes, tail⟩ := exists_laidOutMembers members
    exact ⟨(key, node) :: nodes, .cons ⟨quoted, head⟩ tail⟩
end

/-- Over several lines a document has the text that it has on one, but for white space outside the
strings. -/
theorem despace_pretty (document : Json) (depth : Nat) :
    despace .outside (document.pretty depth) = document.compact := by
  obtain ⟨node, compact, spells⟩ := exists_laidOut document
  have same := node.despace_spells _ [] (spells depth)
  rwa [List.append_nil, compact, despace, List.append_nil] at same

/-- Both layouts of a document are documents of one node, whatever white space follows them. -/
theorem exists_isDocument_layouts (document : Json) :
    ∃ node : Node, node.IsDocument (String.ofList document.compact) ∧
      ∀ depth after, Blank after →
        node.IsDocument (String.ofList (document.pretty depth ++ after)) := by
  obtain ⟨node, compact, spells⟩ := exists_laidOut document
  refine ⟨node, compact ▸ node.isDocument_spelling, fun depth after blank => ?_⟩
  exact ⟨[], document.pretty depth, after, blank_nil, blank, spells depth, String.toList_ofList⟩

end MonitorFeed.Json
