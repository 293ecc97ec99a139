import MonitorFeed.Proofs.Json.Passage
import MonitorFeed.Proofs.Schema.Accept
import MonitorFeed.Proofs.Schema.Containers
import MonitorFeed.Proofs.Schema.Written

/-!
The verdict of the reader of a schema on any text that spells a node. Each layout takes its verdict
from the verdicts on the parts.
-/

namespace MonitorFeed

open Json

/-- The name of an alternative: a string, or the only member of an object, with a null. -/
def Json.Node.name? : Node → Option String
  | .string pieces => Piece.string? pieces
  | .object [(key, .null)] => Piece.string? key
  | _ => none

mutual
/-- The value that the reader of a schema makes of a node, whatever the layout of it is. A record is
an object, whose members fill the places one after the other, or a list of the values. -/
def Schema.verdict : {α : Type} → Schema α → Node → Option α
  | _, .choice kind, node => node.name?.bind kind.find?
  | _, .optional content, node =>
    if node.isNull then some none else (content.verdict node).map some
  | _, .list item, node => node.items?.bind (List.mapM fun node => item.verdict node)
  | _, .table entry, node =>
    node.members?.bind fun entries =>
      (entries.mapM fun held => (entry.verdict held.2).map (held.1, ·)).map Table.ofList
  | _, .record _ members view, node =>
    match node with
    | .object written =>
      (decodeMembers written).bind fun entries =>
        (entries.foldlM (fun slots entry => members.put slots entry) members.unread).bind
          fun slots => (members.complete slots).toOption.map view.build
    | .list items => (members.row items).map view.build
    | _ => none
  | _, schema, node => schema.accept node

/-- Puts the value of an entry into the place of its member, which has to be free; an entry of a
strange name is put nowhere. -/
def Members.put : {β σ : Type} → Members β σ → σ → String × Node → Option σ
  | _, _, .nil, (), _ => some ()
  | _, _, .cons name _ content rest, (slot, slots), entry =>
    if entry.1 = name then
      if slot.isSome then none else (content.verdict entry.2).map fun value => (some value, slots)
    else (rest.put slots entry).map (slot, ·)

/-- The values that items make in the order of the members. The last ones may be absent, and there
may not be more. -/
def Members.row : {β σ : Type} → Members β σ → List Node → Option β
  | _, _, .nil, [] => some ()
  | _, _, .nil, _ :: _ => none
  | _, _, .cons _ presence content rest, [] =>
    (presence.absent? content).bind fun value => (rest.row []).map (value, ·)
  | _, _, .cons _ _ content rest, item :: items =>
    (content.verdict item).bind fun value => (rest.row items).map (value, ·)
end

theorem toOption_refuse {α : Type} (wanted : String) (text : List Char) :
    (refuse wanted text : Except Fault α).toOption = none := by
  cases refused : (refuse wanted text : Except Fault α) with
  | error fault => rfl
  | ok value => exact absurd refused (refuse_ne_ok text)

theorem word_append (letters rest : List Char) : word letters (letters ++ rest) = .ok rest := by
  induction letters with
  | nil => rfl
  | cons letter letters ih => simp only [List.cons_append, word, ↓reduceIte, ih]

section Leaves

variable {α : Type} {node : Node} {text : List Char}

/-- A reader that looks at the next value comes to the verdict that it comes to there. -/
theorem reads_atValue {read : Char → List Char → Except Fault (α × List Char)}
    {verdict : Option α} (spells : node.Spells text)
    (reads : ∀ c tail rest, text = c :: tail → node.begins c = true → Closes rest →
      (read c (tail ++ rest)).toOption = verdict.map fun value => (value, rest)) :
    Reads (atValue read) text verdict := by
  intro gap rest blank closes
  obtain ⟨c, tail, rfl, begins⟩ := spells.exists_cons
  have start : atValue read (gap ++ (c :: tail ++ rest)) = read c (tail ++ rest) := by
    rw [atValue, skipSpace_append blank, List.cons_append,
      skipSpace_cons (Node.visible_of_begins begins).1]
  rw [start]
  exact reads c tail rest rfl begins closes

theorem reads_text (wanted : String) (spells : node.Spells text) :
    Reads (readText wanted) text node.string? := by
  refine reads_atValue spells fun c tail rest same begins _ => ?_
  subst same
  cases node with
  | string pieces =>
    obtain ⟨rfl, rfl⟩ := List.cons_eq_cons.mp spells
    exact toOption_scanText pieces rest
  | _ =>
    have other : c ≠ '"' := Node.ne_of_begins begins rfl
    simp only [other, ↓reduceIte]
    exact toOption_refuse _ _

theorem reads_flag (spells : node.Spells text) : Reads readFlag text node.flag? := by
  refine reads_atValue spells fun c tail rest same begins _ => ?_
  subst same
  cases node with
  | flag value =>
    cases value with
    | true =>
      obtain ⟨rfl, rfl⟩ := List.cons_eq_cons.mp (show c :: tail = 't' :: "rue".toList from spells)
      simp only [↓reduceIte, word_append]
      rfl
    | false =>
      obtain ⟨rfl, rfl⟩ := List.cons_eq_cons.mp (show c :: tail = 'f' :: "alse".toList from spells)
      simp only [Char.reduceEq, ↓reduceIte, word_append]
      rfl
  | _ =>
    have notTrue : c ≠ 't' := Node.ne_of_begins begins rfl
    have notFalse : c ≠ 'f' := Node.ne_of_begins begins rfl
    simp only [notTrue, notFalse, ↓reduceIte]
    exact toOption_refuse _ _

section Numbers

variable {accept : Number → Option α} {next : Number × List Char → Except Fault (α × List Char)}

/-- What is made of a number comes to the verdict on the number. -/
private theorem toOption_number (token : Token) {c : Char} {tail rest : List Char}
    (spells : c :: tail = token.text) (closes : Closes rest)
    (each : ∀ number rest, (next (number, rest)).toOption =
      (accept number).map fun value => (value, rest)) (other : Except Fault (α × List Char)) :
    (if c = '-' then scanNumber true (tail ++ rest) >>= next
      else if c.isDigit then scanNumber false (c :: (tail ++ rest)) >>= next
      else other).toOption =
        (token.number?.bind accept).map fun value => (value, rest) := by
  have scanned := agrees_scanNumber token rest closes
  have onward : (scanNumber token.negative (token.unsigned ++ rest) >>= next).toOption =
      (token.number?.bind accept).map fun value => (value, rest) := by
    rw [toOption_bind, scanned]
    cases token.number? with
    | none => rfl
    | some number => exact each number rest
  cases negative : token.negative with
  | true =>
    simp only [Token.text, negative, ↓reduceIte] at spells
    obtain ⟨rfl, rfl⟩ := List.cons_eq_cons.mp spells
    rw [negative] at onward
    simp only [↓reduceIte]
    exact onward
  | false =>
    simp only [Token.text, negative, Bool.false_eq_true, ↓reduceIte] at spells
    have digit : c.isDigit = true := by
      obtain ⟨rfl, -⟩ := List.cons_eq_cons.mp spells
      exact token.whole.spelled _ List.mem_cons_self
    have unsigned : c ≠ '-' := by
      rintro rfl
      revert digit
      decide
    rw [negative, ← spells] at onward
    simp only [unsigned, digit, ↓reduceIte]
    exact onward

theorem reads_number (wanted : String) (spells : node.Spells text)
    {read : Number → List Char → Except Fault (α × List Char)}
    (each : ∀ number rest, (read number rest).toOption =
      (accept number).map fun value => (value, rest)) :
    Reads (readNumber wanted read) text (node.number?.bind accept) := by
  refine reads_atValue spells fun c tail rest same begins closes => ?_
  subst same
  cases node with
  | number token => exact toOption_number token spells closes each _
  | _ =>
    have unsigned : c ≠ '-' := Node.ne_of_begins begins rfl
    have other := Node.isDigit_of_begins begins fun _ same => by cases same
    simp only [unsigned, other, ↓reduceIte, Bool.false_eq_true]
    exact toOption_refuse _ _

end Numbers

theorem toOption_acceptInteger (number : Number) (rest : List Char) :
    (acceptInteger number rest).toOption = number.integer?.map fun value => (value, rest) := by
  cases number with
  | natural n =>
    rw [acceptInteger, Number.integer?]
    split <;> rfl
  | _ => rfl

theorem toOption_acceptNatural (number : Number) (rest : List Char) :
    (acceptNatural number rest).toOption = number.natural?.map fun value => (value, rest) := by
  cases number <;> rfl

theorem toOption_acceptInstant (result : Except Timestamp.Fault Timestamp) (rest : List Char) :
    (acceptInstant result rest).toOption = result.toOption.map fun instant => (instant, rest) := by
  cases result <;> rfl

theorem reads_instant (spells : node.Spells text) : Reads readInstant text node.instant? := by
  refine reads_atValue spells fun c tail rest same begins closes => ?_
  subst same
  cases node with
  | string pieces =>
    obtain ⟨rfl, rfl⟩ := List.cons_eq_cons.mp spells
    simp only [↓reduceIte, toOption_bind, toOption_scanText, Node.instant?]
    cases Piece.string? pieces with
    | none => rfl
    | some value => exact toOption_acceptInstant _ _
  | number token =>
    have quote : c ≠ '"' := Node.ne_of_begins begins rfl
    simp only [quote, ↓reduceIte]
    refine toOption_number token spells closes (fun number rest => ?_) _
    cases number with
    | natural n => exact toOption_acceptInstant _ _
    | negative magnitude => exact toOption_acceptInstant _ _
    | real value => rfl
  | list items =>
    obtain rfl := of_decide_eq_true begins
    rfl
  | object members =>
    obtain rfl := of_decide_eq_true begins
    rfl
  | _ =>
    have quote : c ≠ '"' := Node.ne_of_begins begins rfl
    have unsigned : c ≠ '-' := Node.ne_of_begins begins rfl
    have bracket : c ≠ '[' := Node.ne_of_begins begins rfl
    have brace : c ≠ '\x7b' := Node.ne_of_begins begins rfl
    have other := Node.isDigit_of_begins begins fun _ same => by cases same
    simp only [quote, unsigned, bracket, brace, other, ↓reduceIte, Bool.false_eq_true]
    exact toOption_refuse _ _

theorem toOption_readName (kind : Choice α) (pieces : List Piece) (rest : List Char) :
    (readName kind (Piece.closed pieces ++ rest)).toOption =
      ((Piece.string? pieces).bind kind.find?).map fun value => (value, rest) := by
  rw [readName, toOption_bind, toOption_scanText]
  cases Piece.string? pieces with
  | none => rfl
  | some given =>
    simp only [Option.map_some, Option.bind_some]
    cases kind.find? given <;> rfl

theorem toOption_readNull (spells : node.Spells text) {space : List Char} (blank : Blank space)
    (rest : List Char) :
    (readNull (space ++ (text ++ rest))).toOption = if node.isNull then some rest else none := by
  obtain ⟨c, tail, rfl, begins⟩ := spells.exists_cons
  have start : skipSpace (space ++ (c :: tail ++ rest)) = c :: (tail ++ rest) := by
    rw [skipSpace_append blank, List.cons_append, skipSpace_cons (Node.visible_of_begins begins).1]
  cases node with
  | null =>
    obtain ⟨rfl, rfl⟩ := List.cons_eq_cons.mp (show c :: tail = 'n' :: "ull".toList from spells)
    simp only [readNull, atValue, start, ↓reduceIte, word_append]
    rfl
  | _ =>
    have letter : c ≠ 'n' := Node.ne_of_begins begins rfl
    simp only [readNull, atValue, start, letter, ↓reduceIte]
    exact toOption_refuse _ _

/-- What follows the name of an alternative in an object. -/
def closeChoice (value : α) (text : List Char) : Except Fault (α × List Char) := do
  let rest ← readNull (← colon text)
  match skipSpace rest with
  | [] => failHere .endInObject []
  | '\x7d' :: rest => return (value, rest)
  | rest => failHere .expectedValue rest

theorem readChoice_named (kind : Choice α) {text rest : List Char}
    (start : skipSpace text = '"' :: rest) :
    readChoice kind ('\x7b' :: text) =
      (readName kind rest >>= fun (value, rest) => closeChoice value rest) := by
  rw [readChoice, atValue_cons rfl]
  simp only [Char.reduceEq, ↓reduceIte, start]
  rfl

/-- Only a null may follow the name, and nothing else may stand in the object. -/
private theorem toOption_closeChoice (value : α) {pause space spelled others : List Char}
    {members : List (List Piece × Node)} (blankPause : Blank pause) (blankSpace : Blank space)
    (spells : node.Spells spelled) (later : Node.SpellsMembers false members others)
    (rest : List Char) :
    (closeChoice value (pause ++ ':' :: (space ++ (spelled ++ (others ++ rest))))).toOption =
      if node.isNull ∧ members = [] then some (value, rest) else none := by
  have null := toOption_readNull spells blankSpace (others ++ rest)
  simp only [closeChoice, colon_blank blankPause, toOption_bind, toOption_ok, Option.bind_some,
    null]
  cases node.isNull with
  | false => simp
  | true =>
    cases members with
    | nil =>
      obtain ⟨gap, blank, rfl⟩ := later
      simp only [↓reduceIte, Option.bind_some, List.append_assoc, List.singleton_append,
        skipSpace_append blank, skipSpace_cons (c := '\x7d') rfl, and_self]
      rfl
    | cons member members =>
      obtain ⟨gap, lead, pause, space, spelled, others, blank, -, -, -, -, -, rfl⟩ := later
      simp only [↓reduceIte, Option.bind_some, List.append_assoc, separator, Bool.false_eq_true,
        List.singleton_append, skipSpace_append blank, reduceCtorEq, and_false]
      rfl

/-- An object is an alternative if it has the one member of that name, with a null. -/
private theorem toOption_choiceObject (kind : Choice α) (members : List (List Piece × Node))
    {inside : List Char} (spells : Node.SpellsMembers true members inside) (rest : List Char) :
    (readChoice kind ('\x7b' :: (inside ++ rest))).toOption =
      ((Node.object members).name?.bind kind.find?).map fun value => (value, rest) := by
  cases members with
  | nil =>
    obtain ⟨gap, blank, rfl⟩ := spells
    have start : skipSpace (gap ++ ['\x7d'] ++ rest) = '\x7d' :: rest := by
      rw [List.append_assoc, skipSpace_append blank, List.singleton_append, skipSpace_cons rfl]
    rw [readChoice, atValue_cons rfl]
    simp only [Char.reduceEq, ↓reduceIte, start]
    rfl
  | cons member members =>
    obtain ⟨key, inner⟩ := member
    obtain ⟨gap, lead, pause, space, spelled, others, blank, blankLead, blankPause, blankSpace,
      spells, later, rfl⟩ := spells
    have start : skipSpace (gap ++ (separator true ++ (lead ++ (Piece.quoted key ++
        (pause ++ ':' :: (space ++ (spelled ++ others)))))) ++ rest) =
          '"' :: (Piece.closed key ++ (pause ++ ':' :: (space ++ (spelled ++
            (others ++ rest))))) := by
      simp only [separator, ↓reduceIte, List.nil_append, List.append_assoc,
        skipSpace_append blank, skipSpace_append blankLead, Piece.quoted, List.cons_append,
        skipSpace_cons (c := '"') rfl]
    have name : (Node.object ((key, inner) :: members)).name? =
        if inner.isNull ∧ members = [] then Piece.string? key else none := by
      cases members <;> cases inner <;> rfl
    rw [readChoice_named kind start, toOption_bind, toOption_readName, name]
    cases known : (Piece.string? key).bind kind.find? with
    | none =>
      split
      · rw [known]
        rfl
      · rfl
    | some value =>
      simp only [Option.map_some, Option.bind_some,
        toOption_closeChoice value blankPause blankSpace spells later rest]
      split
      · rw [known]
        rfl
      · rfl

theorem reads_choice (kind : Choice α) (spells : node.Spells text) :
    Reads (readChoice kind) text (node.name?.bind kind.find?) := by
  refine reads_atValue spells fun c tail rest same begins closes => ?_
  subst same
  cases node with
  | string pieces =>
    obtain ⟨rfl, rfl⟩ := List.cons_eq_cons.mp spells
    exact toOption_readName kind pieces rest
  | object members =>
    obtain ⟨inside, same, spells⟩ := spells
    obtain ⟨rfl, rfl⟩ := List.cons_eq_cons.mp same
    exact toOption_choiceObject kind members spells rest
  | _ =>
    have quote : c ≠ '"' := Node.ne_of_begins begins rfl
    have brace : c ≠ '\x7b' := Node.ne_of_begins begins rfl
    simp only [quote, brace, ↓reduceIte]
    rfl

end Leaves

section Containers

variable {α : Type} {node : Node} {text : List Char}
  {content : List Char → Except Fault (α × List Char)}

theorem reads_optional {verdict : Option α} (spells : node.Spells text)
    (reads : Reads content text verdict) :
    Reads (readOptional content) text (if node.isNull then some none else verdict.map some) := by
  intro gap rest blank closes
  obtain ⟨c, tail, rfl, begins⟩ := spells.exists_cons
  have read := reads [] rest blank_nil closes
  simp only [List.nil_append, List.cons_append] at read
  have start : skipSpace (gap ++ (c :: tail ++ rest)) = c :: (tail ++ rest) := by
    rw [skipSpace_append blank, List.cons_append, skipSpace_cons (Node.visible_of_begins begins).1]
  have present (letter : c ≠ 'n') : (readOptional content (gap ++ (c :: tail ++ rest))).toOption =
      (verdict.map some).map fun value => (value, rest) := by
    rw [readOptional, start]
    split
    · rename_i same
      exact absurd (List.cons_eq_cons.mp same).1 letter
    · rw [toOption_map, read]
      cases verdict <;> rfl
  cases node with
  | null =>
    obtain ⟨rfl, rfl⟩ := List.cons_eq_cons.mp (show c :: tail = 'n' :: "ull".toList from spells)
    rw [readOptional, start]
    simp only [word_append]
    rfl
  | _ => exact present (Node.ne_of_begins begins rfl)

theorem reads_list {accept : Node → Option α} (spells : node.Spells text)
    (each : ∀ (inner : Node) text, inner.Spells text → Reads content text (accept inner)) :
    Reads (readList content) text (node.items?.bind (List.mapM accept)) := by
  refine reads_atValue spells fun c tail rest same begins closes => ?_
  subst same
  cases node with
  | list items =>
    obtain ⟨inside, same, spells⟩ := spells
    obtain ⟨rfl, rfl⟩ := List.cons_eq_cons.mp same
    have enough : items.length < (tail ++ rest).length + 1 := by
      have shorter := length_le_items items true tail spells
      rw [List.length_append]
      omega
    have scanned := scanItems_spelled items true tail spells each _ enough rest
    simp only [↓reduceIte, toOption_bind, scanned, Node.items?, Option.bind_some]
    cases items.mapM accept <;> rfl
  | _ =>
    have bracket : c ≠ '[' := Node.ne_of_begins begins rfl
    simp only [bracket, ↓reduceIte]
    exact toOption_refuse _ _

/-- An object is taken by a reader that folds its members, as far as each of them can be. -/
theorem toOption_foldMembers {σ : Type}
    {member : String → List Char → σ → Except Fault (σ × List Char)}
    {step : σ → String × Node → Option σ} {members : List (List Piece × Node)}
    {inside : List Char} (spells : Node.SpellsMembers true members inside)
    (each : ∀ entry, ReadsMember member step entry) (state : σ) (rest : List Char) :
    (foldMembers member ((inside ++ rest).length + 1) true state (inside ++ rest)).toOption =
      ((decodeMembers members).bind (List.foldlM step state)).map
        fun state => (state, '\x7d' :: rest) := by
  have enough : members.length < (inside ++ rest).length + 1 := by
    have shorter := length_le_members members true inside spells
    rw [List.length_append]
    omega
  exact foldMembers_spelled members true inside spells each state _ enough rest

/-- Setting the accepted values of entries one after the other makes the table of them all. -/
private theorem foldlM_insert (accept : Node → Option α) (entries : List (String × Node))
    (table : Table α) :
    entries.foldlM (fun table held => (accept held.2).map (table.insert held.1 ·)) table =
      (entries.mapM fun held => (accept held.2).map (held.1, ·)).map fun values =>
        values.foldl (fun table entry => table.insert entry.1 entry.2) table := by
  induction entries generalizing table with
  | nil => rfl
  | cons held entries ih =>
    rw [List.foldlM_cons, List.mapM_cons]
    cases accept held.2 with
    | none => rfl
    | some value =>
      refine (ih (table.insert held.1 value)).trans ?_
      cases entries.mapM fun held => (accept held.2).map (held.1, ·) <;> rfl

theorem reads_table {accept : Node → Option α} (spells : node.Spells text)
    (each : ∀ (inner : Node) text, inner.Spells text → Reads content text (accept inner)) :
    Reads (readTable content) text (node.members?.bind fun entries =>
      (entries.mapM fun held => (accept held.2).map (held.1, ·)).map Table.ofList) := by
  refine reads_atValue spells fun c tail rest same begins closes => ?_
  subst same
  cases node with
  | object members =>
    obtain ⟨inside, same, spells⟩ := spells
    obtain ⟨rfl, rfl⟩ := List.cons_eq_cons.mp same
    have adds (entry : String × Node) : ReadsMember (addMember content)
        (fun table held => (accept held.2).map (table.insert held.1 ·)) entry := by
      intro table spelled pause space rest spells blankPause blankSpace closes
      have read := each entry.2 spelled spells space rest blankSpace closes
      simp only [addMember, colon_blank blankPause, toOption_bind, toOption_ok, Option.bind_some,
        read]
      cases accept entry.2 <;> rfl
    have folded := toOption_foldMembers spells adds Table.empty rest
    change (readTable content ('\x7b' :: (tail ++ rest))).toOption = _
    rw [readTable_brace, toOption_bind, folded, Node.members?]
    cases decodeMembers members with
    | none => rfl
    | some entries =>
      simp only [Option.bind_some, foldlM_insert]
      cases entries.mapM fun held => (accept held.2).map (held.1, ·) <;> rfl
  | _ =>
    have brace : c ≠ '\x7b' := Node.ne_of_begins begins rfl
    simp only [brace, ↓reduceIte]
    exact toOption_refuse _ _

end Containers

namespace Members

variable {α β σ : Type}

/-- An entry of a strange name is passed over. -/
theorem readsMember_nil (entry : String × Node) :
    ReadsMember Members.nil.take Members.nil.put entry := by
  rintro ⟨⟩ spelled pause space rest spells blankPause blankSpace closes
  have passed := passes_skipValue spells space rest blankSpace closes
  simp only [take, scanMember, bind, Except.bind, colon_blank blankPause, passed]
  rfl

theorem readsMember_self {name : String} {presence : Presence α} {content : Schema α}
    {rest : Members β σ} {inner : Node}
    (reads : ∀ text, inner.Spells text → Reads content.scan text (content.verdict inner)) :
    ReadsMember (Members.cons name presence content rest).take
      (Members.cons name presence content rest).put (name, inner) := by
  rintro ⟨slot, slots⟩ spelled pause space rest spells blankPause blankSpace closes
  have read := reads spelled spells space rest blankSpace closes
  cases slot with
  | some value => simp only [take, scanMember, put, ↓reduceIte, Option.isSome_some]; rfl
  | none =>
    simp only [take, scanMember, put, ↓reduceIte, Option.isSome_none, Bool.false_eq_true,
      colon_blank blankPause, toOption_bind, toOption_ok, Option.bind_some, read]
    cases content.verdict inner <;> rfl

theorem readsMember_of_ne {given name : String} (different : given ≠ name)
    {presence : Presence α} {content : Schema α} {rest : Members β σ} {inner : Node}
    (reads : ReadsMember rest.take rest.put (given, inner)) :
    ReadsMember (Members.cons name presence content rest).take
      (Members.cons name presence content rest).put (given, inner) := by
  rintro ⟨slot, slots⟩ spelled pause space rest spells blankPause blankSpace closes
  have read := reads slots spelled pause space rest spells blankPause blankSpace closes
  rw [take_of_ne different, toOption_map, read]
  simp only [put, different, ↓reduceIte]
  cases Members.put _ slots (given, inner) <;> rfl

end Members

section Rows

variable {α β σ : Type}

/-- A list is closed by its bracket only. -/
theorem toOption_closeList {text rest : List Char} {c : Char} (other : c ≠ ']')
    (start : skipSpace text = c :: rest) : (closeList text).toOption = none := by
  simp only [closeList, start, other, ↓reduceIte]
  split
  · split <;> rfl
  · rfl

namespace Members

/-- The values of a record that is written as a list, up to and with the closing bracket. -/
def scanWhole (members : Members β σ) (wanted : String) (index : Nat) (first : Bool)
    (text : List Char) : Except Fault (β × List Char) := do
  let (values, rest) ← members.scanRow wanted index first text
  return (values, ← closeList rest)

/-- A list is read as the values of a record, one item after the other. -/
def ReadsRow (members : Members β σ) : Prop :=
  ∀ items first inside wanted index rest, Node.SpellsItems first items inside →
    (members.scanWhole wanted index first (inside ++ rest)).toOption =
      (members.row items).map fun values => (values, rest)

/-- Where the members end, the list has to. -/
theorem readsRow_nil : Members.nil.ReadsRow := by
  intro items first inside wanted index rest spells
  have whole (text : List Char) :
      (Members.nil.scanWhole wanted index first text).toOption =
        (closeList text).toOption.map fun rest => ((), rest) := by
    simp only [scanWhole, scanRow, bind, Except.bind]
    cases closeList text <;> rfl
  rw [whole]
  cases items with
  | nil =>
    obtain ⟨gap, blank, rfl⟩ := spells
    simp only [closeList, List.append_assoc, skipSpace_append blank, List.singleton_append,
      skipSpace_cons (c := ']') rfl, ↓reduceIte]
    rfl
  | cons item items =>
    obtain ⟨gap, lead, spelled, others, blank, blankLead, spells, -, rfl⟩ := spells
    obtain ⟨c, tail, rfl, begins⟩ := spells.exists_cons
    obtain ⟨visible, other⟩ := Node.visible_of_begins begins
    have closed : (closeList
        (gap ++ (separator first ++ (lead ++ (c :: tail ++ others))) ++ rest)).toOption = none := by
      cases first with
      | true =>
        have start : skipSpace (gap ++ ([] ++ (lead ++ (c :: tail ++ others))) ++ rest) =
            c :: (tail ++ (others ++ rest)) := by
          simp only [List.nil_append, List.append_assoc, List.cons_append, skipSpace_append blank,
            skipSpace_append blankLead, skipSpace_cons visible]
        exact toOption_closeList other start
      | false =>
        have start : skipSpace (gap ++ ([','] ++ (lead ++ (c :: tail ++ others))) ++ rest) =
            ',' :: (lead ++ (c :: tail ++ (others ++ rest))) := by
          have comma : isSpace ',' = false := rfl
          simp only [List.append_assoc, List.cons_append, List.nil_append, skipSpace_append blank,
            skipSpace_cons comma]
        exact toOption_closeList (by decide) start
    rw [closed]
    rfl

section Cons

variable {name : String} {presence : Presence α} {content : Schema α} {members : Members β σ}
  {wanted : String} {index : Nat} {first : Bool} {text after : List Char}

theorem scanWhole_item (next : nextItem first text = .ok (true, after)) :
    (Members.cons name presence content members).scanWhole wanted index first text =
      (content.scan after >>= fun (value, text) =>
        (members.scanWhole wanted (index + 1) false text).map fun (values, rest) =>
          ((value, values), rest)) := by
  simp only [scanWhole, scanRow, next, bind, Except.bind, ↓reduceIte]
  cases content.scan after with
  | error fault => rfl
  | ok read =>
    simp only
    cases members.scanRow wanted (index + 1) false read.2 with
    | error fault => rfl
    | ok later =>
      simp only [pure, Except.pure]
      cases closeList later.2 <;> rfl

theorem toOption_scanWhole_end (next : nextItem first text = .ok (false, after)) :
    ((Members.cons name presence content members).scanWhole wanted index first text).toOption =
      (presence.absent? content).bind fun value =>
        (members.scanWhole wanted (index + 1) false after).toOption.map fun (values, rest) =>
          ((value, values), rest) := by
  simp only [scanWhole, scanRow, next, bind, Except.bind, Bool.false_eq_true, ↓reduceIte]
  cases presence.absent? content with
  | none => rfl
  | some value =>
    simp only [Option.bind_some]
    cases members.scanRow wanted (index + 1) false after with
    | error fault => rfl
    | ok later =>
      simp only [pure, Except.pure]
      cases closeList later.2 <;> rfl

theorem readsRow_cons
    (head : ∀ node text, node.Spells text → Reads content.scan text (content.verdict node))
    (tail : members.ReadsRow) : (Members.cons name presence content members).ReadsRow := by
  intro items first inside wanted index rest spells
  cases items with
  | nil =>
    obtain ⟨gap, blank, rfl⟩ := spells
    have later := tail [] false [']'] wanted (index + 1) rest ⟨[], blank_nil, rfl⟩
    rw [List.append_assoc, List.singleton_append,
      toOption_scanWhole_end (nextItem_close first blank rest), row]
    rw [List.singleton_append] at later
    cases presence.absent? content with
    | none => rfl
    | some value =>
      rw [Option.bind_some, Option.bind_some, later]
      cases members.row [] <;> rfl
  | cons item items =>
    obtain ⟨gap, lead, spelled, others, blank, blankLead, spells, later, rfl⟩ := spells
    have read := head item spelled spells [] (others ++ rest) blank_nil (closes_items later rest)
    rw [List.nil_append] at read
    rw [scanWhole_item (nextItem_node first blank blankLead spells others rest), toOption_bind,
      read, row]
    cases content.verdict item with
    | none => rfl
    | some value =>
      simp only [Option.map_some, Option.bind_some, toOption_map]
      rw [tail items false others wanted (index + 1) rest later]
      cases members.row items <;> rfl

end Cons

end Members

end Rows

section Records

variable {α β σ : Type} {label : String} {members : Members β σ} {view : View α β}

theorem scan_row (inside : List Char) :
    (Schema.record label members view).scan ('[' :: inside) =
      (members.scanWhole (recordLength label members.names.length) 0 true inside).map
        fun (values, rest) => (view.build values, rest) := by
  rw [Schema.scan, atValue_cons rfl]
  simp only [↓reduceIte, Members.scanWhole, bind, Except.bind]
  cases members.scanRow (recordLength label members.names.length) 0 true inside with
  | error fault => rfl
  | ok read =>
    simp only [pure, Except.pure]
    cases closeList read.2 <;> rfl

theorem reads_record {node : Node} {text : List Char} (spells : node.Spells text)
    (each : ∀ entry, ReadsMember members.take members.put entry) (row : members.ReadsRow) :
    Reads (Schema.record label members view).scan text
      ((Schema.record label members view).verdict node) := by
  intro gap rest blank closes
  obtain ⟨c, tail, rfl, begins⟩ := spells.exists_cons
  have visible := (Node.visible_of_begins begins).1
  have start : (Schema.record label members view).scan (gap ++ (c :: tail ++ rest)) =
      (Schema.record label members view).scan (c :: (tail ++ rest)) := by
    simp only [Schema.scan, atValue, skipSpace_append blank, List.cons_append,
      skipSpace_cons visible]
  rw [start]
  cases node with
  | list items =>
    obtain ⟨inside, same, spells⟩ := spells
    obtain ⟨rfl, rfl⟩ := List.cons_eq_cons.mp same
    rw [scan_row, toOption_map, row items true tail _ 0 rest spells, Schema.verdict]
    cases members.row items <;> rfl
  | object written =>
    obtain ⟨inside, same, spells⟩ := spells
    obtain ⟨rfl, rfl⟩ := List.cons_eq_cons.mp same
    have folded := toOption_foldMembers spells each members.unread rest
    rw [scan_record, toOption_bind, folded, Schema.verdict]
    cases decodeMembers written with
    | none => rfl
    | some entries =>
      simp only [Option.bind_some]
      cases entries.foldlM members.put members.unread with
      | none => rfl
      | some slots =>
        simp only [Option.map_some, Option.bind_some]
        cases members.complete slots <;> rfl
  | _ =>
    have bracket : c ≠ '[' := Node.ne_of_begins begins rfl
    have brace : c ≠ '\x7b' := Node.ne_of_begins begins rfl
    rw [Schema.scan, atValue_cons visible]
    simp only [bracket, brace, ↓reduceIte]
    exact toOption_refuse _ _

end Records

mutual
/-- The reader of a schema comes to its verdict on any text that spells a node. -/
theorem Schema.reads : {α : Type} → (schema : Schema α) → (node : Node) →
    (text : List Char) → node.Spells text → Reads schema.scan text (schema.verdict node)
  | _, .text, _, _, spells => reads_text _ spells
  | _, .path, _, _, spells => reads_text _ spells
  | _, .flag, _, _, spells => reads_flag spells
  | _, .integer, _, _, spells => reads_number _ spells toOption_acceptInteger
  | _, .natural, _, _, spells => reads_number _ spells toOption_acceptNatural
  | _, .real, node, _, spells => by
    have verdict : node.number?.bind (fun number => some number.toFloat) =
        node.number?.map Number.toFloat := by
      cases node.number? <;> rfl
    have read : Reads Schema.real.scan _ (node.number?.bind fun number => some number.toFloat) :=
      reads_number "f64" spells fun _ _ => rfl
    rwa [verdict] at read
  | _, .instant, _, _, spells => reads_instant spells
  | _, .choice kind, _, _, spells => reads_choice kind spells
  | _, .optional content, node, text, spells =>
    reads_optional spells (content.reads node text spells)
  | _, .list item, _, _, spells => reads_list spells item.reads
  | _, .table entry, _, _, spells => reads_table spells entry.reads
  | _, .record _ members _, _, _, spells =>
    reads_record spells members.readsMember members.readsRow

theorem Members.readsMember : {β σ : Type} → (members : Members β σ) →
    (entry : String × Node) → ReadsMember members.take members.put entry
  | _, _, .nil, entry => Members.readsMember_nil entry
  | _, _, .cons name presence content rest, (given, inner) => by
    by_cases same : given = name
    · subst same
      exact Members.readsMember_self (content.reads inner)
    · exact Members.readsMember_of_ne same (rest.readsMember (given, inner))

theorem Members.readsRow : {β σ : Type} → (members : Members β σ) → members.ReadsRow
  | _, _, .nil => Members.readsRow_nil
  | _, _, .cons _ _ content rest => Members.readsRow_cons content.reads rest.readsRow
end

/-- A text is read as the verdict on the node that it spells. -/
theorem Schema.toOption_read_eq_verdict {α : Type} (schema : Schema α) {node : Node} {text : String}
    (spelled : node.IsDocument text) : (schema.read text).toOption = schema.verdict node := by
  obtain ⟨before, spelled, after, blank, blankAfter, spells, same⟩ := spelled
  have closes : Closes after := by
    have closed := closes_append blankAfter Closes.nil
    rwa [List.append_nil] at closed
  have ended : skipSpace after = [] := by
    have skipped := skipSpace_append blankAfter []
    rwa [List.append_nil] at skipped
  have read := schema.reads node spelled spells before after blank closes
  rw [Schema.read, readWhole, same, toOption_mapError, toOption_bind, read]
  cases schema.verdict node with
  | none => rfl
  | some value =>
    simp only [Option.map_some, Option.bind_some, finish, ended]
    rfl

end MonitorFeed
