import Mathlib.Data.List.DropRight
import MonitorFeed.Proofs.Json.Brackets
import MonitorFeed.Proofs.Schema.Verdict

/-!
A reader of a schema takes nodes only, so a text that is read as a value is a document. With the
verdict on each document this says of every text whether and as what it is read.
-/

namespace MonitorFeed

open Json

section Leaves

variable {α : Type} {text rest : List Char} {c : Char} {tail : List Char} {value : α}

/-- What is taken begins with a character that is no white space, and is taken from there alike. -/
theorem exists_of_atValue {read : Char → List Char → Except Fault α}
    (taken : atValue read text = .ok value) :
    ∃ gap c tail, Blank gap ∧ text = gap ++ c :: tail ∧ atValue read (c :: tail) = .ok value ∧
      read c tail = .ok value := by
  obtain ⟨gap, blank, begins⟩ := exists_skipSpace text
  cases start : skipSpace text with
  | nil =>
    rw [atValue, start] at taken
    cases taken
  | cons c tail =>
    have again : skipSpace (c :: tail) = c :: tail := by
      rw [← start]
      exact List.dropWhile_idempotent _ _
    rw [start] at begins
    rw [atValue, start] at taken
    refine ⟨gap, c, tail, blank, begins, ?_, taken⟩
    rw [atValue, again]
    exact taken

/-- What a reader takes once its first character is known, it takes after white space. -/
theorem takesNodes_atValue {read : Char → List Char → Except Fault (α × List Char)}
    (each : ∀ c tail value rest, read c tail = .ok (value, rest) → Spans (c :: tail) rest) :
    TakesNodes (atValue read) := by
  intro text value rest taken
  obtain ⟨gap, c, tail, blank, rfl, -, read⟩ := exists_of_atValue taken
  exact (each c tail value rest read).after blank

theorem takesNodes_text (wanted : String) : TakesNodes (readText wanted) := by
  refine takesNodes_atValue fun c tail value rest read => ?_
  split at read
  · rename_i quote
    subst quote
    obtain ⟨pieces, spelled⟩ := exists_pieces_of_scanText read
    exact spans_quoted spelled
  · exact absurd read (refuse_ne_ok _)

theorem spans_mapWord {given : α} (node : Node) {letters : List Char}
    (spells : node.Spells (c :: letters))
    (read : (word letters tail).map (given, ·) = .ok (value, rest)) : Spans (c :: tail) rest := by
  obtain ⟨after, spelled, same⟩ := map_eq_ok_iff.mp read
  obtain ⟨-, rfl⟩ := Prod.mk.inj same
  exact spans_word node spells spelled

theorem takesNodes_flag : TakesNodes readFlag := by
  refine takesNodes_atValue fun c tail value rest read => ?_
  split at read
  · rename_i letter
    subst letter
    exact spans_mapWord (.flag true) rfl read
  split at read
  · rename_i letter
    subst letter
    exact spans_mapWord (.flag false) rfl read
  · exact absurd read (refuse_ne_ok _)

section Numbers

variable {wanted : String}

/-- What is made of what has been taken does not take any more. -/
def Rests (next : Number → List Char → Except Fault (α × List Char)) : Prop :=
  ∀ number left, ∃ verdict : Option α,
    (next number left).toOption = verdict.map fun value => (value, left)

theorem eq_of_toOption {result : Except Fault (α × List Char)} {verdict : Option α}
    {left : List Char} (same : result.toOption = verdict.map fun value => (value, left))
    (taken : result = .ok (value, rest)) : rest = left := by
  subst taken
  cases verdict with
  | none => cases same
  | some other => exact (Prod.mk.inj (Option.some.inj same)).2

theorem spans_of_scanNumber {next : Number → List Char → Except Fault (α × List Char)}
    (rests : Rests next) {negative : Bool} {text : List Char}
    (read : (scanNumber negative text >>= fun (number, rest) => next number rest) =
      .ok (value, rest)) :
    ∃ token : Token, token.negative = negative ∧ text = token.unsigned ++ rest := by
  obtain ⟨⟨number, left⟩, scanned, made⟩ := bind_eq_ok_iff.mp read
  obtain ⟨verdict, same⟩ := rests number left
  obtain rfl := eq_of_toOption same made
  exact exists_token_of_scanNumber scanned

theorem takesNodes_number (wanted : String)
    {accept : Number → List Char → Except Fault (α × List Char)} (rests : Rests accept) :
    TakesNodes (readNumber wanted accept) := by
  refine takesNodes_atValue fun c tail value rest read => ?_
  split at read
  · rename_i sign
    subst sign
    obtain ⟨token, negative, spelled⟩ := spans_of_scanNumber rests read
    exact spans_negative negative spelled
  split at read
  · obtain ⟨token, positive, spelled⟩ := spans_of_scanNumber rests read
    exact spans_unsigned positive spelled
  · exact absurd read (refuse_ne_ok _)

theorem rests_acceptInteger : Rests acceptInteger :=
  fun number left => ⟨number.integer?, toOption_acceptInteger number left⟩

theorem rests_acceptNatural : Rests acceptNatural :=
  fun number left => ⟨number.natural?, toOption_acceptNatural number left⟩

end Numbers

/-- What an instant is made of, once its number is known. -/
private def acceptMoment (number : Number) (rest : List Char) :
    Except Fault (Timestamp × List Char) :=
  match number with
  | .natural value => acceptInstant (Timestamp.ofInteger value) rest
  | .negative magnitude => acceptInstant (Timestamp.ofInteger (-(magnitude : Int))) rest
  | .real value => differ (.wrongType (.real value) instantWanted) rest

private theorem rests_acceptMoment : Rests acceptMoment := by
  intro number left
  cases number with
  | natural value => exact ⟨_, toOption_acceptInstant _ left⟩
  | negative magnitude => exact ⟨_, toOption_acceptInstant _ left⟩
  | real value => exact ⟨none, rfl⟩

theorem takesNodes_instant : TakesNodes readInstant := by
  refine takesNodes_atValue fun c tail value rest read => ?_
  simp only at read
  split at read
  · rename_i quote
    subst quote
    obtain ⟨⟨given, left⟩, scanned, made⟩ := bind_eq_ok_iff.mp read
    obtain rfl := eq_of_toOption (toOption_acceptInstant _ left) made
    obtain ⟨pieces, spelled⟩ := exists_pieces_of_scanText scanned
    exact spans_quoted spelled
  split at read
  · rename_i sign
    subst sign
    obtain ⟨token, negative, spelled⟩ := spans_of_scanNumber rests_acceptMoment read
    exact spans_negative negative spelled
  split at read
  · obtain ⟨token, positive, spelled⟩ := spans_of_scanNumber rests_acceptMoment read
    exact spans_unsigned positive spelled
  split at read
  · cases read
  split at read
  · cases read
  · exact absurd read (refuse_ne_ok _)

section Choices

variable {kind : Choice α}

theorem exists_pieces_of_readName (read : readName kind text = .ok (value, rest)) :
    ∃ pieces, text = Piece.closed pieces ++ rest := by
  obtain ⟨⟨given, left⟩, scanned, found⟩ := bind_eq_ok_iff.mp read
  simp only at found
  split at found
  · obtain ⟨-, rfl⟩ := Prod.mk.inj (Except.ok.inj found)
    exact exists_pieces_of_scanText scanned
  · cases found

theorem skipsNodes_readNull : SkipsNodes readNull := by
  intro text rest passed
  obtain ⟨gap, c, tail, blank, rfl, -, read⟩ := exists_of_atValue passed
  refine Spans.after blank ?_
  split at read
  · rename_i letter
    subst letter
    exact spans_word .null rfl read
  · exact absurd read (refuse_ne_ok _)

theorem exists_of_closeChoice {given : α} (closed : closeChoice given text = .ok (value, rest)) :
    ∃ after gap, SpansEntry text after ∧ Blank gap ∧ after = gap ++ '\x7d' :: rest := by
  obtain ⟨valued, marked, closed⟩ := bind_eq_ok_iff.mp closed
  obtain ⟨after, passed, closed⟩ := bind_eq_ok_iff.mp closed
  split at closed
  · cases closed
  · rename_i left start
    obtain ⟨-, rfl⟩ := Prod.mk.inj (Except.ok.inj closed)
    obtain ⟨gap, blank, same⟩ := exists_of_skipSpace start
    exact ⟨after, gap, .of_colon marked (skipsNodes_readNull passed), blank, same⟩
  · cases closed

/-- An object that is an alternative has the one member. -/
theorem spans_choiceObject (read : readChoice kind ('\x7b' :: text) = .ok (value, rest)) :
    Spans ('\x7b' :: text) rest := by
  have whole := read
  rw [readChoice, atValue_cons rfl] at read
  simp only [Char.reduceEq, ↓reduceIte] at read
  split at read
  · cases read
  · rename_i inner start
    rw [readChoice_named kind start] at whole
    obtain ⟨⟨found, left⟩, named, closed⟩ := bind_eq_ok_iff.mp whole
    obtain ⟨pieces, spelled⟩ := exists_pieces_of_readName named
    obtain ⟨after, gap, entry, blank, same⟩ := exists_of_closeChoice closed
    obtain ⟨lead, blankLead, begins⟩ := exists_of_skipSpace start
    have one : SpansMembers true (lead ++ ([] ++ ([] ++ (Piece.quoted pieces ++ left)))) rest := by
      refine .cons blankLead blank_nil pieces entry ?_
      rw [same]
      exact .close false blank rest
    have opens : text = lead ++ ([] ++ ([] ++ (Piece.quoted pieces ++ left))) := by
      rw [begins, spelled]
      rfl
    rw [opens]
    exact one.spans
  · cases read
  · cases read

theorem takesNodes_choice (kind : Choice α) : TakesNodes (readChoice kind) := by
  intro text value rest taken
  obtain ⟨gap, c, tail, blank, rfl, whole, read⟩ := exists_of_atValue taken
  refine Spans.after blank ?_
  by_cases quote : c = '"'
  · subst quote
    simp only [↓reduceIte] at read
    obtain ⟨pieces, spelled⟩ := exists_pieces_of_readName read
    exact spans_quoted spelled
  by_cases brace : c = '\x7b'
  · subst brace
    exact spans_choiceObject whole
  · simp only [quote, brace, ↓reduceIte] at read
    cases read

end Choices

end Leaves

section Containers

variable {α : Type} {content : List Char → Except Fault (α × List Char)}

theorem takesNodes_optional (each : TakesNodes content) : TakesNodes (readOptional content) := by
  intro text value rest taken
  obtain ⟨gap, blank, begins⟩ := exists_skipSpace text
  rw [begins]
  refine Spans.after blank ?_
  unfold readOptional at taken
  split at taken
  · rename_i tail start
    rw [start]
    exact spans_mapWord .null rfl taken
  · obtain ⟨⟨held, left⟩, read, same⟩ := map_eq_ok_iff.mp taken
    obtain ⟨-, rfl⟩ := Prod.mk.inj same
    exact each read

theorem takesNodes_list (each : TakesNodes content) : TakesNodes (readList content) := by
  refine takesNodes_atValue fun c tail value rest read => ?_
  split at read
  · rename_i bracket
    subst bracket
    obtain ⟨⟨values, left⟩, scanned, same⟩ := bind_eq_ok_iff.mp read
    obtain ⟨-, rfl⟩ := Prod.mk.inj (Except.ok.inj same)
    exact (spans_scanItems each scanned).spans
  · exact absurd read (refuse_ne_ok _)

theorem spansEntry_addMember (each : TakesNodes content) {key : String} {text rest : List Char}
    {table next : Table α} (read : addMember content key text table = .ok (next, rest)) :
    SpansEntry text rest := by
  obtain ⟨after, marked, read⟩ := bind_eq_ok_iff.mp read
  obtain ⟨⟨value, left⟩, taken, same⟩ := bind_eq_ok_iff.mp read
  obtain ⟨-, rfl⟩ := Prod.mk.inj (Except.ok.inj same)
  exact .of_colon marked (each taken)

theorem takesNodes_table (each : TakesNodes content) : TakesNodes (readTable content) := by
  intro text value rest taken
  obtain ⟨gap, c, tail, blank, rfl, whole, read⟩ := exists_of_atValue taken
  refine Spans.after blank ?_
  by_cases brace : c = '\x7b'
  · subst brace
    obtain ⟨⟨table, left⟩, folded, same⟩ :=
      bind_eq_ok_iff.mp ((readTable_brace content tail).symm.trans whole)
    obtain ⟨-, rfl⟩ := Prod.mk.inj (Except.ok.inj same)
    exact (spans_foldMembers (spansEntry_addMember each) folded).spans
  · simp only [brace, ↓reduceIte] at read
    exact absurd read (refuse_ne_ok _)

end Containers

namespace Members

variable {α β σ : Type}

/-- What is taken of an object for a member is a colon and a node. -/
def TakesEntries (members : Members β σ) : Prop :=
  ∀ {key text slots next rest}, members.take key text slots = .ok (next, rest) →
    SpansEntry text rest

/-- What is taken of a list for the members of a record is the rest of the list. -/
def TakesRows (members : Members β σ) : Prop :=
  ∀ {wanted index first text values rest},
    members.scanWhole wanted index first text = .ok (values, rest) → SpansItems first text rest

/-- An entry of a strange name is passed over. -/
theorem takesEntries_nil : Members.nil.TakesEntries := by
  rintro key text ⟨⟩ next rest taken
  obtain ⟨found, strange, taken⟩ := bind_eq_ok_iff.mp taken
  obtain rfl := Except.ok.inj strange
  obtain ⟨after, marked, taken⟩ := bind_eq_ok_iff.mp taken
  obtain ⟨left, passed, same⟩ := bind_eq_ok_iff.mp taken
  obtain ⟨-, rfl⟩ := Prod.mk.inj (Except.ok.inj same)
  exact .of_colon marked (skipsNodes_skipValue passed)

theorem takesRows_nil : Members.nil.TakesRows := by
  intro wanted index first text values rest taken
  obtain ⟨⟨held, after⟩, ended, taken⟩ := bind_eq_ok_iff.mp taken
  obtain ⟨-, rfl⟩ := Prod.mk.inj (Except.ok.inj ended)
  obtain ⟨left, closed, same⟩ := bind_eq_ok_iff.mp taken
  obtain ⟨-, rfl⟩ := Prod.mk.inj (Except.ok.inj same)
  obtain ⟨gap, blank, rfl⟩ := exists_of_closeList closed
  exact .close first blank left

section Cons

variable {name : String} {presence : Presence α} {content : Schema α} {members : Members β σ}

theorem takesEntries_cons (head : TakesNodes content.scan) (tail : members.TakesEntries) :
    (Members.cons name presence content members).TakesEntries := by
  rintro key text ⟨slot, slots⟩ next rest taken
  by_cases same : key = name
  · obtain ⟨found, read, taken⟩ := bind_eq_ok_iff.mp taken
    simp only [scanMember, same, ↓reduceIte] at read
    split at read
    · cases read
    · obtain ⟨after, marked, read⟩ := bind_eq_ok_iff.mp read
      obtain ⟨⟨value, left⟩, scanned, kept⟩ := bind_eq_ok_iff.mp read
      obtain rfl := Except.ok.inj kept
      obtain ⟨-, rfl⟩ := Prod.mk.inj (Except.ok.inj taken)
      exact .of_colon marked (head scanned)
  · rw [take_of_ne same] at taken
    obtain ⟨⟨held, left⟩, read, kept⟩ := map_eq_ok_iff.mp taken
    obtain ⟨-, rfl⟩ := Prod.mk.inj kept
    exact tail read

theorem takesRows_cons (head : TakesNodes content.scan) (tail : members.TakesRows) :
    (Members.cons name presence content members).TakesRows := by
  intro wanted index first text values rest taken
  cases next : nextItem first text with
  | error fault =>
    simp only [scanWhole, scanRow, next, bind, Except.bind] at taken
    cases taken
  | ok found =>
    obtain ⟨more, after⟩ := found
    have place := exists_of_nextItem next
    cases more with
    | true =>
      obtain ⟨gap, lead, blank, blankLead, rfl⟩ := place
      rw [scanWhole_item next] at taken
      obtain ⟨⟨value, middle⟩, read, taken⟩ := bind_eq_ok_iff.mp taken
      obtain ⟨⟨later, left⟩, scanned, same⟩ := map_eq_ok_iff.mp taken
      obtain ⟨-, rfl⟩ := Prod.mk.inj same
      exact .cons blank blankLead (head read) (tail scanned)
    | false =>
      -- The members that are left are absent, and the bracket is taken after the last of them.
      obtain ⟨gap, others, blank, rfl, rfl⟩ := place
      have ended : ((Members.cons name presence content members).scanWhole wanted index first
          (gap ++ ']' :: others)).toOption = _ := toOption_scanWhole_end next
      rw [taken] at ended
      obtain ⟨value, -, closed⟩ := Option.bind_eq_some_iff.mp ended.symm
      obtain ⟨⟨later, left⟩, scanned, same⟩ := Option.map_eq_some_iff.mp closed
      obtain ⟨-, rfl⟩ := Prod.mk.inj same
      obtain rfl := (tail (toOption_eq_some_iff.mp scanned)).eq_of_close rfl
      exact .close first blank left

end Cons

end Members

section Records

variable {α β σ : Type} {label : String} {members : Members β σ} {view : View α β}

theorem takesNodes_record (entries : members.TakesEntries) (rows : members.TakesRows) :
    TakesNodes (Schema.record label members view).scan := by
  intro text value rest taken
  obtain ⟨gap, c, tail, blank, rfl, whole, read⟩ := exists_of_atValue taken
  refine Spans.after blank ?_
  have record : (Schema.record label members view).scan (c :: tail) = .ok (value, rest) := whole
  by_cases bracket : c = '['
  · subst bracket
    obtain ⟨⟨values, left⟩, scanned, same⟩ := map_eq_ok_iff.mp ((scan_row tail).symm.trans record)
    obtain ⟨-, rfl⟩ := Prod.mk.inj same
    exact (rows scanned).spans
  by_cases brace : c = '\x7b'
  · subst brace
    obtain ⟨⟨slots, left⟩, folded, completed⟩ :=
      bind_eq_ok_iff.mp ((scan_record tail).symm.trans record)
    simp only at completed
    split at completed
    · obtain ⟨-, rfl⟩ := Prod.mk.inj (Except.ok.inj completed)
      exact (spans_foldMembers entries folded).spans
    · cases completed
  · simp only [bracket, brace, ↓reduceIte] at read
    exact absurd read (refuse_ne_ok _)

end Records

mutual
/-- What is taken of a text for a value of a schema is a node. -/
theorem Schema.takesNodes : {α : Type} → (schema : Schema α) → TakesNodes schema.scan
  | _, .text => takesNodes_text _
  | _, .path => takesNodes_text _
  | _, .flag => takesNodes_flag
  | _, .integer => takesNodes_number _ rests_acceptInteger
  | _, .natural => takesNodes_number _ rests_acceptNatural
  | _, .real => takesNodes_number _ fun number _ => ⟨some number.toFloat, rfl⟩
  | _, .instant => takesNodes_instant
  | _, .choice kind => takesNodes_choice kind
  | _, .optional content => takesNodes_optional content.takesNodes
  | _, .list item => takesNodes_list item.takesNodes
  | _, .table entry => takesNodes_table entry.takesNodes
  | _, .record _ members _ => takesNodes_record members.takesEntries members.takesRows

theorem Members.takesEntries : {β σ : Type} → (members : Members β σ) → members.TakesEntries
  | _, _, .nil => Members.takesEntries_nil
  | _, _, .cons _ _ content rest => Members.takesEntries_cons content.takesNodes rest.takesEntries

theorem Members.takesRows : {β σ : Type} → (members : Members β σ) → members.TakesRows
  | _, _, .nil => Members.takesRows_nil
  | _, _, .cons _ _ content rest => Members.takesRows_cons content.takesNodes rest.takesRows
end

section Read

variable {α : Type} {schema : Schema α} {text : String} {value : α}

theorem eq_of_finish {given : α} {rest : List Char} (finished : finish given rest = .ok value) :
    Blank rest ∧ given = value := by
  unfold finish at finished
  split at finished
  · rename_i ended
    obtain ⟨gap, blank, same⟩ := exists_of_skipSpace ended
    rw [List.append_nil] at same
    exact ⟨same ▸ blank, Except.ok.inj finished⟩
  · cases finished

/-- A text that is read as a value is a document. -/
theorem Schema.exists_isDocument (read : schema.read text = .ok value) :
    ∃ node : Node, node.IsDocument text := by
  rw [← toOption_eq_some_iff, Schema.read, readWhole, toOption_mapError, toOption_eq_some_iff]
    at read
  obtain ⟨⟨given, rest⟩, taken, finished⟩ := bind_eq_ok_iff.mp read
  obtain ⟨gap, node, spelled, blank, spells, same⟩ := schema.takesNodes taken
  exact ⟨node, gap, spelled, rest, blank, (eq_of_finish finished).1, spells, same⟩

/-- A text is read as a value exactly if it is a document of that verdict. -/
theorem Schema.read_eq_ok_iff :
    schema.read text = .ok value ↔
      ∃ node : Node, node.IsDocument text ∧ schema.verdict node = some value := by
  rw [← toOption_eq_some_iff]
  constructor
  · intro read
    obtain ⟨node, spelled⟩ := Schema.exists_isDocument (toOption_eq_some_iff.mp read)
    rw [schema.toOption_read_eq_verdict spelled] at read
    exact ⟨node, spelled, read⟩
  · rintro ⟨node, spelled, same⟩
    rw [schema.toOption_read_eq_verdict spelled, same]

end Read

end MonitorFeed
