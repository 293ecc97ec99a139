import MonitorFeed.Proofs.Json.Compact
import Mathlib.Algebra.GroupWithZero.Nat

/-!
The places of a document, each under the steps that lead to it, and the null words of its text.
-/

namespace MonitorFeed.Json

/-- A step into a document. -/
inductive Step where
  | member (name : String)
  | item (index : Nat)
deriving Repr, DecidableEq

/-- Places as they are seen from one step above. -/
def beneath {β : Type} (step : Step) (places : List (List Step × β)) : List (List Step × β) :=
  places.map fun place => (step :: place.1, place.2)

mutual
/-- The documents inside a document, each under the steps that lead to it. -/
def inside : Json → List (List Step × Json)
  | .list items => insideItems 0 items
  | .object members => insideMembers members
  | .null | .flag _ | .integer _ | .real _ | .string _ => []

/-- The documents at and inside items, the first of which has a given index. -/
def insideItems : Nat → List Json → List (List Step × Json)
  | _, [] => []
  | index, item :: rest =>
    beneath (.item index) (([], item) :: item.inside) ++ insideItems (index + 1) rest

/-- The documents at and inside members. -/
def insideMembers : List (String × Json) → List (List Step × Json)
  | [] => []
  | (name, value) :: rest =>
    beneath (.member name) (([], value) :: value.inside) ++ insideMembers rest
end

/-- A document and the documents inside it, each under the steps that lead to it. -/
def places (document : Json) : List (List Step × Json) :=
  ([], document) :: document.inside

/-- The steps that lead to a document inside a document or to itself. -/
def paths (document : Json) : List (List Step) :=
  document.places.map (·.1)

/-- The steps that lead to nulls. -/
def nulls (document : Json) : List (List Step) :=
  (document.places.filter (·.2.isNull)).map (·.1)

/-- Lists and objects in which there is nothing. -/
def isHollow : Json → Bool
  | .list items => items.isEmpty
  | .object members => members.isEmpty
  | _ => false

/-- No member is a list or an object in which there is nothing. -/
def Dense (document : Json) : Prop :=
  ∀ above name value, (above ++ [.member name], value) ∈ document.places → value.isHollow = false

theorem inside_list (items : List Json) :
    (list items).inside = items.zipIdx.flatMap fun held => beneath (.item held.2) held.1.places := by
  have shifted (index : Nat) : insideItems index items =
      (items.zipIdx index).flatMap fun held => beneath (.item held.2) held.1.places := by
    induction items generalizing index with
    | nil => rfl
    | cons item rest ih =>
      rw [insideItems, ih (index + 1)]
      rfl
  exact shifted 0

theorem inside_object (members : List (String × Json)) :
    (object members).inside =
      members.flatMap fun member => beneath (.member member.1) member.2.places := by
  induction members with
  | nil => rfl
  | cons member rest ih =>
    rw [List.flatMap_cons, ← ih]
    rfl

theorem nil_mem_paths (document : Json) : [] ∈ document.paths :=
  List.mem_cons_self

private theorem mem_beneath {β : Type} {step : Step} {places : List (List Step × β)}
    {place : List Step × β} :
    place ∈ beneath step places ↔ ∃ path, place.1 = step :: path ∧ (path, place.2) ∈ places := by
  obtain ⟨steps, value⟩ := place
  constructor
  · intro member
    obtain ⟨⟨path, _⟩, found, same⟩ := List.mem_map.mp member
    cases same
    exact ⟨path, rfl, found⟩
  · rintro ⟨path, rfl, found⟩
    exact List.mem_map.mpr ⟨_, found, rfl⟩

theorem mem_inside_list {items : List Json} {place : List Step × Json} :
    place ∈ (list items).inside ↔ ∃ index path item, items[index]? = some item ∧
      place.1 = .item index :: path ∧ (path, place.2) ∈ item.places := by
  simp only [inside_list, List.mem_flatMap, mem_beneath, Prod.exists, List.mk_mem_zipIdx_iff_getElem?]
  constructor
  · rintro ⟨item, index, held, path, same, found⟩
    exact ⟨index, path, item, held, same, found⟩
  · rintro ⟨index, path, item, held, same, found⟩
    exact ⟨item, index, held, path, same, found⟩

theorem mem_inside_object {members : List (String × Json)} {place : List Step × Json} :
    place ∈ (object members).inside ↔ ∃ name path value, (name, value) ∈ members ∧
      place.1 = .member name :: path ∧ (path, place.2) ∈ value.places := by
  simp only [inside_object, List.mem_flatMap, mem_beneath, Prod.exists]
  constructor
  · rintro ⟨name, value, held, path, same, found⟩
    exact ⟨name, path, value, held, same, found⟩
  · rintro ⟨name, path, value, held, same, found⟩
    exact ⟨name, value, held, path, same, found⟩

/-- Without a step there is only the document itself. -/
theorem eq_of_nil_mem_places {document value : Json} (found : ([], value) ∈ document.places) :
    value = document := by
  rcases List.mem_cons.mp found with same | found
  · exact congrArg Prod.snd same
  · cases document with
    | list items =>
      obtain ⟨_, _, _, _, steps, _⟩ := mem_inside_list.mp found
      cases steps
    | object members =>
      obtain ⟨_, _, _, _, steps, _⟩ := mem_inside_object.mp found
      cases steps
    | _ => cases found

/-- Where a step into a list leads. -/
theorem item_mem_paths {items : List Json} {index : Nat} {path : List Step} :
    .item index :: path ∈ (list items).paths ↔
      ∃ item, items[index]? = some item ∧ path ∈ item.paths := by
  constructor
  · intro member
    obtain ⟨place, found, same⟩ := List.mem_map.mp member
    rcases List.mem_cons.mp found with rfl | found
    · cases same
    · obtain ⟨_, _, item, held, steps, found⟩ := mem_inside_list.mp found
      rw [same] at steps
      cases steps
      exact ⟨item, held, List.mem_map.mpr ⟨_, found, rfl⟩⟩
  · rintro ⟨item, held, member⟩
    obtain ⟨place, found, rfl⟩ := List.mem_map.mp member
    have inner : (.item index :: place.1, place.2) ∈ (list items).inside :=
      mem_inside_list.mpr ⟨index, place.1, item, held, rfl, found⟩
    exact List.mem_map.mpr ⟨_, List.mem_cons_of_mem _ inner, rfl⟩

/-- Where a step into an object leads. -/
theorem member_mem_paths {members : List (String × Json)} {name : String} {path : List Step} :
    .member name :: path ∈ (object members).paths ↔
      ∃ value, (name, value) ∈ members ∧ path ∈ value.paths := by
  constructor
  · intro member
    obtain ⟨place, found, same⟩ := List.mem_map.mp member
    rcases List.mem_cons.mp found with rfl | found
    · cases same
    · obtain ⟨_, _, value, held, steps, found⟩ := mem_inside_object.mp found
      rw [same] at steps
      cases steps
      exact ⟨value, held, List.mem_map.mpr ⟨_, found, rfl⟩⟩
  · rintro ⟨value, held, member⟩
    obtain ⟨place, found, rfl⟩ := List.mem_map.mp member
    have inner : (.member name :: place.1, place.2) ∈ (object members).inside :=
      mem_inside_object.mpr ⟨name, place.1, value, held, rfl, found⟩
    exact List.mem_map.mpr ⟨_, List.mem_cons_of_mem _ inner, rfl⟩

private theorem nulls_beneath (step : Step) (document : Json) :
    ((beneath step document.places).filter (·.2.isNull)).map (·.1) =
      document.nulls.map (step :: ·) := by
  simp only [beneath, nulls, List.filter_map, List.map_map, Function.comp_def]

theorem nulls_list (items : List Json) :
    (list items).nulls =
      items.zipIdx.flatMap fun held => held.1.nulls.map (.item held.2 :: ·) := by
  have solid : (list items).isNull = false := rfl
  rw [nulls, places, List.filter_cons_of_neg (by simp [solid]), inside_list, List.filter_flatMap,
    List.map_flatMap]
  simp only [nulls_beneath]

theorem nulls_object (members : List (String × Json)) :
    (object members).nulls =
      members.flatMap fun member => member.2.nulls.map (.member member.1 :: ·) := by
  have solid : (object members).isNull = false := rfl
  rw [nulls, places, List.filter_cons_of_neg (by simp [solid]), inside_object, List.filter_flatMap,
    List.map_flatMap]
  simp only [nulls_beneath]

namespace Dense

/-- Where nothing is inside, no member is hollow. -/
theorem of_inside_nil {document : Json} (none : document.inside = []) : document.Dense := by
  intro above name value found
  rw [places, none, List.mem_singleton] at found
  exact absurd (congrArg Prod.fst found) (List.append_ne_nil_of_right_ne_nil _ (List.cons_ne_nil _ _))

theorem list {items : List Json} (each : ∀ item ∈ items, item.Dense) : (Json.list items).Dense := by
  intro above name value found
  rcases List.mem_cons.mp found with same | found
  · exact absurd (congrArg Prod.fst same)
      (List.append_ne_nil_of_right_ne_nil _ (List.cons_ne_nil _ _))
  · obtain ⟨index, path, item, held, steps, found⟩ := mem_inside_list.mp found
    cases above with
    | nil => cases steps
    | cons step above =>
      obtain ⟨-, rfl⟩ := List.cons_eq_cons.mp steps
      exact each item (List.mem_of_getElem? held) above name value found

theorem object {members : List (String × Json)}
    (each : ∀ member ∈ members, member.2.isHollow = false ∧ member.2.Dense) :
    (Json.object members).Dense := by
  intro above name value found
  rcases List.mem_cons.mp found with same | found
  · exact absurd (congrArg Prod.fst same)
      (List.append_ne_nil_of_right_ne_nil _ (List.cons_ne_nil _ _))
  · obtain ⟨key, path, outer, held, steps, found⟩ := mem_inside_object.mp found
    obtain ⟨solid, dense⟩ := each _ held
    cases above with
    | nil =>
      obtain ⟨-, rfl⟩ := List.cons_eq_cons.mp steps
      obtain rfl := eq_of_nil_mem_places found
      exact solid
    | cons step above =>
      obtain ⟨-, rfl⟩ := List.cons_eq_cons.mp steps
      exact dense above name value found

end Dense

/-- Where a reader of a text stands: outside strings, inside one, or behind a backslash in one. -/
inductive Stand where
  | outside
  | inside
  | escaped

/-- The number of null words in a text that stand outside its strings. -/
def nullWords : Stand → List Char → Nat
  | _, [] => 0
  | .outside, c :: rest =>
    (if (c :: rest).take 4 = "null".toList then 1 else 0) +
      nullWords (if c = '"' then .inside else .outside) rest
  | .inside, c :: rest =>
    nullWords (if c = '"' then .outside else if c = '\\' then .escaped else .inside) rest
  | .escaped, _ :: rest => nullWords .inside rest

section NullWords

variable (rest : List Char)

/-- A character that begins neither a null nor a string is passed. -/
private theorem nullWords_cons {c : Char} (letter : c ≠ 'n') (quote : c ≠ '"') :
    nullWords .outside (c :: rest) = nullWords .outside rest := by
  have other : (c :: rest).take 4 ≠ "null".toList := by
    intro same
    exact letter (List.cons_eq_cons.mp same).1
  rw [nullWords, if_neg other, if_neg quote, Nat.zero_add]

private theorem nullWords_append {text : List Char}
    (passed : ∀ c ∈ text, c ≠ 'n' ∧ c ≠ '"') :
    nullWords .outside (text ++ rest) = nullWords .outside rest := by
  induction text with
  | nil => rfl
  | cons c text ih =>
    obtain ⟨⟨letter, quote⟩, others⟩ := List.forall_mem_cons.mp passed
    rw [List.cons_append, nullWords_cons _ letter quote, ih others]

private theorem nullWords_numeral {text : List Char} (numeral : Decimal.Numeral text) :
    nullWords .outside (text ++ rest) = nullWords .outside rest := by
  refine nullWords_append rest fun c member => ?_
  have spelled := numeral.2 c member
  refine ⟨(numeral_ne spelled).2.2, ?_⟩
  rintro rfl
  cases spelled

/-- The spelling of a character leaves a string neither open nor ended. -/
private theorem nullWords_escape (c : Char) :
    nullWords .inside (escape c ++ rest) = nullWords .inside rest := by
  rcases escape_cases c with ⟨letter, spelled, -⟩ | ⟨control, spelled⟩ | ⟨quote, slash, -, spelled⟩
  · rw [spelled]
    rfl
  · have digit : ∀ k < 16, Nat.digitChar k ≠ '"' ∧ Nat.digitChar k ≠ '\\' := by decide
    obtain ⟨high, highSlash⟩ := digit (c.toNat / 16) (by omega)
    obtain ⟨low, lowSlash⟩ := digit (c.toNat % 16) (by omega)
    rw [spelled]
    simp [nullWords, high, highSlash, low, lowSlash]
  · rw [spelled]
    simp [nullWords, quote, slash]

private theorem nullWords_writeText (text : String) :
    nullWords .outside (writeText text ++ rest) = nullWords .outside rest := by
  have within (chars : List Char) :
      nullWords .inside (chars.flatMap escape ++ '"' :: rest) = nullWords .outside rest := by
    induction chars with
    | nil => rfl
    | cons c chars ih => rw [List.flatMap_cons, List.append_assoc, nullWords_escape, ih]
  rw [writeText_append]
  simpa [nullWords] using within text.toList

private theorem nullWords_null : nullWords .outside (Json.null.compact ++ rest) =
    1 + nullWords .outside rest := by
  have word : Json.null.compact ++ rest = 'n' :: 'u' :: 'l' :: 'l' :: rest := rfl
  rw [word, nullWords]
  simp [nullWords_cons]

private theorem nullWords_real (value : Float) :
    nullWords .outside ((Json.real value).compact ++ rest) =
      (Json.real value).nulls.length + nullWords .outside rest := by
  by_cases finite : Decimal.isFinite value = true
  · have none : (Json.real value).nulls.length = 0 := by
      simp [nulls, places, inside, isNull, finite]
    rw [none, Nat.zero_add, compact, writeReal, if_pos finite]
    exact nullWords_numeral rest (.write _ finite)
  · have one : (Json.real value).nulls.length = 1 := by
      simp [nulls, places, inside, isNull, finite]
    have word : (Json.real value).compact = Json.null.compact := by
      simp only [compact, writeReal, if_neg finite]
    rw [one, word]
    exact nullWords_null rest

end NullWords

/-- The number of nulls in documents. -/
def nullCount (documents : List Json) : Nat :=
  (documents.map fun document => document.nulls.length).sum

theorem length_nulls_list (items : List Json) : (list items).nulls.length = nullCount items := by
  have indexed : (items.zipIdx.map fun held => held.1.nulls.length) =
      (items.zipIdx.map Prod.fst).map fun document => document.nulls.length := by
    rw [List.map_map]
    rfl
  simp only [nulls_list, List.length_flatMap, List.length_map, indexed, List.zipIdx_map_fst,
    nullCount]

theorem length_nulls_object (members : List (String × Json)) :
    (object members).nulls.length = nullCount (members.map Prod.snd) := by
  simp only [nulls_object, List.length_flatMap, List.length_map, nullCount, List.map_map,
    Function.comp_def]

mutual
/-- The text of a document on one line has a null word for each of its nulls. -/
theorem nullWords_compact : (document : Json) → (rest : List Char) →
    nullWords .outside (document.compact ++ rest) =
      document.nulls.length + nullWords .outside rest
  | .null, rest => nullWords_null rest
  | .flag value, rest => by
    have none : (Json.flag value).nulls.length = 0 := rfl
    rw [none, Nat.zero_add]
    refine nullWords_append rest ?_
    cases value <;> simp [compact, writeFlag]
  | .integer value, rest => by
    have none : (Json.integer value).nulls.length = 0 := rfl
    rw [none, Nat.zero_add]
    exact nullWords_numeral rest (.integerText value)
  | .real value, rest => nullWords_real rest value
  | .string value, rest => by
    have none : (Json.string value).nulls.length = 0 := rfl
    rw [none, Nat.zero_add]
    exact nullWords_writeText rest value
  | .list items, rest => by
    have text : (list items).compact ++ rest = '[' :: (compactItems items ++ ']' :: rest) := by
      simp [compact]
    rw [text, nullWords_cons _ (by decide) (by decide), nullWords_compactItems items,
      length_nulls_list, nullWords_cons rest (by decide) (by decide)]
  | .object members, rest => by
    have text : (object members).compact ++ rest =
        '\x7b' :: (compactMembers members ++ '\x7d' :: rest) := by
      simp [compact]
    rw [text, nullWords_cons _ (by decide) (by decide), nullWords_compactMembers members,
      length_nulls_object, nullWords_cons rest (by decide) (by decide)]

theorem nullWords_compactItems : (items : List Json) → (rest : List Char) →
    nullWords .outside (compactItems items ++ rest) = nullCount items + nullWords .outside rest
  | [], rest => (Nat.zero_add _).symm
  | [item], rest => nullWords_compact item rest
  | item :: next :: items, rest => by
    rw [compactItems.eq_3 _ _ (List.cons_ne_nil _ _), List.append_assoc, List.cons_append,
      nullWords_compact item, nullWords_cons _ (by decide) (by decide),
      nullWords_compactItems (next :: items), ← Nat.add_assoc]
    rfl

theorem nullWords_compactMembers : (members : List (String × Json)) → (rest : List Char) →
    nullWords .outside (compactMembers members ++ rest) =
      nullCount (members.map Prod.snd) + nullWords .outside rest
  | [], rest => (Nat.zero_add _).symm
  | [(name, value)], rest => by
    rw [compactMembers, List.append_assoc, List.cons_append, nullWords_writeText,
      nullWords_cons _ (by decide) (by decide), nullWords_compact value]
    rfl
  | (name, value) :: next :: members, rest => by
    rw [compactMembers.eq_3 _ _ _ (List.cons_ne_nil _ _)]
    simp only [List.append_assoc, List.cons_append]
    rw [nullWords_writeText, nullWords_cons _ (by decide) (by decide), nullWords_compact value,
      nullWords_cons _ (by decide) (by decide), nullWords_compactMembers (next :: members),
      ← Nat.add_assoc]
    rfl
end

end MonitorFeed.Json
