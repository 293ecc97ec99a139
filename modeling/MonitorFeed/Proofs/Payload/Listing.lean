import MonitorFeed.Backend.StandIn
import MonitorFeed.Proofs.Client
import MonitorFeed.Proofs.Schema.Extent

/-!
Lists of payloads. A text that carries a list is an array of texts that carry its items, or a null; it
carries them all or none, and nothing else carries a list.
-/

namespace MonitorFeed

namespace Json

/-- A text is one document, white space around it. -/
def IsWhole (text : String) : Prop :=
  ∃ node : Node, node.IsDocument text

/-- What stands between the brackets of an array: its elements with commas between them, or white
space if there are none. -/
def Joins : List String → List Char → Prop
  | [], inside => Blank inside
  | elements, inside => inside = (",".intercalate elements).toList

/-- A text is the array of elements, white space around it. -/
def IsArray (elements : List String) (text : String) : Prop :=
  ∃ before inside after, Blank before ∧ Blank after ∧ Joins elements inside ∧
    text.toList = before ++ '[' :: (inside ++ ']' :: after)

section Elements

/-- Elements, each after a comma. -/
def trailing (elements : List String) : List Char :=
  elements.flatMap fun element => ',' :: element.toList

theorem trailing_cons (element : String) (others : List String) :
    trailing (element :: others) = ',' :: (element.toList ++ trailing others) := by
  simp [trailing]

theorem toList_intercalate_comma (element : String) (others : List String) :
    (",".intercalate (element :: others)).toList = element.toList ++ trailing others := by
  induction others generalizing element with
  | nil => simp [trailing]
  | cons other others ih =>
    rw [String.intercalate_cons_cons, String.toList_append, String.toList_append, ih,
      trailing_cons, List.append_assoc]
    rfl

variable {nodes : List Node} {elements : List String} {inside : List Char}

theorem spellsItems_trailing (each : List.Forall₂ Node.IsDocument nodes elements) {gap : List Char}
    (blank : Blank gap) : Node.SpellsItems false nodes (gap ++ (trailing elements ++ [']'])) := by
  induction each generalizing gap with
  | nil => exact ⟨gap, blank, rfl⟩
  | @cons node element nodes elements head tail ih =>
    obtain ⟨lead, spelled, after, blankLead, blankAfter, spells, same⟩ := head
    refine ⟨gap, lead, spelled, after ++ (trailing elements ++ [']']), blank, blankLead, spells,
      ih blankAfter, ?_⟩
    rw [trailing_cons, same]
    simp [separator]

theorem exists_of_spellsItems (spells : Node.SpellsItems false nodes inside) :
    ∃ gap elements, Blank gap ∧ List.Forall₂ Node.IsDocument nodes elements ∧
      inside = gap ++ (trailing elements ++ [']']) := by
  induction nodes generalizing inside with
  | nil =>
    obtain ⟨gap, blank, rfl⟩ := spells
    exact ⟨gap, [], blank, .nil, rfl⟩
  | cons node nodes ih =>
    obtain ⟨gap, lead, spelled, others, blank, blankLead, spells, later, rfl⟩ := spells
    obtain ⟨after, elements, blankAfter, each, rfl⟩ := ih later
    have head : node.IsDocument (String.ofList (lead ++ (spelled ++ after))) :=
      ⟨lead, spelled, after, blankLead, blankAfter, spells, String.toList_ofList⟩
    refine ⟨gap, String.ofList (lead ++ (spelled ++ after)) :: elements, blank, .cons head each, ?_⟩
    simp [trailing_cons, separator]

/-- Between the brackets of a list stand texts of its items. -/
theorem spellsItems_iff_exists_joins :
    Node.SpellsItems true nodes inside ↔
      ∃ elements joined, List.Forall₂ Node.IsDocument nodes elements ∧ Joins elements joined ∧
        inside = joined ++ [']'] := by
  constructor
  · intro spells
    cases nodes with
    | nil =>
      obtain ⟨gap, blank, rfl⟩ := spells
      exact ⟨[], gap, .nil, blank, rfl⟩
    | cons node nodes =>
      obtain ⟨gap, lead, spelled, others, blank, blankLead, spells, later, rfl⟩ := spells
      obtain ⟨after, elements, blankAfter, each, rfl⟩ := exists_of_spellsItems later
      have head : node.IsDocument (String.ofList (gap ++ lead ++ (spelled ++ after))) :=
        ⟨gap ++ lead, spelled, after, blank.append blankLead, blankAfter, spells,
          String.toList_ofList⟩
      refine ⟨String.ofList (gap ++ lead ++ (spelled ++ after)) :: elements, _, .cons head each,
        rfl, ?_⟩
      rw [toList_intercalate_comma]
      simp [separator]
  · rintro ⟨elements, joined, each, joins, rfl⟩
    cases each with
    | nil => exact ⟨joined, joins, rfl⟩
    | @cons node element nodes elements head tail =>
      obtain ⟨lead, spelled, after, blankLead, blankAfter, spells, same⟩ := head
      refine ⟨[], lead, spelled, after ++ (trailing elements ++ [']']), blank_nil, blankLead,
        spells, spellsItems_trailing tail blankAfter, ?_⟩
      rw [show joined = _ from joins, toList_intercalate_comma, same]
      simp [separator]

/-- The documents that are lists are the arrays of documents. -/
theorem isDocument_list_iff {text : String} :
    (Node.list nodes).IsDocument text ↔
      ∃ elements, List.Forall₂ Node.IsDocument nodes elements ∧ IsArray elements text := by
  constructor
  · rintro ⟨before, spelled, after, blank, blankAfter, ⟨inside, rfl, spells⟩, same⟩
    obtain ⟨elements, joined, each, joins, rfl⟩ := spellsItems_iff_exists_joins.mp spells
    exact ⟨elements, each, before, joined, after, blank, blankAfter, joins, by simp [same]⟩
  · rintro ⟨elements, each, before, joined, after, blank, blankAfter, joins, same⟩
    have spells : Node.SpellsItems true nodes (joined ++ [']']) :=
      spellsItems_iff_exists_joins.mpr ⟨elements, joined, each, joins, rfl⟩
    exact ⟨before, '[' :: (joined ++ [']']), after, blank, blankAfter, ⟨_, rfl, spells⟩,
      by simp [same]⟩

theorem exists_nodes (whole : ∀ element ∈ elements, IsWhole element) :
    ∃ nodes, List.Forall₂ Node.IsDocument nodes elements := by
  have spelled : ∀ element ∈ elements, ∃ node, flip Node.IsDocument element node := whole
  obtain ⟨nodes, each⟩ := exists_forall₂ spelled
  exact ⟨nodes, each.flip⟩

/-- The brackets around elements make an array of them, with no white space added. -/
theorem isArray_brackets (elements : List String) :
    IsArray elements ("[" ++ ",".intercalate elements ++ "]") := by
  refine ⟨[], (",".intercalate elements).toList, [], blank_nil, blank_nil, ?_, by simp⟩
  cases elements with
  | nil => exact blank_nil
  | cons element others => rfl

end Elements

end Json

open Json

section ReadMany

variable {α : Type} {schema : Schema α} {text : String} {values : List α}

/-- The readings of the elements of an array are the verdicts on its items. -/
private theorem forall₂_read_iff {nodes : List Node} {elements : List String}
    (each : List.Forall₂ Node.IsDocument nodes elements) :
    List.Forall₂ (fun node value => schema.verdict node = some value) nodes values ↔
      List.Forall₂ (fun element value => schema.read element = .ok value) elements values := by
  induction each generalizing values with
  | nil => cases values <;> simp
  | @cons node element nodes elements head tail ih =>
    have same (value : α) : schema.verdict node = some value ↔ schema.read element = .ok value := by
      rw [← toOption_eq_some_iff, schema.toOption_read_eq_verdict head]
    cases values with
    | nil => simp
    | cons value values => rw [List.forall₂_cons, List.forall₂_cons, same, ih]

theorem toOption_readMany {node : Node} (spelled : node.IsDocument text) :
    (schema.readMany text).toOption =
      if node.isNull then some [] else node.items?.bind (List.mapM schema.verdict) := by
  rw [Schema.readMany, toOption_map, Schema.toOption_read_eq_verdict _ spelled, Schema.verdict,
    Schema.verdict]
  cases node.isNull with
  | true => rfl
  | false => cases node.items?.bind (List.mapM schema.verdict) <;> rfl

theorem readMany_null (spelled : Node.null.IsDocument text) : schema.readMany text = .ok [] :=
  toOption_eq_some_iff.mp (toOption_readMany spelled)

/-- An array is read element by element. -/
theorem readMany_array {elements : List String} (whole : ∀ element ∈ elements, IsWhole element)
    (array : IsArray elements text) :
    schema.readMany text = .ok values ↔
      List.Forall₂ (fun element value => schema.read element = .ok value) elements values := by
  obtain ⟨nodes, each⟩ := exists_nodes whole
  have spelled : (Node.list nodes).IsDocument text :=
    isDocument_list_iff.mpr ⟨elements, each, array⟩
  have read : (schema.readMany text).toOption = nodes.mapM schema.verdict := toOption_readMany spelled
  rw [← toOption_eq_some_iff, read, mapM_eq_some_iff, forall₂_read_iff each]

/-- Nothing is read as a list of values but a null and the arrays of documents. -/
theorem null_or_array_of_readMany (read : schema.readMany text = .ok values) :
    Node.null.IsDocument text ∨
      ∃ elements, (∀ element ∈ elements, IsWhole element) ∧ IsArray elements text := by
  obtain ⟨held, whole, -⟩ := map_eq_ok_iff.mp read
  obtain ⟨node, spelled⟩ := Schema.exists_isDocument whole
  have verdict : (schema.readMany text).toOption = _ := toOption_readMany spelled
  rw [read] at verdict
  cases node with
  | null => exact .inl spelled
  | list nodes =>
    obtain ⟨elements, each, array⟩ := isDocument_list_iff.mp spelled
    refine .inr ⟨elements, fun element member => ?_, array⟩
    obtain ⟨node, -, document⟩ := exists_of_mem_right each member
    exact ⟨node, document⟩
  | _ => cases verdict

theorem readMany_eq_nil_iff :
    schema.readMany text = .ok [] ↔ Node.null.IsDocument text ∨ IsArray [] text := by
  constructor
  · intro read
    rcases null_or_array_of_readMany read with null | ⟨elements, whole, array⟩
    · exact .inl null
    · have none := (readMany_array whole array).mp read
      cases none
      exact .inr array
  · rintro (null | array)
    · exact readMany_null null
    · exact (readMany_array (List.forall_mem_nil _) array).mpr .nil

end ReadMany

/-- What a listing makes of an answer. -/
theorem Client.listMetrics_of_answered {σ : Type} {around : Surroundings σ} {progress : Progress σ}
    {text : String} (answered : (around.respond .list progress.state).reply = .answered text) :
    ((listMetrics around).run progress).1 = understood (Document.decodeList text) := by
  rw [run_listMetrics, answered]
  rfl

namespace Document

variable {α : Type} [Document α]

/-- An array with elements that carry no value carries no list. -/
theorem exists_error_of_element {elements : List String} {text : String}
    (whole : ∀ element ∈ elements, IsWhole element) (array : IsArray elements text)
    (strange : ∃ element ∈ elements, ∀ value : α, decode element ≠ .ok value) :
    ∃ fault, (decodeList text : Except Json.Error (List α)) = .error fault := by
  cases read : (decodeList text : Except Json.Error (List α)) with
  | error fault => exact ⟨fault, rfl⟩
  | ok values =>
    obtain ⟨element, member, bad⟩ := strange
    obtain ⟨value, -, good⟩ := exists_of_mem_left ((readMany_array whole array).mp read) member
    exact absurd good (bad value)

/-- A list is carried element by element, all or none. An array of documents carries a list exactly
if each of its elements carries a value, and then it carries those values in their order; a listing
that is answered with another is a fault of its document. White space around the array, and between
its brackets if there is nothing else, makes no difference. No other text carries a list, but a null
carries the list of none, so that list is carried by nulls and empty arrays only. -/
theorem decodeList_elementwise :
    (∀ (elements : List String) (text : String), (∀ element ∈ elements, IsWhole element) →
      IsArray elements text →
        ((∃ values : List α, decodeList text = .ok values) ↔
          ∀ element ∈ elements, ∃ value : α, decode element = .ok value) ∧
        ∀ values : List α, decodeList text = .ok values ↔
          List.Forall₂ (fun element value => decode element = .ok value) elements values) ∧
    (∀ (elements : List String) (text : String), (∀ element ∈ elements, IsWhole element) →
      IsArray elements text →
        (∃ element ∈ elements, ∀ metric : MetricDescriptor, decode element ≠ .ok metric) →
          ∀ {σ : Type} (around : Surroundings σ) (progress : Progress σ),
            (around.respond .list progress.state).reply = .answered text →
              ∃ fault, ((Client.listMetrics around).run progress).1 =
                .error (.serialization fault)) ∧
    (∀ (text : String) (values : List α), decodeList text = .ok values →
      Node.null.IsDocument text ∧ values = [] ∨
        ∃ elements, (∀ element ∈ elements, IsWhole element) ∧ IsArray elements text) ∧
    ∀ text : String,
      (decodeList text : Except Json.Error (List α)) = .ok [] ↔
        Node.null.IsDocument text ∨ IsArray [] text := by
  refine ⟨fun elements text whole array => ⟨⟨?_, fun each => ?_⟩, fun values => ?_⟩,
    fun elements text whole array strange σ around progress answered => ?_,
    fun text values read => ?_, fun text => readMany_eq_nil_iff⟩
  · rintro ⟨values, read⟩ element member
    obtain ⟨value, -, carried⟩ := exists_of_mem_left ((readMany_array whole array).mp read) member
    exact ⟨value, carried⟩
  · obtain ⟨values, carried⟩ := exists_forall₂ each
    exact ⟨values, (readMany_array whole array).mpr carried⟩
  · exact readMany_array whole array
  · obtain ⟨fault, failed⟩ := exists_error_of_element (α := MetricDescriptor) whole array strange
    refine ⟨fault.message, ?_⟩
    rw [Client.listMetrics_of_answered answered, failed]
    rfl
  · rcases null_or_array_of_readMany read with null | array
    · have none : (decodeList text : Except Json.Error (List α)) = .ok [] := readMany_null null
      exact .inl ⟨null, Except.ok.inj (read.symm.trans none)⟩
    · exact .inr array

/-- A metric that has a name only. -/
def loadNode : Node :=
  .object [(Piece.ofText "name", .string (Piece.ofText "load"))]

theorem decode_loadNode :
    decode (String.ofList loadNode.spelling) = .ok (MetricDescriptor.named "load") := by
  rw [← toOption_eq_some_iff, decode, Schema.toOption_read_eq_verdict _ loadNode.isDocument_spelling]
  rfl

/-- A stand-in on its own. -/
def alone : Surroundings StandIn where
  respond := StandIn.respond
  storage _ _ := .missing .notFound
  draw _ := ⟨"", .epoch⟩

theorem decodeList_elementwise_load :
    let load := String.ofList loadNode.spelling
    let pair := "[" ++ ",".intercalate [load, load] ++ "]"
    let spoilt := "[" ++ ",".intercalate [load, " null"] ++ "]"
    (∀ element ∈ [load, " null"], IsWhole element) ∧
      decodeList pair = .ok [MetricDescriptor.named "load", MetricDescriptor.named "load"] ∧
      ∃ fault, ((Client.listMetrics alone).run (.start { StandIn.fresh with listing := spoilt })).1 =
        .error (.serialization fault) := by
  intro load pair spoilt
  obtain ⟨each, failing, -, -⟩ := decodeList_elementwise (α := MetricDescriptor)
  have whole : IsWhole load := ⟨loadNode, loadNode.isDocument_spelling⟩
  have null : Node.null.IsDocument " null" :=
    ⟨[' '], "null".toList, [], blank_space, blank_nil, rfl, rfl⟩
  have known : ∀ element ∈ [load, load], IsWhole element := by
    simpa using whole
  have both : ∀ element ∈ [load, " null"], IsWhole element := by
    simpa using And.intro whole ⟨Node.null, null⟩
  have strange (metric : MetricDescriptor) : decode " null" ≠ .ok metric := by
    rw [Ne, ← toOption_eq_some_iff, decode, Schema.toOption_read_eq_verdict _ null]
    exact fun taken => by cases taken
  refine ⟨both, ?_, ?_⟩
  · exact ((each _ _ known (isArray_brackets _)).2 _).mpr
      (.cons decode_loadNode (.cons decode_loadNode .nil))
  · exact failing _ _ both (isArray_brackets _) ⟨" null", by simp, strange⟩ alone _ rfl

/-- An empty array with white space is neither a null nor made of brackets, documents and commas
only. -/
theorem loose_of_isArray_nil {text : String} (array : IsArray [] text) (spaced : text ≠ "[]") :
    ¬Node.null.IsDocument text ∧
      ¬∃ elements, (∀ element ∈ elements, IsWhole element) ∧
        text = "[" ++ ",".intercalate elements ++ "]" := by
  constructor
  · obtain ⟨before, inside, after, blank, blankAfter, blankInside, same⟩ := array
    rintro ⟨_, spelled, _, -, -, rfl, other⟩
    have letter : 'n' ∈ text.toList := by simp [other]
    have visible {gap : List Char} (blank : Blank gap) : 'n' ∉ gap := fun member => by
      cases blank 'n' member
    rw [same] at letter
    simp [visible blank, visible blankAfter, visible blankInside] at letter
  · rintro ⟨elements, whole, rfl⟩
    have read : (schema : Schema MetricDescriptor).readMany _ = .ok [] :=
      readMany_eq_nil_iff.mpr (.inr array)
    have none := (readMany_array whole (isArray_brackets elements)).mp read
    cases none
    exact spaced rfl

/-- An empty array after white space, and one with white space in it, carry the list of none. -/
theorem decodeList_spaced_array :
    ((decodeList " []" : Except Json.Error (List MetricDescriptor)) = .ok [] ∧
      ¬Node.null.IsDocument " []" ∧
      ¬∃ elements, (∀ element ∈ elements, IsWhole element) ∧
        " []" = "[" ++ ",".intercalate elements ++ "]") ∧
    (decodeList "[ ]" : Except Json.Error (List MetricDescriptor)) = .ok [] ∧
      ¬Node.null.IsDocument "[ ]" ∧
      ¬∃ elements, (∀ element ∈ elements, IsWhole element) ∧
        "[ ]" = "[" ++ ",".intercalate elements ++ "]" := by
  have after : IsArray [] " []" := ⟨[' '], [], [], blank_space, blank_nil, blank_nil, rfl⟩
  have within : IsArray [] "[ ]" := ⟨[], [' '], [], blank_nil, blank_nil, blank_space, rfl⟩
  exact ⟨⟨readMany_eq_nil_iff.mpr (.inr after), loose_of_isArray_nil after (by decide)⟩,
    readMany_eq_nil_iff.mpr (.inr within), loose_of_isArray_nil within (by decide)⟩

end Document

end MonitorFeed
