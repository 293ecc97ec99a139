import MonitorFeed.Proofs.Library.Message
import MonitorFeed.Proofs.Payload.RoundTrip

/-!
Documents on their way into a library. No control character stands in a document, so every payload
reaches its function, octet by octet; of other texts, those with an end mark in them are refused
before they enter.
-/

namespace MonitorFeed

variable {σ : Type}

open Text

/-- No control character stands in a text that carries a value. -/
theorem Document.plain_of_carries {α : Type} [Document α] {text : String} {value : α}
    (carries : Carries text value) : ∀ c ∈ text.toList, 0x20 ≤ c.toNat := by
  obtain ⟨document, -, rfl⟩ := carries
  rw [String.toList_ofList]
  exact Json.plain_compact document

namespace Library

theorem passable_of_plain {text : String} (plain : ∀ c ∈ text.toList, 0x20 ≤ c.toNat) :
    passable text = true :=
  passable_iff.mpr fun marked => absurd (plain _ marked) (by decide)

/-- The functions of a library keep to their signatures: only a listing and a test give back texts. -/
def Functions.Signed (functions : Functions σ) : Prop :=
  ∀ operation input state, operation ≠ .list → operation ≠ .test →
    ∃ code, (functions operation input state).result = .status code

/-- What the functions of a library have been given. -/
abbrev Received := List (Operation × Option (List UInt8))

section Direct

variable {functions : Functions σ} {call : Call} {text : String}

theorem prepare_eq_error_iff (given : call.document? = some text) :
    prepare call = .error (.invalidText call.operation.symbol) ↔ '\x00' ∈ text.toList := by
  rcases prepare_cases call with ⟨fit, unmarked⟩ | ⟨refused, other, found, marked⟩
  · simp [fit, unmarked text given]
  · obtain rfl := Option.some.inj (given.symm.trans found)
    simp [refused, marked]

/-- A text with an end mark in it is refused, and its function is not entered. -/
theorem respond_of_marked (given : call.document? = some text) (marked : '\x00' ∈ text.toList)
    (state : σ) :
    respond functions call state = ⟨.failed (.invalidText call.operation.symbol), [], state⟩ := by
  rw [respond, (prepare_eq_error_iff given).mpr marked]

/-- A text without an end mark is what its function is given. -/
theorem received_of_unmarked (given : call.document? = some text) (unmarked : '\x00' ∉ text.toList)
    (state : σ × Received) :
    (respond functions.watched call state).state.2 =
      state.2 ++ [(call.operation, some (Utf8.encode text.toList))] := by
  have passes (other : String) (found : call.document? = some other) : passable other = true := by
    obtain rfl := Option.some.inj (given.symm.trans found)
    exact passable_iff.mpr unmarked
  rw [respond_of_passable passes, octets?, given]
  rfl

end Direct

section Requests

variable {functions : Functions σ} {around : Surroundings (σ × Received)}

/-- A request hands a text over: once, as its octets, up to an end mark that does not cut it short. -/
def Hands (around : Surroundings (σ × Received)) (request : Request) (text : String) : Prop :=
  MessageBuffer.untilMark (Utf8.encode text.toList ++ [0]) = Utf8.encode text.toList ∧
    ∀ progress, ((request.make around).run progress).2.state.2 =
      progress.state.2 ++ [(request.operation, some (Utf8.encode text.toList))]

theorem hands_of_plain (overLibrary : around.respond = respond functions.watched) {request : Request}
    {text : String} (given : request.call.document? = some text)
    (plain : ∀ c ∈ text.toList, 0x20 ≤ c.toNat) : Hands around request text := by
  have unmarked : '\x00' ∉ text.toList := passable_iff.mp (passable_of_plain plain)
  constructor
  · exact MessageBuffer.untilMark_append_blanks (Utf8.zero_not_mem_encode unmarked) 1
  · intro progress
    rw [Request.state_make, overLibrary, received_of_unmarked given unmarked]
    rfl

private theorem error_ne_of_map {α β : Type} {wrap : α → β} {result : Except ClientError α}
    {fault : ClientError} (other : result.map wrap ≠ .error fault) : result ≠ .error fault := by
  rintro rfl
  exact other rfl

/-- A request whose function gives back a status ends with the status, and never with a text that
could not be passed on. -/
theorem make_ne_invalidText (signed : functions.Signed)
    (overLibrary : around.respond = respond functions.watched) (request : Request)
    (status : request.operation ≠ .list ∧ request.operation ≠ .test)
    (progress : Progress (σ × Received)) (symbol : String) :
    ((request.make around).run progress).1 ≠ .error (.invalidText symbol) := by
  have passes (text : String) (given : request.call.document? = some text) : passable text = true :=
    passable_of_request given
  obtain ⟨code, returned⟩ := signed request.operation (octets? request.call) progress.state.1
    status.1 status.2
  have quiet (text : String) : request.read text = .ok .done := by
    cases request with
    | list => exact absurd rfl status.1
    | test resource => exact absurd rfl status.2
    | _ => rfl
  rw [Request.result_make, overLibrary, respond_of_passable passes]
  have same : (functions.watched request.call.operation (octets? request.call)
      progress.state).result = .status code := returned
  simp only [same, conclude]
  by_cases fails : code = 0
  · simp [fails, Reply.result, Except.bind]
  · simp [fails, Reply.result, Except.bind, quiet]

end Requests

/-- Every payload reaches the library. No text that carries a value has a control character in it, so
it can be passed on, and the requests that hand over a payload give its function exactly the octets
of its text. If the functions keep to their signatures, a request that comes back with a status never
fails for a text that cannot be passed on. Handed over directly, a text is refused exactly if there is
an end mark in it; its function is not entered then, and is given the octets of the text otherwise. -/
theorem payload_reaches_library {functions : Functions σ} (signed : functions.Signed)
    {around : Surroundings (σ × Received)} (overLibrary : around.respond = respond functions.watched) :
    (∀ (α : Type) [Document α] (value : α) (text : String), Document.Carries text value →
      (∀ c ∈ text.toList, 0x20 ≤ c.toNat) ∧ passable text = true) ∧
    ((∀ account, Hands around (.connect account) (Document.encode account)) ∧
      (∀ report, Hands around (.send report) (Document.encode report)) ∧
      (∀ inventory, Hands around (.synchronize inventory) (Document.encode inventory)) ∧
      ∀ resource, Hands around (.test resource) (Document.encode resource)) ∧
    (∀ (progress : Progress (σ × Received)) (symbol : String),
      (∀ account, ((Client.connect around account).run progress).1 ≠
        .error (.invalidText symbol)) ∧
      (∀ report, ((Client.send around report).run progress).1 ≠ .error (.invalidText symbol)) ∧
      ∀ inventory, ((Client.synchronize around inventory).run progress).1 ≠
        .error (.invalidText symbol)) ∧
    ∀ (call : Call) (text : String), call.document? = some text → ∀ state : σ × Received,
      (prepare call = .error (.invalidText call.operation.symbol) ↔ '\x00' ∈ text.toList) ∧
      ('\x00' ∈ text.toList → respond functions.watched call state =
        ⟨.failed (.invalidText call.operation.symbol), [], state⟩) ∧
      ('\x00' ∉ text.toList → (respond functions.watched call state).state.2 =
        state.2 ++ [(call.operation, some (Utf8.encode text.toList))]) := by
  have plain {α : Type} [Document α] (value : α) :
      ∀ c ∈ (Document.encode value).toList, 0x20 ≤ c.toNat :=
    Document.plain_of_carries (Document.carries_encode value)
  refine ⟨fun α _ value text carries => ?_, ⟨fun account => ?_, fun report => ?_,
    fun inventory => ?_, fun resource => ?_⟩, fun progress symbol => ⟨fun account => ?_,
    fun report => ?_, fun inventory => ?_⟩, fun call text given state => ⟨?_, fun marked => ?_,
    fun unmarked => ?_⟩⟩
  · have plain := Document.plain_of_carries carries
    exact ⟨plain, passable_of_plain plain⟩
  · exact hands_of_plain overLibrary rfl (plain account)
  · exact hands_of_plain overLibrary rfl (plain report)
  · exact hands_of_plain overLibrary rfl (plain inventory)
  · exact hands_of_plain overLibrary rfl (plain resource)
  · exact error_ne_of_map
      (make_ne_invalidText signed overLibrary (.connect account) ⟨nofun, nofun⟩ progress symbol)
  · exact error_ne_of_map
      (make_ne_invalidText signed overLibrary (.send report) ⟨nofun, nofun⟩ progress symbol)
  · exact error_ne_of_map
      (make_ne_invalidText signed overLibrary (.synchronize inventory) ⟨nofun, nofun⟩ progress symbol)
  · exact prepare_eq_error_iff given
  · exact respond_of_marked given marked state
  · exact received_of_unmarked given unmarked state

/-- The functions of a scripted library keep to their signatures. -/
theorem Scripted.signed_functions : Scripted.functions.Signed := by
  intro operation input library unlisted untested
  cases operation with
  | list => exact absurd rfl unlisted
  | test => exact absurd rfl untested
  | _ => exact ⟨_, rfl⟩

/-- An account whose password has an end mark in it. -/
def markedAccount : Credentials := ⟨"agent", "se\x00cret"⟩

theorem payload_reaches_library_marked :
    Scripted.functions.Signed ∧
      let around : Surroundings (Scripted × Received) :=
        ⟨respond Scripted.functions.watched, fun _ _ => .missing .notFound, fun _ => ⟨"", .epoch⟩⟩
      Hands around (.connect markedAccount) (Document.encode markedAccount) ∧
        respond Scripted.functions.watched (.connect markedAccount.password) (.fresh, []) =
          ⟨.failed (.invalidText "Connect"), [], (.fresh, [])⟩ := by
  refine ⟨Scripted.signed_functions, ?_⟩
  intro around
  have overLibrary : around.respond = respond Scripted.functions.watched := rfl
  obtain ⟨-, ⟨accounts, -⟩, -, direct⟩ := payload_reaches_library Scripted.signed_functions overLibrary
  obtain ⟨-, refused, -⟩ := direct (.connect markedAccount.password) _ rfl (.fresh, [])
  exact ⟨accounts markedAccount, refused (by decide)⟩

end Library

end MonitorFeed
