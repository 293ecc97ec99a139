import MonitorFeed.Backend.StandIn
import MonitorFeed.Library.Scripted
import MonitorFeed.Proofs.Json.Plain
import MonitorFeed.Proofs.Request
import MonitorFeed.Proofs.Text.Utf8

/-!
A stand-in is as good as a library. Where both follow one playbook, every sequence of requests comes
to the same results over either, and the library is handed the octets that the stand-in remembers.
-/

namespace MonitorFeed

variable {σ : Type}

open Text

namespace MessageBuffer

/-- Octets without an end mark end where blanks begin. -/
theorem untilMark_append_blanks {octets : List UInt8} (unmarked : 0 ∉ octets) (count : Nat) :
    untilMark (octets ++ List.replicate count 0) = octets := by
  induction octets with
  | nil => cases count <;> rfl
  | cons octet rest ih =>
    obtain ⟨first, others⟩ := List.ne_and_not_mem_of_not_mem_cons unmarked
    simpa [untilMark, Ne.symm first] using ih others

theorem untilMark_of_unmarked {octets : List UInt8} (unmarked : 0 ∉ octets) :
    untilMark octets = octets := by
  simpa using untilMark_append_blanks unmarked 0

theorem zero_not_mem_untilMark (octets : List UInt8) : 0 ∉ untilMark octets := by
  intro marked
  have unmarked : (untilMark octets).all (· ≠ 0) = true := List.all_takeWhile
  simpa using List.all_eq_true.mp unmarked 0 marked

/-- What a message leaves in a blank buffer: its octets before the end mark, as far as they fit. -/
theorem untilMark_copy_blank (left : List UInt8) :
    untilMark (blank.copy left).octets = (untilMark left).take messageLimit := by
  have unmarked : 0 ∉ (untilMark left).take messageLimit := fun marked =>
    zero_not_mem_untilMark left (List.mem_of_mem_take marked)
  simp only [copy, messageRoom, blank, List.append_assoc, List.drop_replicate,
    List.replicate_append_replicate]
  exact untilMark_append_blanks unmarked _

/-- A message that has no end mark in it and room in the buffer is found there as it was left. -/
theorem message_copy_blank {text : String} (something : text ≠ "") (unmarked : '\x00' ∉ text.toList)
    (fits : text.utf8ByteSize ≤ messageLimit) :
    (blank.copy (Utf8.encode text.toList)).message = text := by
  have octets := Utf8.zero_not_mem_encode unmarked
  have whole : (Utf8.encode text.toList).take messageLimit = Utf8.encode text.toList := by
    refine List.take_of_length_le ?_
    rw [Utf8.length_encode]
    exact fits
  have found : untilMark (blank.copy (Utf8.encode text.toList)).octets =
      Utf8.encode text.toList := by
    rw [untilMark_copy_blank, untilMark_of_unmarked octets, whole]
  have nonempty : Utf8.encode text.toList ≠ [] := by
    intro empty
    have size := Utf8.length_encode text
    rw [empty] at size
    exact something (String.utf8ByteSize_eq_zero_iff.mp size.symm)
  rw [message, found]
  split
  · rename_i empty
    exact absurd empty nonempty
  · rw [Utf8.decodeLossy_encode, String.ofList_toList]

end MessageBuffer

namespace Library

theorem passable_iff {text : String} : passable text = true ↔ '\x00' ∉ text.toList := by
  simp [passable]

/-- What carries a value can be passed on. -/
theorem passable_encode {α : Type} [Document α] (value : α) :
    passable (Document.encode value) = true := by
  rw [passable_iff, Document.encode, Schema.write, String.toList_ofList]
  intro marked
  exact absurd (Json.plain_compact _ _ marked) (by decide)

theorem passable_of_request {request : Request} {text : String}
    (given : request.call.document? = some text) : passable text = true := by
  cases request with
  | connect account => exact Option.some.inj given ▸ passable_encode account
  | send report => exact Option.some.inj given ▸ passable_encode report
  | synchronize inventory => exact Option.some.inj given ▸ passable_encode inventory
  | test resource => exact Option.some.inj given ▸ passable_encode resource
  | disconnect => cases given
  | list => cases given

/-- The octets that go with a call. -/
def octets? (call : Call) : Option (List UInt8) :=
  call.document?.map fun text => Utf8.encode text.toList

theorem prepare_of_passable {call : Call}
    (passes : ∀ text, call.document? = some text → passable text = true) :
    prepare call = .ok ⟨call.operation, octets? call, .blank⟩ := by
  unfold prepare octets?
  split
  · rename_i none
    rw [none]
    rfl
  · rename_i text given
    rw [given, if_pos (passes text given)]
    rfl

/-- A call can be passed on, or it is refused for the end mark in its text. -/
theorem prepare_cases (call : Call) :
    (prepare call = .ok ⟨call.operation, octets? call, .blank⟩ ∧
      ∀ text, call.document? = some text → '\x00' ∉ text.toList) ∨
    (prepare call = .error (.invalidText call.operation.symbol) ∧
      ∃ text, call.document? = some text ∧ '\x00' ∈ text.toList) := by
  cases given : call.document? with
  | none =>
    refine .inl ⟨prepare_of_passable ?_, fun _ none => nomatch none⟩
    intro text some
    cases given.symm.trans some
  | some text =>
    by_cases marked : '\x00' ∈ text.toList
    · refine .inr ⟨?_, text, rfl, marked⟩
      rw [prepare, given]
      exact if_neg fun passes => passable_iff.mp passes marked
    · have same {other : String} (found : some text = some other) : '\x00' ∉ other.toList := by
        cases found
        exact marked
      refine .inl ⟨prepare_of_passable ?_, fun _ => same⟩
      intro other found
      exact passable_iff.mpr (same (given.symm.trans found))

theorem acceptText_encode (operation : Operation) {text : String} (passes : passable text = true) :
    acceptText operation (Utf8.encode text.toList) = .answered text := by
  have octets := Utf8.zero_not_mem_encode (passable_iff.mp passes)
  rw [acceptText, MessageBuffer.untilMark_of_unmarked octets]
  simp

/-- A library that notes what its functions are given. -/
def Functions.watched (functions : Functions σ) :
    Functions (σ × List (Operation × Option (List UInt8))) := fun operation input state =>
  let exit := functions operation input state.1
  ⟨exit.result, exit.message, (exit.state, state.2 ++ [(operation, input)])⟩

end Library

/-- What the operations are to answer: the message of each that fails, the text of a listing, and the
text of a test. Every text can cross the boundary to a library, and every message has room in the
buffer of a call. -/
structure Playbook where
  failure? : Operation → Option String
  listing : String
  echo : String
  failure_fits : ∀ {operation message}, failure? operation = some message →
    message ≠ "" ∧ Library.passable message = true ∧ message.utf8ByteSize ≤ messageLimit
  listing_passes : Library.passable listing = true
  echo_passes : Library.passable echo = true

namespace Playbook

variable (playbook : Playbook)

/-- The stand-in that follows the playbook, after a number of calls. -/
def double (calls : List Call) : StandIn :=
  ⟨calls, playbook.failure?, playbook.listing, some playbook.echo⟩

/-- The text with which an operation answers, if it answers with one. -/
def text? : Operation → Option String
  | .list => some playbook.listing
  | .test => some playbook.echo
  | .connect | .disconnect | .send | .synchronize => none

/-- How a call ends. -/
def reply (operation : Operation) : Reply :=
  match playbook.failure? operation with
  | some message => .failed (.refused operation.symbol message)
  | none => .answered ((playbook.text? operation).getD "")

/-- How the function of a library may end that follows the playbook: what it gives back, and the
message that it leaves. One that succeeds may leave any message. -/
inductive Ends (operation : Operation) : Library.Return → List UInt8 → Prop where
  | refused {message : String} (fails : playbook.failure? operation = some message)
      (silent : playbook.text? operation = none) :
      Ends operation (.status 0) (Utf8.encode message.toList)
  | missing {message text : String} (fails : playbook.failure? operation = some message)
      (spoken : playbook.text? operation = some text) :
      Ends operation (.text none) (Utf8.encode message.toList)
  | accepted {code : UInt8} (succeeds : playbook.failure? operation = none)
      (silent : playbook.text? operation = none) (nonzero : code ≠ 0) (left : List UInt8) :
      Ends operation (.status code) left
  | answered {text : String} (succeeds : playbook.failure? operation = none)
      (spoken : playbook.text? operation = some text) (left : List UInt8) :
      Ends operation (.text (some (Utf8.encode text.toList))) left

/-- A library follows the playbook in the states that it comes to. -/
structure FollowedBy (functions : Library.Functions σ) (usual : σ → Prop) : Prop where
  ends : ∀ operation input state, usual state →
    playbook.Ends operation (functions operation input state).result
      (functions operation input state).message
  stays : ∀ operation input state, usual state → usual (functions operation input state).state

variable {playbook} {operation : Operation}

theorem text_passes {text : String} (spoken : playbook.text? operation = some text) :
    Library.passable text = true := by
  cases operation with
  | list => exact Option.some.inj spoken ▸ playbook.listing_passes
  | test => exact Option.some.inj spoken ▸ playbook.echo_passes
  | _ => cases spoken

theorem reply_double (calls : List Call) (call : Call) :
    (playbook.double calls).reply call = playbook.reply call.operation := by
  simp only [StandIn.reply, reply, double]
  cases playbook.failure? call.operation with
  | some message => rfl
  | none => cases call <;> rfl

/-- A call of a library that follows the playbook is concluded as the playbook has it. -/
theorem Ends.conclude {result : Library.Return} {left : List UInt8}
    (ends : playbook.Ends operation result left) :
    Library.conclude ⟨operation, result, MessageBuffer.blank.copy left⟩ =
      playbook.reply operation := by
  have told {message : String} (fails : playbook.failure? operation = some message) :
      (MessageBuffer.blank.copy (Utf8.encode message.toList)).message = message := by
    obtain ⟨something, passes, fits⟩ := playbook.failure_fits fails
    exact MessageBuffer.message_copy_blank something (Library.passable_iff.mp passes) fits
  cases ends with
  | refused fails silent => simp only [Library.conclude, reply, fails, told fails, ↓reduceIte]
  | missing fails spoken => simp only [Library.conclude, reply, fails, told fails]
  | accepted succeeds silent nonzero =>
    simp only [Library.conclude, reply, succeeds, silent, nonzero, ↓reduceIte, Option.getD_none]
  | answered succeeds spoken =>
    simp only [Library.conclude, reply, succeeds, spoken, Option.getD_some]
    exact Library.acceptText_encode operation (text_passes spoken)

/-- The scripts with which a scripted library follows the playbook. -/
def scripts (playbook : Playbook) (operation : Operation) : Library.Script :=
  match playbook.failure? operation with
  | some message => ⟨0, Utf8.encode message.toList, none⟩
  | none => ⟨1, [], (playbook.text? operation).map fun text => Utf8.encode text.toList⟩

/-- Every playbook is followed by some library. -/
theorem followedBy_scripted (playbook : Playbook) :
    playbook.FollowedBy Library.Scripted.functions
      fun library => library.scripts = playbook.scripts where
  ends operation input library scripted := by
    have script : library.scripts operation = playbook.scripts operation := by rw [scripted]
    have nonzero : (1 : UInt8) ≠ 0 := by decide
    simp only [Library.Scripted.functions, script, scripts]
    cases failing : playbook.failure? operation with
    | some message =>
      cases operation with
      | list => exact .missing failing rfl
      | test => exact .missing failing rfl
      | _ => exact .refused failing rfl
    | none =>
      cases operation with
      | list => exact .answered failing rfl _
      | test => exact .answered failing rfl _
      | _ => exact .accepted failing rfl nonzero _
  stays _ _ _ scripted := scripted

variable (playbook) in
/-- A library and a stand-in that follow the playbook, after the same calls. -/
structure Abreast (usual : σ → Prop) (calls : List Call)
    (native : σ × List (Operation × Option (List UInt8))) (standIn : StandIn) : Prop where
  among : usual native.1
  received : native.2 = calls.map fun call => (call.operation, Library.octets? call)
  remembered : standIn = playbook.double calls

section Sessions

variable {functions : Library.Functions σ} {usual : σ → Prop}

/-- A call ends in the same way over both, and leaves both after the same calls. -/
theorem Abreast.respond (follows : playbook.FollowedBy functions usual) (request : Request)
    {calls : List Call} {native : σ × List (Operation × Option (List UInt8))} {standIn : StandIn}
    (abreast : playbook.Abreast usual calls native standIn) :
    (Library.respond functions.watched request.call native).reply =
        (StandIn.respond request.call standIn).reply ∧
      playbook.Abreast usual (calls ++ [request.call])
        (Library.respond functions.watched request.call native).state
        (StandIn.respond request.call standIn).state := by
  have prepared : Library.prepare request.call =
      .ok ⟨request.operation, Library.octets? request.call, .blank⟩ :=
    Library.prepare_of_passable fun _ => Library.passable_of_request
  have concluded := (follows.ends request.operation (Library.octets? request.call) native.1
    abreast.among).conclude
  have stays := follows.stays request.operation (Library.octets? request.call) native.1
    abreast.among
  obtain ⟨among, received, rfl⟩ := abreast
  simp only [Library.respond, prepared, Library.enter, Library.Functions.watched, concluded]
  refine ⟨(reply_double calls request.call).symm, stays, ?_, rfl⟩
  simp only [received, List.map_append, List.map_cons, List.map_nil]
  rfl

variable {library : Surroundings (σ × List (Operation × Option (List UInt8)))}
  {rehearsal : Surroundings StandIn}

/-- Requests come to the same results over both. -/
theorem Abreast.makeAll (follows : playbook.FollowedBy functions usual)
    (overLibrary : library.respond = Library.respond functions.watched)
    (overStandIn : rehearsal.respond = StandIn.respond) (requests : List Request)
    {calls : List Call} {native : Progress (σ × List (Operation × Option (List UInt8)))}
    {rehearsed : Progress StandIn}
    (abreast : playbook.Abreast usual calls native.state rehearsed.state) :
    ((Request.makeAll library requests).run native).1 =
        ((Request.makeAll rehearsal requests).run rehearsed).1 ∧
      playbook.Abreast usual (calls ++ requests.map Request.call)
        ((Request.makeAll library requests).run native).2.state
        ((Request.makeAll rehearsal requests).run rehearsed).2.state := by
  induction requests generalizing native rehearsed calls with
  | nil =>
    rw [List.map_nil, List.append_nil]
    exact ⟨rfl, abreast⟩
  | cons request rest ih =>
    obtain ⟨replied, next⟩ := abreast.respond follows request
    rw [← overLibrary, ← overStandIn] at replied next
    rw [← Request.state_make, ← Request.state_make] at next
    obtain ⟨results, last⟩ := ih next
    rw [List.append_assoc] at last
    refine ⟨?_, last⟩
    simp only [Request.run_makeAll_cons, Request.result_make, replied, results]

end Sessions

/-- Every sequence of requests comes, request by request, to the same results over a library as over
a stand-in that follows the same playbook; the stand-in remembers one call for each request, and
the library is given the octets of the documents that it remembers. -/
theorem makeAll_library_eq_standIn (playbook : Playbook) {functions : Library.Functions σ}
    {usual : σ → Prop} (follows : playbook.FollowedBy functions usual) {state : σ}
    (among : usual state) (storage : _ → Storage) (rehearsed : StandIn → Storage)
    (draw drawn : Nat → Draw) (requests : List Request) :
    let native := (Request.makeAll ⟨Library.respond functions.watched, storage, draw⟩ requests).run
      (.start (state, []))
    let rehearsal := (Request.makeAll ⟨StandIn.respond, rehearsed, drawn⟩ requests).run
      (.start (playbook.double []))
    native.1 = rehearsal.1 ∧
      rehearsal.2.state.calls = requests.map Request.call ∧
      native.2.state.2 = rehearsal.2.state.calls.map fun call =>
        (call.operation, call.document?.map fun text => Utf8.encode text.toList) := by
  intro native rehearsal
  have start : playbook.Abreast usual [] (state, []) (playbook.double []) := ⟨among, rfl, rfl⟩
  obtain ⟨results, last⟩ : native.1 = rehearsal.1 ∧
      playbook.Abreast usual ([] ++ requests.map Request.call) native.2.state rehearsal.2.state :=
    start.makeAll follows rfl rfl requests
  have calls : rehearsal.2.state.calls = requests.map Request.call :=
    congrArg StandIn.calls last.remembered
  refine ⟨results, calls, ?_⟩
  rw [calls]
  exact last.received

/-- A playbook in which closing a session fails, with a message that leaves no room in the buffer. -/
def longFarewell : Playbook where
  failure? operation :=
    if operation = .disconnect then some (String.ofList (List.replicate 125 'é')) else none
  listing := "[\x7b\"name\": \"load\"\x7d]"
  echo := "null"
  failure_fits := by
    intro operation message failing
    split at failing
    · obtain rfl := Option.some.inj failing
      decide +kernel
    · cases failing
  listing_passes := by decide +kernel
  echo_passes := by decide +kernel

theorem makeAll_longFarewell :
    longFarewell.FollowedBy Library.Scripted.functions
        (fun library => library.scripts = longFarewell.scripts) ∧
      ((Request.makeAll
          ⟨Library.respond Library.Scripted.functions.watched, fun _ _ => .missing .notFound,
            fun _ => ⟨"", .epoch⟩⟩
          [.connect ⟨"agent", "secret"⟩, .list, .disconnect]).run
            (.start (⟨longFarewell.scripts, []⟩, []))).1 =
        [.ok .done, .ok (.metrics [.named "load"]),
          .error (.refused "Disconnect" (String.ofList (List.replicate 125 'é')))] := by
  have follows := followedBy_scripted longFarewell
  have among : (fun library : Library.Scripted => library.scripts = longFarewell.scripts)
      ⟨longFarewell.scripts, []⟩ := rfl
  have results := (longFarewell.makeAll_library_eq_standIn follows among
    (fun _ _ => .missing .notFound) (fun _ _ => .missing .notFound) (fun _ => ⟨"", .epoch⟩)
    (fun _ => ⟨"", .epoch⟩) [.connect ⟨"agent", "secret"⟩, .list, .disconnect]).1
  refine ⟨follows, results.trans ?_⟩
  simp only [Request.run_makeAll_cons, Request.result_make, Request.state_make, StandIn.respond,
    StandIn.remember, Progress.start]
  exact List.cons_eq_cons.mpr ⟨rfl, List.cons_eq_cons.mpr ⟨rfl, List.cons_eq_cons.mpr ⟨rfl, rfl⟩⟩⟩

end Playbook

end MonitorFeed
