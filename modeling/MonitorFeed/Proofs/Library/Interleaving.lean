import MonitorFeed.Proofs.Library.Resident

/-!
Calls of one library by any number of callers, whose steps interleave in any way. A caller prepares a
call with a buffer of its own, the library runs one call at a time, and the caller concludes the call
from what it finds in its buffer afterwards, when other calls may have run already.
-/

namespace MonitorFeed.Library

variable {ι σ : Type}

/-- How far a caller is: between calls, about to enter the library, or back from it. -/
inductive Stage where
  | idle
  | ready (call : Call) (input : Option (List UInt8)) (place : Place)
  | back (call : Call) (result : Return) (place : Place)

/-- Where the buffer of a caller's call is. -/
def Stage.place? : Stage → Option Place
  | .idle => none
  | .ready _ _ place | .back _ _ place => some place

/-- A library, the buffers, and how far each caller is. -/
structure World (ι σ : Type) where
  state : σ
  memory : Memory
  stage : ι → Stage

/-- No call is under way. -/
def World.quiet (state : σ) (memory : Memory) : World ι σ := ⟨state, memory, fun _ => .idle⟩

/-- A step of a call: it is refused, or prepared, enters the library, and is concluded. Of an entry it
is noted what the library gave back and what it wrote into the buffer. -/
inductive Move (ι : Type) where
  | refused (caller : ι) (call : Call) (reply : Reply)
  | prepared (caller : ι) (call : Call)
  | entered (caller : ι) (call : Call) (result : Return) (written : List UInt8)
  | concluded (caller : ι) (call : Call) (reply : Reply)
deriving DecidableEq

namespace Move

def caller : Move ι → ι
  | .refused caller _ _ | .prepared caller _ | .entered caller _ _ _ | .concluded caller _ _ => caller

def call : Move ι → Call
  | .refused _ call _ | .prepared _ call | .entered _ call _ _ | .concluded _ call _ => call

end Move

section Steps

variable [DecidableEq ι] (functions : Resident σ)

/-- The steps of calls. A buffer is blank at first and shared with no other call under way, and an
entry is a single step, since the library is locked for it. -/
inductive Step : World ι σ → Move ι → World ι σ → Prop where
  | refuse {world : World ι σ} {caller : ι} {call : Call} {fault : ClientError}
      (idle : world.stage caller = .idle) (unfit : Library.prepare call = .error fault) :
      Step world (.refused caller call (.failed fault)) world
  | prepare {world : World ι σ} {caller : ι} {call : Call} {prepared : Prepared} {place : Place}
      (idle : world.stage caller = .idle) (fit : Library.prepare call = .ok prepared)
      (free : ∀ other, (world.stage other).place? ≠ some place) :
      Step world (.prepared caller call)
        ⟨world.state, Function.update world.memory place prepared.buffer,
          Function.update world.stage caller (.ready call prepared.input place)⟩
  | enter {world : World ι σ} {caller : ι} {call : Call} {input : Option (List UInt8)}
      {place : Place} {outcome : Outcome σ} (ready : world.stage caller = .ready call input place)
      (ran : functions call.operation input place world.state world.memory = outcome) :
      Step world (.entered caller call outcome.result (outcome.memory place).room)
        ⟨outcome.state, outcome.memory,
          Function.update world.stage caller (.back call outcome.result place)⟩
  | conclude {world : World ι σ} {caller : ι} {call : Call} {result : Return} {place : Place}
      (back : world.stage caller = .back call result place) :
      Step world
        (.concluded caller call
          (Library.conclude ⟨call.operation, result, world.memory place⟩))
        ⟨world.state, world.memory, Function.update world.stage caller .idle⟩

/-- A history of steps, and where it leads. -/
inductive Run (start : World ι σ) : List (Move ι) → World ι σ → Prop where
  | start : Run start [] start
  | step {history : List (Move ι)} {world next : World ι σ} {move : Move ι}
      (before : Run start history world) (step : Step functions world move next) :
      Run start (history ++ [move]) next

end Steps

/-- A call in the library: what it gave back, and what it wrote into the buffer. -/
structure Entry (ι : Type) where
  caller : ι
  call : Call
  result : Return
  written : List UInt8

/-- How a call is concluded from what its own entry has left in a blank buffer. -/
def Entry.outcome (entry : Entry ι) : ι × Call × Reply :=
  (entry.caller, entry.call,
    conclude ⟨entry.call.operation, entry.result, MessageBuffer.blank.copy entry.written⟩)

def Move.entry? : Move ι → Option (Entry ι)
  | .entered caller call result written => some ⟨caller, call, result, written⟩
  | _ => none

/-- The entries of a history. -/
def entries (history : List (Move ι)) : List (Entry ι) :=
  history.filterMap Move.entry?

/-- The calls of a history in the order in which they entered the library. -/
def order (history : List (Move ι)) : List (ι × Call) :=
  (entries history).map fun entry => (entry.caller, entry.call)

/-- Calls one after the other, each answered before the next one begins: the replies, and the state
of the library after the last. -/
def inTurn (functions : Functions σ) (start : σ) (calls : List (ι × Call)) :
    List (ι × Call × Reply) × σ :=
  calls.foldl (fun (done, state) (caller, call) =>
    let response := respond functions call state
    (done ++ [(caller, call, response.reply)], response.state)) ([], start)

@[simp] theorem entries_append (earlier later : List (Move ι)) :
    entries (earlier ++ later) = entries earlier ++ entries later :=
  List.filterMap_append

@[simp] theorem entries_entered (caller : ι) (call : Call) (result : Return)
    (written : List UInt8) (later : List (Move ι)) :
    entries (.entered caller call result written :: later) =
      ⟨caller, call, result, written⟩ :: entries later := rfl

@[simp] theorem order_append (earlier later : List (Move ι)) :
    order (earlier ++ later) = order earlier ++ order later := by
  simp [order]

theorem inTurn_concat (functions : Functions σ) (start : σ) (calls : List (ι × Call)) (caller : ι)
    (call : Call) :
    inTurn functions start (calls ++ [(caller, call)]) =
      let before := inTurn functions start calls
      let response := respond functions call before.2
      (before.1 ++ [(caller, call, response.reply)], response.state) := by
  simp [inTurn]

section Invariant

/-- Steps of other callers. -/
def Elsewhere (caller : ι) (moves : List (Move ι)) : Prop :=
  ∀ move ∈ moves, move.caller ≠ caller

/-- A step is the last that its caller has taken in a history, and there was another history before
it. -/
def LastStep (earlier : List (Move ι)) (move : Move ι) (history : List (Move ι)) : Prop :=
  ∃ later, history = earlier ++ move :: later ∧ Elsewhere move.caller later

theorem LastStep.concat_self (history : List (Move ι)) (move : Move ι) :
    LastStep history move (history ++ [move]) :=
  ⟨[], rfl, fun _ none => absurd none List.not_mem_nil⟩

theorem LastStep.concat {earlier history : List (Move ι)} {move next : Move ι}
    (last : LastStep earlier move history) (other : next.caller ≠ move.caller) :
    LastStep earlier move (history ++ [next]) := by
  obtain ⟨later, rfl, elsewhere⟩ := last
  refine ⟨later ++ [next], by simp, ?_⟩
  intro given member
  rcases List.mem_append.mp member with old | new
  · exact elsewhere given old
  · rw [List.mem_singleton.mp new]
    exact other

/-- The way of a call that is back from the library: it was prepared, then it entered, and its caller
has taken no other step since. -/
structure Passage (history : List (Move ι)) (entry : Entry ι) (before : List (Move ι)) : Prop where
  entered : LastStep before (.entered entry.caller entry.call entry.result entry.written) history
  prepared : ∃ earlier, LastStep earlier (.prepared entry.caller entry.call) before

/-- What a history says about a caller. A call that is ready has a blank buffer; the buffer of one
that is back holds the message that its own entry has written. -/
inductive Pending (history : List (Move ι)) (memory : Memory) (caller : ι) : Stage → Prop where
  | idle : Pending history memory caller .idle
  | ready {call : Call} {input : Option (List UInt8)} {place : Place} {earlier : List (Move ι)}
      (fit : prepare call = .ok ⟨call.operation, input, .blank⟩)
      (prepared : LastStep earlier (.prepared caller call) history)
      (blank : memory place = .blank) : Pending history memory caller (.ready call input place)
  | back {call : Call} {prepared : Prepared} {result : Return} {place : Place}
      {before : List (Move ι)} {written : List UInt8} (fit : prepare call = .ok prepared)
      (passage : Passage history ⟨caller, call, result, written⟩ before)
      (left : (memory place).message = (MessageBuffer.blank.copy written).message) :
      Pending history memory caller (.back call result place)

/-- A step of another caller that leaves the buffer alone says nothing new. -/
theorem Pending.concat {history : List (Move ι)} {memory memory' : Memory} {caller : ι}
    {stage : Stage} {move : Move ι} (pending : Pending history memory caller stage)
    (other : move.caller ≠ caller)
    (kept : ∀ place, stage.place? = some place → memory' place = memory place) :
    Pending (history ++ [move]) memory' caller stage := by
  cases pending with
  | idle => exact .idle
  | ready fit prepared blank =>
    exact .ready fit (prepared.concat other) ((kept _ rfl).trans blank)
  | back fit passage left =>
    refine .back fit ⟨passage.entered.concat other, passage.prepared⟩ ?_
    rw [kept _ rfl, left]

/-- No two calls under way share a buffer. -/
def Apart (stage : ι → Stage) : Prop :=
  ∀ one other place, (stage one).place? = some place → (stage other).place? = some place →
    one = other

/-- What every history says about the world that it leads to: no two calls under way share a buffer,
and the library is where the calls in the order of their entries would have left it. -/
structure Sound (functions : Resident σ) (start : σ) (history : List (Move ι))
    (world : World ι σ) : Prop where
  apart : Apart world.stage
  pending : ∀ caller, Pending history world.memory caller (world.stage caller)
  sequential : inTurn functions.functions start (order history) =
    ((entries history).map Entry.outcome, world.state)

/-- Before the first step no call is under way. -/
theorem sound_quiet (functions : Resident σ) (start : σ) (memory : Memory) :
    Sound functions start [] (.quiet start memory : World ι σ) where
  apart _ _ _ used := nomatch used
  pending _ := .idle
  sequential := rfl

variable {functions : Resident σ} {start : σ} {history : List (Move ι)} {world next : World ι σ}
  {move : Move ι}

/-- A step that is no entry does not change the order of the entries. -/
private theorem sequential_concat (move : Move ι) (sound : Sound functions start history world)
    (none : move.entry? = none) :
    inTurn functions.functions start (order (history ++ [move])) =
      ((entries (history ++ [move])).map Entry.outcome, world.state) := by
  have same : entries (history ++ [move]) = entries history := by
    rw [entries_append, entries, entries, List.filterMap_cons_none none]
    exact List.append_nil _
  rw [order, same]
  exact sound.sequential

namespace Sound

variable {caller : ι} {call : Call}

/-- A call that is ready has a text that can be passed on, and a blank buffer. -/
theorem ready (sound : Sound functions start history world) {input : Option (List UInt8)}
    {place : Place} (ready : world.stage caller = .ready call input place) :
    prepare call = .ok ⟨call.operation, input, .blank⟩ ∧
      (∃ earlier, LastStep earlier (.prepared caller call) history) ∧
      world.memory place = .blank := by
  have pending := sound.pending caller
  rw [ready] at pending
  cases pending with
  | ready fit prepared blank => exact ⟨fit, ⟨_, prepared⟩, blank⟩

/-- The buffer of a call that is back holds the message that its own entry has written. -/
theorem back (sound : Sound functions start history world) {result : Return} {place : Place}
    (back : world.stage caller = .back call result place) :
    (∃ prepared, prepare call = .ok prepared) ∧
      ∃ written before, Passage history ⟨caller, call, result, written⟩ before ∧
        (world.memory place).message = (MessageBuffer.blank.copy written).message := by
  have pending := sound.pending caller
  rw [back] at pending
  cases pending with
  | back fit passage left => exact ⟨⟨_, fit⟩, _, _, passage, left⟩

end Sound

variable [DecidableEq ι]

/-- A caller may go on to any buffer that no other one uses. -/
theorem Apart.update {stage : ι → Stage} {caller : ι} {reached : Stage} (apart : Apart stage)
    (free : ∀ other place, other ≠ caller → reached.place? = some place →
      (stage other).place? ≠ some place) : Apart (Function.update stage caller reached) := by
  intro one other place inOne inOther
  by_cases isOne : one = caller
  · by_cases isOther : other = caller
    · exact isOne.trans isOther.symm
    · rw [isOne, Function.update_self] at inOne
      rw [Function.update_of_ne isOther] at inOther
      exact absurd inOther (free other place isOther inOne)
  · rw [Function.update_of_ne isOne] at inOne
    by_cases isOther : other = caller
    · rw [isOther, Function.update_self] at inOther
      exact absurd inOne (free one place isOne inOther)
    · rw [Function.update_of_ne isOther] at inOther
      exact apart one other place inOne inOther

/-- After a step, a caller is where the step leads, or it is another one and where it was. -/
private theorem pending_update {memory : Memory} {stage : Stage}
    (sound : Sound functions start history world)
    (moved : Pending (history ++ [move]) memory move.caller stage)
    (kept : ∀ other place, other ≠ move.caller → (world.stage other).place? = some place →
      memory place = world.memory place) (caller : ι) :
    Pending (history ++ [move]) memory caller
      (Function.update world.stage move.caller stage caller) := by
  by_cases same : caller = move.caller
  · rw [same, Function.update_self]
    exact moved
  · rw [Function.update_of_ne same]
    exact (sound.pending caller).concat (Ne.symm same) (kept caller · same)

namespace Sound

variable {caller : ι} {call : Call}

theorem refused (sound : Sound functions start history world)
    (idle : world.stage caller = .idle) (reply : Reply) :
    Sound functions start (history ++ [.refused caller call reply]) world where
  apart := sound.apart
  pending other := by
    have moved : Pending (history ++ [.refused caller call reply]) world.memory other
        (Function.update world.stage caller .idle other) :=
      pending_update sound .idle (fun _ _ _ _ => rfl) other
    rwa [← idle, Function.update_eq_self] at moved
  sequential := sequential_concat _ sound rfl

theorem prepared (sound : Sound functions start history world) {prepared : Prepared} {place : Place}
    (fit : prepare call = .ok prepared)
    (free : ∀ other, (world.stage other).place? ≠ some place) :
    Sound functions start (history ++ [.prepared caller call])
      ⟨world.state, Function.update world.memory place prepared.buffer,
        Function.update world.stage caller (.ready call prepared.input place)⟩ := by
  obtain rfl : prepared = ⟨call.operation, octets? call, .blank⟩ := by
    rcases prepare_cases call with ⟨passed, -⟩ | ⟨refused, -⟩
    · exact Except.ok.inj (fit.symm.trans passed)
    · cases fit.symm.trans refused
  have sequential := sequential_concat (.prepared caller call) sound rfl
  refine ⟨sound.apart.update ?_, ?_, sequential⟩
  · intro other used _ inCall
    rw [← inCall]
    exact free other
  · refine pending_update sound (.ready fit (.concat_self _ _) (Function.update_self ..)) ?_
    intro other used _ inOther
    refine Function.update_of_ne ?_ ..
    rintro rfl
    exact free other inOther

/-- A call that enters the library leaves the buffers of others alone, and does what it does by
itself. -/
theorem entered (confined : Confined functions) (sound : Sound functions start history world)
    {input : Option (List UInt8)} {place : Place} {outcome : Outcome σ}
    (ready : world.stage caller = .ready call input place)
    (ran : functions call.operation input place world.state world.memory = outcome) :
    Sound functions start
      (history ++ [.entered caller call outcome.result (outcome.memory place).room])
      ⟨outcome.state, outcome.memory,
        Function.update world.stage caller (.back call outcome.result place)⟩ := by
  obtain ⟨fit, prepared, blank⟩ := sound.ready ready
  have exit := confined.exit call.operation input world.state blank
  rw [ran] at exit
  obtain ⟨alone, left⟩ := exit
  have used : (world.stage caller).place? = some place := by rw [ready]; rfl
  refine ⟨sound.apart.update ?_, ?_, ?_⟩
  · intro other found apart inCall inOther
    exact apart (sound.apart other caller found inOther (used.trans inCall))
  · refine pending_update sound (.back fit ⟨.concat_self _ _, prepared⟩ left) ?_
    intro other found apart inOther
    rw [← ran]
    refine confined.elsewhere _ _ _ _ _ _ ?_
    rintro rfl
    exact apart (sound.apart other caller found inOther used)
  · have entry : order [Move.entered caller call outcome.result (outcome.memory place).room] =
        [(caller, call)] := rfl
    have answered : respond functions.functions call world.state =
        ⟨conclude ⟨call.operation, outcome.result,
          MessageBuffer.blank.copy (outcome.memory place).room⟩,
          [Library.entry ⟨call.operation, input, .blank⟩], outcome.state⟩ := by
      simp only [respond, fit, enter, alone]
    rw [order_append, entry, inTurn_concat, sound.sequential]
    simp only [answered, entries_append, List.map_append]
    rfl

theorem concluded (sound : Sound functions start history world) (reply : Reply) :
    Sound functions start (history ++ [.concluded caller call reply])
      ⟨world.state, world.memory, Function.update world.stage caller .idle⟩ := by
  have sequential := sequential_concat (.concluded caller call reply) sound rfl
  exact ⟨sound.apart.update (fun _ _ _ none => nomatch none),
    pending_update sound .idle (fun _ _ _ _ => rfl), sequential⟩

/-- What histories say about their worlds is kept by every step. -/
theorem step (confined : Confined functions) (sound : Sound functions start history world)
    (step : Step functions world move next) : Sound functions start (history ++ [move]) next := by
  cases step with
  | refuse idle unfit => exact sound.refused idle _
  | prepare idle fit free => exact sound.prepared fit free
  | enter ready ran => exact sound.entered confined ready ran
  | conclude back => exact sound.concluded _

end Sound

/-- The buffers of calls under way lie below a place. -/
def Below (bound : Place) (stage : ι → Stage) : Prop :=
  ∀ caller place, (stage caller).place? = some place → place < bound

theorem Below.update {bound higher : Place} {stage : ι → Stage} {caller : ι} {reached : Stage}
    (below : Below bound stage) (more : bound ≤ higher)
    (within : ∀ place, reached.place? = some place → place < higher) :
    Below higher (Function.update stage caller reached) := by
  intro other place used
  by_cases same : other = caller
  · rw [same, Function.update_self] at used
    exact within place used
  · rw [Function.update_of_ne same] at used
    exact Nat.lt_of_lt_of_le (below other place used) more

namespace Run

variable {memory : Memory}

/-- Every history is sound. -/
theorem sound (confined : Confined functions)
    (ran : Run functions (.quiet start memory) history world) :
    Sound functions start history world := by
  induction ran with
  | start => exact sound_quiet functions start memory
  | step before step ih => exact ih.step confined step

/-- Every step of a history is taken from where the steps before it lead. -/
theorem split {first : World ι σ} {earlier later : List (Move ι)}
    (ran : Run functions first history world) (taken : history = earlier ++ move :: later) :
    ∃ between after, Run functions first earlier between ∧ Step functions between move after := by
  induction ran generalizing later with
  | start => simp at taken
  | step before step ih =>
    rcases List.eq_nil_or_concat later with rfl | ⟨rest, last, rfl⟩
    · obtain ⟨rfl, same⟩ := List.append_inj' taken rfl
      obtain rfl := List.singleton_inj.mp same
      exact ⟨_, _, before, step⟩
    · rw [List.concat_eq_append, ← List.cons_append, ← List.append_assoc] at taken
      exact ih (List.append_inj' taken rfl).1

/-- A call whose text has an end mark in it is refused, and takes no other step. -/
theorem eq_refused_of_marked (confined : Confined functions)
    (ran : Run functions (.quiet start memory) history world) (taken : move ∈ history)
    {text : String} (given : move.call.document? = some text) (marked : '\x00' ∈ text.toList) :
    move = .refused move.caller move.call
      (.failed (.invalidText move.call.operation.symbol)) := by
  have unfit : prepare move.call = .error (.invalidText move.call.operation.symbol) := by
    rcases prepare_cases move.call with ⟨-, unmarked⟩ | ⟨refused, -⟩
    · exact absurd marked (unmarked text given)
    · exact refused
  obtain ⟨earlier, later, split⟩ := List.append_of_mem taken
  obtain ⟨between, after, before, step⟩ := ran.split split
  have sound := before.sound confined
  cases step with
  | @refuse caller call _ idle refused =>
    have same := Except.error.inj (refused.symm.trans unfit)
    exact congrArg (Move.refused caller call ∘ Reply.failed) same
  | prepare idle fit free => cases fit.symm.trans unfit
  | enter ready ran => cases (sound.ready ready).1.symm.trans unfit
  | conclude back =>
    obtain ⟨⟨_, fit⟩, -⟩ := sound.back back
    cases fit.symm.trans unfit

/-- A call is refused for the end mark in its text only. -/
theorem marked_of_refused (ran : Run functions (.quiet start memory) history world) {caller : ι}
    {call : Call} {reply : Reply} (taken : .refused caller call reply ∈ history) :
    (∃ text, call.document? = some text ∧ '\x00' ∈ text.toList) ∧
      reply = .failed (.invalidText call.operation.symbol) ∧
      ∀ state, respond functions.functions call state = ⟨reply, [], state⟩ := by
  obtain ⟨earlier, later, split⟩ := List.append_of_mem taken
  obtain ⟨between, after, -, step⟩ := ran.split split
  cases step with
  | refuse idle unfit =>
    rcases prepare_cases call with ⟨fit, -⟩ | ⟨refused, marked⟩
    · cases fit.symm.trans unfit
    · obtain rfl := Except.error.inj (refused.symm.trans unfit)
      refine ⟨marked, rfl, fun state => ?_⟩
      rw [respond, refused]

/-- A call that is concluded has been prepared and has entered the library since its caller was last
idle, and is concluded from what it has written itself. -/
theorem passage_of_concluded (confined : Confined functions)
    (ran : Run functions (.quiet start memory) history world) {earlier later : List (Move ι)}
    {caller : ι} {call : Call} {reply : Reply}
    (taken : history = earlier ++ .concluded caller call reply :: later) :
    ∃ entry before, Passage earlier entry before ∧ entry.outcome = (caller, call, reply) := by
  obtain ⟨between, after, before, step⟩ := ran.split taken
  cases step with
  | conclude back =>
    obtain ⟨-, written, begun, passage, left⟩ := (before.sound confined).back back
    refine ⟨_, begun, passage, ?_⟩
    rw [Entry.outcome, conclude_congr left]

/-- The place of an entry among the calls one after the other. -/
theorem getElem?_inTurn (confined : Confined functions)
    (ran : Run functions (.quiet start memory) history world)
    {earlier before later : List (Move ι)} {entry : Entry ι} (taken : history = earlier ++ later)
    (passage : Passage earlier entry before) :
    (inTurn functions.functions start (order history)).1[(order before).length]? =
      some entry.outcome := by
  obtain ⟨between, rfl, -⟩ := passage.entered
  rw [(ran.sound confined).sequential, taken]
  simp [order]

/-- The buffers of calls under way lie below some place. -/
theorem exists_bound (ran : Run functions (.quiet start memory) history world) :
    ∃ bound, Below bound world.stage := by
  induction ran with
  | start => exact ⟨0, fun _ _ used => nomatch used⟩
  | step before step ih =>
    obtain ⟨bound, below⟩ := ih
    cases step with
    | refuse idle unfit => exact ⟨bound, below⟩
    | @prepare _ _ _ place idle fit free =>
      refine ⟨max bound (place + 1), below.update (Nat.le_max_left ..) ?_⟩
      rintro _ ⟨⟩
      exact Nat.lt_of_succ_le (Nat.le_max_right ..)
    | @enter caller _ _ place _ ready ran =>
      refine ⟨bound, below.update (Nat.le_refl bound) ?_⟩
      rintro _ ⟨⟩
      exact below caller place (by rw [ready]; rfl)
    | conclude back => exact ⟨bound, below.update (Nat.le_refl bound) fun _ none => nomatch none⟩

/-- Every caller can take a step: an idle one with any call, another one with its own. -/
theorem exists_step (ran : Run functions (.quiet start memory) history world) (caller : ι)
    (call : Call) :
    ∃ move next, Step functions world move next ∧ move.caller = caller ∧
      (world.stage caller = .idle → move.call = call) := by
  cases reached : world.stage caller with
  | idle =>
    obtain ⟨bound, below⟩ := ran.exists_bound
    rcases prepare_cases call with ⟨fit, -⟩ | ⟨unfit, -⟩
    · have free (other : ι) : (world.stage other).place? ≠ some bound := fun used =>
        Nat.lt_irrefl bound (below other bound used)
      exact ⟨_, _, .prepare reached fit free, rfl, fun _ => rfl⟩
    · exact ⟨_, _, .refuse reached unfit, rfl, fun _ => rfl⟩
  | ready call input place => exact ⟨_, _, .enter reached rfl, rfl, fun idle => nomatch idle⟩
  | back call result place => exact ⟨_, _, .conclude reached, rfl, fun idle => nomatch idle⟩

end Run

/-- The message of a call that fails is what stands in its buffer. -/
theorem message_of_refused {returned : Returned} {name text : String}
    (failed : conclude returned = .failed (.refused name text)) :
    text = returned.buffer.message := by
  obtain ⟨operation, result, buffer⟩ := returned
  cases result with
  | status code =>
    by_cases zero : code = 0
    · simp only [conclude, zero, if_true] at failed
      cases failed
      rfl
    · simp only [conclude, zero, if_false] at failed
      cases failed
  | text octets =>
    cases octets with
    | none =>
      cases failed
      rfl
    | some octets =>
      simp only [conclude, acceptText] at failed
      split at failed <;> cases failed

end Invariant

/-- Calls are linearizable, whatever the order of their steps. The library is left where it would be
left by the same calls one after the other, in the order of their entries. Every call that is
concluded has entered the library after it was prepared, and comes out as at that place of the order;
the message of one that fails is what its own entry has written into a blank buffer. A call whose
text has an end mark in it is refused and never enters, and no caller ever has to give up. -/
theorem linearizable [DecidableEq ι] {functions : Resident σ} (confined : Confined functions)
    {start : σ} {memory : Memory} {history : List (Move ι)} {world : World ι σ}
    (ran : Run functions (.quiet start memory) history world) :
    let sequential := inTurn functions.functions start (order history)
    world.state = sequential.2 ∧
    (∀ earlier later caller call reply,
      history = earlier ++ .concluded caller call reply :: later →
      ∃ entry before, Passage earlier entry before ∧ entry.outcome = (caller, call, reply) ∧
        sequential.1[(order before).length]? = some (caller, call, reply) ∧
        ∀ name text, reply = .failed (.refused name text) →
          text = (MessageBuffer.blank.copy entry.written).message) ∧
    (∀ move ∈ history, ∀ text, move.call.document? = some text → '\x00' ∈ text.toList →
      move = .refused move.caller move.call
        (.failed (.invalidText move.call.operation.symbol))) ∧
    (∀ caller call reply, .refused caller call reply ∈ history →
      (∃ text, call.document? = some text ∧ '\x00' ∈ text.toList) ∧
        reply = .failed (.invalidText call.operation.symbol) ∧
        ∀ state, respond functions.functions call state = ⟨reply, [], state⟩) ∧
    ∀ caller call, ∃ move next, Step functions world move next ∧ move.caller = caller ∧
      (world.stage caller = .idle → move.call = call) := by
  intro sequential
  refine ⟨?_, ?_, ?_, fun _ _ _ => ran.marked_of_refused, ran.exists_step⟩
  · exact (congrArg Prod.snd (ran.sound confined).sequential).symm
  · intro earlier later caller call reply taken
    obtain ⟨entry, before, passage, outcome⟩ := ran.passage_of_concluded confined taken
    have placed := ran.getElem?_inTurn confined taken passage
    rw [outcome] at placed
    refine ⟨entry, before, passage, outcome, placed, ?_⟩
    intro name text failed
    have concluded : conclude ⟨entry.call.operation, entry.result,
        MessageBuffer.blank.copy entry.written⟩ = reply :=
      congrArg (fun outcome => outcome.2.2) outcome
    exact message_of_refused (concluded.trans failed)
  · intro move taken text given marked
    exact ran.eq_refused_of_marked confined taken given marked

/-- A library whose sessions do not close. -/
def stubborn : Scripted := Scripted.fresh.set .disconnect ⟨0, "no".toUTF8.toList, none⟩

/-- Another call runs and ends while the message of a failed one waits to be read. -/
theorem linearizable_overlapping :
    ∃ history world,
      Run Scripted.functions.resident (.quiet stubborn fun _ => .blank : World Bool Scripted) history
        world ∧
      history.getLast? =
        some (.concluded false .disconnect (.failed (.refused "Disconnect" "no"))) ∧
      world.state = (inTurn Scripted.functions.resident.functions stubborn
        [(false, .disconnect), (true, .list)]).2 := by
  have ran := Run.start
    |>.step (@Step.prepare Bool _ _ Scripted.functions.resident (.quiet stubborn fun _ => .blank)
      false .disconnect _ 0 rfl rfl (by decide))
    |>.step (@Step.prepare Bool _ _ _ _ true .list _ 1 rfl rfl (by decide))
    |>.step (@Step.enter Bool _ _ _ _ false _ _ _ _ rfl rfl)
    |>.step (@Step.enter Bool _ _ _ _ true _ _ _ _ rfl rfl)
    |>.step (@Step.conclude Bool _ _ _ _ true _ _ _ rfl)
    |>.step (@Step.conclude Bool _ _ _ _ false _ _ _ rfl)
  exact ⟨_, _, ran, by decide +kernel, (linearizable (Functions.confined _) ran).1⟩

end MonitorFeed.Library
