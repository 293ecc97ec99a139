import Mathlib.Data.List.Forall2
import MonitorFeed.Proofs.Command.Session
import MonitorFeed.Proofs.Feeder.Trace
import MonitorFeed.Proofs.Result
import MonitorFeed.Proofs.Settings.Fitness

/-!
What becomes of the document in a file on its way out. The feeder and the command line both hand it
over as it is but for its header: the feeder stamps every delivery anew, the command line only what
nobody has stamped.
-/

namespace MonitorFeed

variable {σ : Type}

open Feeder (Delivery)

/-- A header names the agent of the settings and carries what was drawn. -/
structure Context.Bears (context : Context) (agent : AgentSettings) (draw : Draw) : Prop where
  appType : context.appType = agent.appType
  agentId : context.agentId = agent.agentId
  version : context.version = agent.version
  token : context.traceToken = draw.token
  time : context.timeStamp = draw.time

theorem AgentSettings.bears_context (agent : AgentSettings) (draw : Draw) :
    (agent.context draw).Bears agent draw :=
  ⟨rfl, rfl, rfl, rfl, rfl⟩

/-- A document that is delivered. -/
inductive Parcel where
  | inventory (content : Inventory)
  | report (content : Report)

namespace Parcel

/-- The document that a text carries for a delivery. -/
def ofText (delivery : Delivery) (text : String) : Except Json.Error Parcel :=
  match delivery with
  | .inventory => (Document.decode text).map .inventory
  | .metrics => (Document.decode text).map .report

def context? : Parcel → Option Context
  | .inventory content => content.context
  | .report content => content.context

/-- The document under a header. -/
def stamped (context : Context) : Parcel → Parcel
  | .inventory content => .inventory { content with context := some context }
  | .report content => .report { content with context := some context }

/-- The document without its header. -/
def bare : Parcel → Parcel
  | .inventory content => .inventory { content with context := none }
  | .report content => .report { content with context := none }

/-- The call that hands the document over. -/
def call : Parcel → Call
  | .inventory content => .synchronize (Document.encode content)
  | .report content => .send (Document.encode content)

/-- What the command line says of a document that was taken. -/
def receipt : Parcel → String
  | .inventory content =>
    "synchronized " ++ toString content.resources.length ++ " resource(s), " ++
      toString content.groups.length ++ " group(s)"
  | .report content => "sent " ++ toString content.resources.length ++ " resource(s)"

/-- A document that a file carries for a delivery is handed over by the operation of it. -/
theorem operation_call {delivery : Delivery} {text : String} {parcel : Parcel}
    (spelled : ofText delivery text = .ok parcel) (context : Context) :
    (parcel.stamped context).call.operation = delivery.operation := by
  cases delivery with
  | inventory =>
    obtain ⟨content, -, rfl⟩ := map_eq_ok_iff.mp spelled
    rfl
  | metrics =>
    obtain ⟨content, -, rfl⟩ := map_eq_ok_iff.mp spelled
    rfl

@[simp] theorem bare_stamped (parcel : Parcel) (context : Context) :
    (parcel.stamped context).bare = parcel.bare := by
  cases parcel <;> rfl

/-- A header that is there already changes nothing. -/
theorem stamped_self {parcel : Parcel} {context : Context}
    (marked : parcel.context? = some context) : parcel.stamped context = parcel := by
  cases parcel with
  | inventory content =>
    obtain ⟨own, resources, groups⟩ := content
    obtain rfl : own = some context := marked
    rfl
  | report content =>
    obtain ⟨own, resources⟩ := content
    obtain rfl : own = some context := marked
    rfl

end Parcel

/-- The state that calls leave of the surroundings, one after the other. -/
def Surroundings.after (around : Surroundings σ) (start : σ) (calls : List (Call × Reply)) : σ :=
  calls.foldl (fun state exchange => (around.respond exchange.1 state).state) start

/-- The calls that deliver a document. -/
def deliveries (calls : List (Call × Reply)) : List (Call × Reply) :=
  calls.filter fun exchange =>
    exchange.1.operation = .synchronize || exchange.1.operation = .send

namespace Feeder

variable {around : Surroundings σ} {feeder : Feeder}

/-- The file of a delivery. -/
def file? (feeder : Feeder) : Delivery → Option String
  | .inventory => feeder.settings.feeder.inventoryFile
  | .metrics => feeder.settings.feeder.metricsFile

/-- A delivery hands over the document of its file under a header. -/
theorem Delivery.prepare_eq_ok_iff {delivery : Delivery} {storage : Storage} {path : String}
    {context : Context} {call : Call} :
    delivery.prepare storage path context = .ok call ↔
      ∃ text parcel, storage.readText path = .ok text ∧ Parcel.ofText delivery text = .ok parcel ∧
        call = (parcel.stamped context).call := by
  cases delivery with
  | inventory =>
    simp only [prepare, Parcel.ofText, map_eq_ok_iff, Document.load_eq_ok_iff]
    constructor
    · rintro ⟨content, ⟨text, held, decoded⟩, rfl⟩
      exact ⟨text, _, held, ⟨content, decoded, rfl⟩, rfl⟩
    · rintro ⟨text, parcel, held, ⟨content, decoded, rfl⟩, rfl⟩
      exact ⟨content, ⟨text, held, decoded⟩, rfl⟩
  | metrics =>
    simp only [prepare, Parcel.ofText, map_eq_ok_iff, Document.load_eq_ok_iff]
    constructor
    · rintro ⟨content, ⟨text, held, decoded⟩, rfl⟩
      exact ⟨text, _, held, ⟨content, decoded, rfl⟩, rfl⟩
    · rintro ⟨text, parcel, held, ⟨content, decoded, rfl⟩, rfl⟩
      exact ⟨content, ⟨text, held, decoded⟩, rfl⟩

/-- A slot is on a file of its feeder. -/
theorem file?_of_mem_slots {cycle : Nat} {slot : Slot} (member : slot ∈ feeder.slots cycle) :
    feeder.file? slot.delivery = some slot.path := by
  rcases List.mem_append.mp member with inventory | metrics
  · unfold inventorySlots at inventory
    split at inventory
    · obtain ⟨path, given, rfl⟩ := List.mem_map.mp inventory
      exact Option.mem_toList.mp given
    · cases inventory
  · obtain ⟨path, given, rfl⟩ := List.mem_map.mp metrics
    exact Option.mem_toList.mp given

theorem file?_of_mem_schedule {first count : Nat} {slot : Slot}
    (member : slot ∈ feeder.schedule first count) :
    feeder.file? slot.delivery = some slot.path := by
  obtain ⟨cycle, -, member⟩ := List.mem_flatMap.mp member
  exact file?_of_mem_slots member

/-- What is handed over for slots, one after the other, from a state and a number of draws on. A file
whose text carries the document of its slot makes one call, with the document under a header of its
own; any other file makes none. -/
inductive Hands (around : Surroundings σ) (agent : AgentSettings) :
    List Slot → σ → Nat → List (Call × Reply) → Prop where
  | done {state : σ} {draws : Nat} : Hands around agent [] state draws []
  | handed {slot : Slot} {slots : List Slot} {state : σ} {draws : Nat} {calls : List (Call × Reply)}
      {text : String} {parcel : Parcel} {context : Context}
      (held : (around.storage state).readText slot.path = .ok text)
      (spelled : Parcel.ofText slot.delivery text = .ok parcel)
      (bears : context.Bears agent (around.draw draws))
      (onward : Hands around agent slots
        (around.respond (parcel.stamped context).call state).state (draws + 1) calls) :
      Hands around agent (slot :: slots) state draws
        (((parcel.stamped context).call,
          (around.respond (parcel.stamped context).call state).reply) :: calls)
  | passed {slot : Slot} {slots : List Slot} {state : σ} {draws : Nat} {calls : List (Call × Reply)}
      (lacks : ∀ text, (around.storage state).readText slot.path = .ok text →
        ∀ parcel, Parcel.ofText slot.delivery text ≠ .ok parcel)
      (onward : Hands around agent slots state draws calls) :
      Hands around agent (slot :: slots) state draws calls

/-- Attempts hand over what their files hold. -/
theorem hands_attempts (slots : List Slot) (state : σ) (draws : Nat) :
    Hands around feeder.settings.agent slots state draws
      (exchanges (feeder.attempts around slots ⟨state, draws⟩).1) := by
  induction slots generalizing state draws with
  | nil => exact .done
  | cons slot slots ih =>
    cases prepared : slot.delivery.prepare (around.storage state) slot.path
        (feeder.settings.agent.context (around.draw draws)) with
    | error fault =>
      have attempted : feeder.attempt around slot ⟨state, draws⟩ =
          (.unloaded fault, ⟨state, draws⟩) := by
        simp only [attempt, prepared]
      simp only [attempts, attempted, exchanges_cons]
      refine .passed (fun text held parcel spelled => ?_) (ih state draws)
      have called : Except.error fault = .ok _ :=
        prepared.symm.trans (Delivery.prepare_eq_ok_iff.mpr ⟨text, parcel, held, spelled, rfl⟩)
      cases called
    | ok call =>
      have attempted : feeder.attempt around slot ⟨state, draws⟩ =
          (.called call (around.respond call state),
            ⟨(around.respond call state).state, draws + 1⟩) := by
        simp only [attempt, prepared]
      simp only [attempts, attempted, exchanges_cons]
      obtain ⟨text, parcel, held, spelled, rfl⟩ := Delivery.prepare_eq_ok_iff.mp prepared
      exact .handed held spelled (AgentSettings.bears_context _ _) (ih _ _)

namespace Hands

variable {agent : AgentSettings} {slots : List Slot} {state : σ} {draws : Nat}
  {calls : List (Call × Reply)}

/-- A call that is handed over carries the document of a file as it is at that moment, with a draw
for each call before it. -/
theorem exists_slot (hands : Hands around agent slots state draws calls)
    {before : List (Call × Reply)} {call : Call} {reply : Reply}
    (made : before ++ [(call, reply)] <+: calls) :
    ∃ slot ∈ slots, ∃ text parcel context,
      (around.storage (around.after state before)).readText slot.path = .ok text ∧
      Parcel.ofText slot.delivery text = .ok parcel ∧
      context.Bears agent (around.draw (draws + before.length)) ∧
      call = (parcel.stamped context).call := by
  induction hands generalizing before with
  | done => simp at made
  | handed held spelled bears onward ih =>
    cases before with
    | nil =>
      obtain ⟨same, -⟩ := List.cons_prefix_cons.mp made
      obtain ⟨rfl, -⟩ := Prod.mk.inj same
      exact ⟨_, List.mem_cons_self, _, _, _, held, spelled, bears, rfl⟩
    | cons head before =>
      obtain ⟨rfl, later⟩ := List.cons_prefix_cons.mp made
      obtain ⟨slot, member, found⟩ := ih later
      refine ⟨slot, List.mem_cons_of_mem _ member, ?_⟩
      rw [List.length_cons, Nat.add_comm before.length 1, ← Nat.add_assoc]
      exact found
  | passed lacks onward ih =>
    obtain ⟨slot, member, found⟩ := ih made
    exact ⟨slot, List.mem_cons_of_mem _ member, found⟩

/-- The calls that are handed over take one draw after the other. -/
theorem forall₂_draws (hands : Hands around agent slots state draws calls) :
    List.Forall₂ (fun exchange index => ∃ parcel context,
      Context.Bears context agent (around.draw index) ∧
        exchange.1 = (Parcel.stamped context parcel).call)
      calls (List.range' draws calls.length) := by
  induction hands with
  | done => exact .nil
  | handed held spelled bears onward ih => exact .cons ⟨_, _, bears, rfl⟩ ih
  | passed lacks onward ih => exact ih

/-- Nothing but deliveries is handed over. -/
private theorem deliveries_of_prefix (hands : Hands around agent slots state draws calls)
    {before : List (Call × Reply)} (within : before <+: calls) : deliveries before = before := by
  refine List.filter_eq_self.mpr ?_
  rintro ⟨call, reply⟩ member
  obtain ⟨earlier, later, rfl⟩ := List.mem_iff_append.mp member
  have first : earlier ++ [(call, reply)] <+: earlier ++ (call, reply) :: later :=
    ⟨later, by simp⟩
  obtain ⟨slot, -, text, parcel, context, -, spelled, -, rfl⟩ :=
    hands.exists_slot (first.trans within)
  have own := Parcel.operation_call spelled context
  cases delivery : slot.delivery <;> simp [own, delivery, Delivery.operation]

/-- The deliveries among the calls of a run are those that it hands over. -/
theorem deliveries_between (hands : Hands around agent slots state draws calls)
    (feeder : Feeder) (opened closed : Reply) :
    deliveries ((feeder.opening, opened) :: (calls ++ [(.disconnect, closed)])) = calls := by
  have apart : deliveries ((feeder.opening, opened) :: (calls ++ [(.disconnect, closed)])) =
      deliveries [(feeder.opening, opened)] ++ (deliveries calls ++
        deliveries [(.disconnect, closed)]) := by
    simp only [deliveries, ← List.filter_append, List.singleton_append]
  rw [apart, hands.deliveries_of_prefix (List.prefix_refl calls)]
  exact List.append_nil _

end Hands

/-- The calls of a run: none, the first one alone, or what is handed over between the first one and
the last. -/
theorem calls_cases (around : Surroundings σ) (feeder : Feeder) (shutdown : Option Nat) (start : σ) :
    let calls := ((feeder.run around shutdown).run (.start start)).2.calls
    let opened := feeder.opened around start
    calls = [] ∨ calls = [(feeder.opening, opened.reply)] ∨
      ∃ cycles handed closed,
        Hands around feeder.settings.agent (feeder.schedule 0 cycles) opened.state 0 handed ∧
        calls = (feeder.opening, opened.reply) :: (handed ++ [(.disconnect, closed)]) := by
  intro calls opened
  cases valid : feeder.settings.validate with
  | error fault =>
    have ran := feeder.run_of_invalid around shutdown start valid
    exact .inl (congrArg (·.2.calls) ran)
  | ok =>
    cases result : opened.reply.result with
    | error fault =>
      exact .inr (.inl (feeder.run_of_unconnected around shutdown start valid result).2)
    | ok text =>
      have answered := Reply.answered_of_result result
      cases found : Extent.of? feeder.limit shutdown with
      | none => exact .inr (.inl (feeder.calls_of_endless around shutdown start valid answered found))
      | some extent =>
        obtain ⟨-, made, -⟩ := feeder.run_of_extent around shutdown start valid answered found
        rw [← answered] at made
        exact .inr (.inr ⟨_, _, _, hands_attempts _ _ _, made⟩)

private theorem operation_ne_connect (delivery : Delivery) : delivery.operation ≠ .connect := by
  cases delivery <;> exact Operation.noConfusion

private theorem operation_ne_disconnect (delivery : Delivery) :
    delivery.operation ≠ .disconnect := by
  cases delivery <;> exact Operation.noConfusion

/-- The feeder hands over the document that its file holds at that moment, under a header of its own
and with a draw for each delivery before it. -/
theorem exists_parcel_of_prefix (shutdown : Option Nat) (start : σ) {before : List (Call × Reply)}
    {call : Call} {reply : Reply} {delivery : Delivery}
    (made : before ++ [(call, reply)] <+:
      ((feeder.run around shutdown).run (.start start)).2.calls)
    (delivers : call.operation = delivery.operation) :
    ∃ path text parcel context, feeder.file? delivery = some path ∧
      (around.storage (around.after start before)).readText path = .ok text ∧
      Parcel.ofText delivery text = .ok parcel ∧
      context.Bears feeder.settings.agent (around.draw (deliveries before).length) ∧
      call = (parcel.stamped context).call := by
  have notOpening {rest : List (Call × Reply)} {opened : Reply}
      (first : [(call, reply)] <+: (feeder.opening, opened) :: rest) : False := by
    obtain ⟨same, -⟩ := List.cons_prefix_cons.mp first
    obtain ⟨rfl, -⟩ := Prod.mk.inj same
    exact operation_ne_connect delivery delivers.symm
  rcases calls_cases around feeder shutdown start with
    none | one | ⟨cycles, handed, closed, hands, calls⟩
  · rw [none] at made
    simp at made
  · rw [one] at made
    cases before with
    | nil => exact (notOpening made).elim
    | cons head before =>
      obtain ⟨-, onward⟩ := List.cons_prefix_cons.mp made
      simp at onward
  · rw [calls] at made
    cases before with
    | nil => exact (notOpening made).elim
    | cons head before =>
      obtain ⟨rfl, onward⟩ := List.cons_prefix_cons.mp made
      rcases List.prefix_concat_iff.mp onward with whole | within
      · obtain ⟨-, same⟩ := List.append_inj' whole rfl
        obtain ⟨rfl, -⟩ := Prod.mk.inj (List.singleton_inj.mp same)
        exact (operation_ne_disconnect delivery delivers.symm).elim
      · obtain ⟨slot, member, text, parcel, context, held, spelled, bears, rfl⟩ :=
          hands.exists_slot within
        have same : slot.delivery = delivery :=
          Delivery.operation_inj.mp ((Parcel.operation_call spelled context).symm.trans delivers)
        have earlier : deliveries before = before :=
          hands.deliveries_of_prefix ((List.prefix_append before _).trans within)
        have counted : deliveries ((feeder.opening, (feeder.opened around start).reply) :: before) =
            before := by
          rw [← earlier]
          simp [deliveries, opening, Call.operation]
        subst same
        rw [Nat.zero_add] at bears
        rw [counted]
        exact ⟨slot.path, text, parcel, context, file?_of_mem_schedule member, held, spelled, bears,
          rfl⟩

/-- The deliveries of a run take one draw after the other, and none twice. -/
theorem forall₂_draws_run (shutdown : Option Nat) (start : σ) :
    let calls := deliveries ((feeder.run around shutdown).run (.start start)).2.calls
    List.Forall₂ (fun exchange index => ∃ parcel context,
      Context.Bears context feeder.settings.agent (around.draw index) ∧
        exchange.1 = (Parcel.stamped context parcel).call)
      calls (List.range calls.length) := by
  intro calls
  rcases calls_cases around feeder shutdown start with
    none | one | ⟨cycles, handed, closed, hands, made⟩
  · rw [show calls = [] from congrArg deliveries none]
    exact .nil
  · rw [show calls = [] from congrArg deliveries one]
    exact .nil
  · have delivered : calls = handed :=
      (congrArg deliveries made).trans (hands.deliveries_between feeder _ closed)
    rw [delivered, List.range_eq_range']
    exact hands.forall₂_draws

/-- A run that is connected hands over what its loop makes due. -/
theorem exists_hands_of_course {shutdown : Option Nat} {start : σ}
    (fit : feeder.settings.Fit) {text : String}
    (answered : (feeder.opened around start).reply = .answered text) {beats : List Beat}
    {interrupted : Bool} (course : Course feeder.limit shutdown 0 beats interrupted) :
    let opened := feeder.opened around start
    ∃ calls closed, ((feeder.run around shutdown).run (.start start)).2.calls =
        (feeder.opening, opened.reply) :: (calls ++ [(.disconnect, closed)]) ∧
      Hands around feeder.settings.agent (feeder.due beats) opened.state 0 calls := by
  have valid := Settings.validate_eq_ok_iff.mpr fit
  obtain ⟨-, calls, -⟩ := feeder.run_of_course around shutdown start valid answered course
  exact ⟨_, _, calls, hands_attempts _ _ _⟩

/-- The command that makes a delivery by hand. -/
def Delivery.command (delivery : Delivery) (file : String) : Command :=
  match delivery with
  | .inventory => .syncInventory file
  | .metrics => .sendMetrics file

end Feeder

namespace Command

/-- The command line stamps what nobody has stamped. -/
def handed (settings : Settings) (draw : Draw) (parcel : Parcel) : Parcel :=
  match parcel.context? with
  | some _ => parcel
  | none => parcel.stamped (settings.agent.context draw)

private theorem stamped_getD (settings : Settings) (draw : Draw) (parcel : Parcel) :
    parcel.stamped (parcel.context?.getD (settings.agent.context draw)) =
      handed settings draw parcel := by
  unfold handed
  split
  · rename_i context marked
    rw [marked]
    exact Parcel.stamped_self marked
  · rename_i unmarked
    rw [unmarked]
    rfl

theorem bare_handed (settings : Settings) (draw : Draw) (parcel : Parcel) :
    (handed settings draw parcel).bare = parcel.bare := by
  rw [← stamped_getD, Parcel.bare_stamped]

/-- The errand of a delivery by hand is its document. -/
theorem asks_handed {settings : Settings} {storage : Storage} {draw : Draw}
    {delivery : Delivery} {file text : String} {parcel : Parcel}
    (held : storage.readText file = .ok text) (spelled : Parcel.ofText delivery text = .ok parcel) :
    Asks settings storage draw (delivery.command file)
      ⟨(handed settings draw parcel).call, fun _ => .ok parcel.receipt⟩ := by
  rw [← stamped_getD]
  cases delivery with
  | inventory =>
    obtain ⟨content, decoded, rfl⟩ := map_eq_ok_iff.mp spelled
    exact .synchronize held decoded
  | metrics =>
    obtain ⟨content, decoded, rfl⟩ := map_eq_ok_iff.mp spelled
    exact .send held decoded

/-- The command line hands over the document that its file holds, within a session of its own, and
tells how much there is of it. -/
theorem execute_delivery {around : Surroundings σ} {settings : Settings} (outlet : Outlet)
    {delivery : Delivery} {file text greeting : String} {parcel : Parcel} {start : σ}
    (answered : (around.respond (opening settings) start).reply = .answered greeting)
    (held : (around.storage (around.respond (opening settings) start).state).readText file =
      .ok text)
    (spelled : Parcel.ofText delivery text = .ok parcel) :
    let finished := (execute around settings outlet (delivery.command file)).run (.start start)
    let opened := around.respond (opening settings) start
    let taken := around.respond (handed settings (around.draw 0) parcel).call opened.state
    finished.2.calls = [(opening settings, opened.reply),
        ((handed settings (around.draw 0) parcel).call, taken.reply),
        (.disconnect, (around.respond .disconnect taken.state).reply)] ∧
      Told outlet (taken.reply.result.map fun _ => parcel.receipt) finished.1 := by
  intro finished opened taken
  have needs : (delivery.command file).needsSession = true := by cases delivery <;> rfl
  have asked : Asks settings (around.storage opened.state) (around.draw 0) (delivery.command file)
      _ := asks_handed held spelled
  rcases execute_opened around settings outlet needs answered with
    ⟨fault, lacks, -⟩ | ⟨errand, asks, calls, told⟩
  · exact absurd lacks (asked.not_lacks fault)
  · obtain rfl := asked.unique asks
    have came : (taken.reply.result.bind fun _ => .ok parcel.receipt) =
        taken.reply.result.map fun _ => parcel.receipt := by
      cases taken.reply.result <;> rfl
    exact ⟨calls, came ▸ told⟩

end Command

/-- Both ways out hand over the document of a file with nothing changed but its header. The feeder
hands over whatever is due and held, puts a header on every document, and draws anew for each; the
command line puts a header on a document that has none. -/
theorem hands_over {τ : Type} (around : Surroundings σ) (feeder : Feeder) (shutdown : Option Nat)
    (start : σ) (other : Surroundings τ) (settings : Settings) (outlet : Outlet) (outset : τ) :
    let fed := ((feeder.run around shutdown).run (.start start)).2.calls
    let hailed := feeder.opened around start
    let opened := other.respond (Command.opening settings) outset
    (feeder.settings.Fit → ∀ greeting, hailed.reply = .answered greeting →
      ∀ beats interrupted, Course feeder.limit shutdown 0 beats interrupted →
        ∃ calls closed,
          fed = (feeder.opening, hailed.reply) :: (calls ++ [(.disconnect, closed)]) ∧
          Feeder.Hands around feeder.settings.agent (feeder.due beats) hailed.state 0 calls) ∧
    (∀ before call reply delivery, before ++ [(call, reply)] <+: fed →
      call.operation = Delivery.operation delivery →
        ∃ path text parcel context, feeder.file? delivery = some path ∧
          (around.storage (around.after start before)).readText path = .ok text ∧
          Parcel.ofText delivery text = .ok parcel ∧
          context.Bears feeder.settings.agent (around.draw (deliveries before).length) ∧
          call = (parcel.stamped context).call) ∧
    (∃ indices : List Nat, indices.Nodup ∧
      List.Forall₂ (fun exchange index => ∃ parcel context,
        Context.Bears context feeder.settings.agent (around.draw index) ∧
          exchange.1 = (Parcel.stamped context parcel).call) (deliveries fed) indices) ∧
    (∀ greeting delivery file text parcel, opened.reply = .answered greeting →
      (other.storage opened.state).readText file = .ok text →
      Parcel.ofText delivery text = .ok parcel →
        let shot := (Command.execute other settings outlet (delivery.command file)).run
          (.start outset)
        ∃ handed,
          (∀ context, parcel.context? = some context → handed = parcel) ∧
          (parcel.context? = none → ∃ context, context.Bears settings.agent (other.draw 0) ∧
            handed = parcel.stamped context) ∧
          let taken := other.respond handed.call opened.state
          shot.2.calls = [(Command.opening settings, opened.reply), (handed.call, taken.reply),
            (.disconnect, (other.respond .disconnect taken.state).reply)] ∧
          Command.Told outlet (taken.reply.result.map fun _ => parcel.receipt) shot.1) ∧
    (∀ before call reply delivery path file text greeting, before ++ [(call, reply)] <+: fed →
      call.operation = Delivery.operation delivery → feeder.file? delivery = some path →
      (around.storage (around.after start before)).readText path = .ok text →
      opened.reply = .answered greeting →
      (other.storage opened.state).readText file = .ok text →
        let shot := (Command.execute other settings outlet (delivery.command file)).run
          (.start outset)
        ∃ sent handed, call = Parcel.call sent ∧
          shot.2.calls.map Prod.fst =
            [Command.opening settings, Parcel.call handed, .disconnect] ∧
          sent.bare = handed.bare) := by
  intro fed hailed opened
  refine ⟨?_, ?_, ?_, ?_, ?_⟩
  · intro fit greeting answered beats interrupted course
    exact Feeder.exists_hands_of_course fit answered course
  · intro before call reply delivery made delivers
    exact Feeder.exists_parcel_of_prefix shutdown start made delivers
  · exact ⟨_, List.nodup_range, Feeder.forall₂_draws_run shutdown start⟩
  · intro greeting delivery file text parcel answered held spelled shot
    refine ⟨Command.handed settings (other.draw 0) parcel, ?_, ?_,
      Command.execute_delivery _ answered held spelled⟩
    · intro context marked
      simp only [Command.handed, marked]
    · intro unmarked
      exact ⟨_, AgentSettings.bears_context _ _, by simp only [Command.handed, unmarked]⟩
  · intro before call reply delivery path file text greeting made delivers given held answered same
      shot
    obtain ⟨found, read, parcel, context, located, reads, spelled, -, rfl⟩ :=
      Feeder.exists_parcel_of_prefix shutdown start made delivers
    obtain rfl : path = found := Option.some.inj (given.symm.trans located)
    obtain rfl : text = read := Except.ok.inj (held.symm.trans reads)
    obtain ⟨calls, -⟩ := Command.execute_delivery outlet answered same spelled
    refine ⟨_, Command.handed settings (other.draw 0) parcel, rfl, ?_, ?_⟩
    · rw [show shot.2.calls = _ from calls]
      rfl
    · rw [Parcel.bare_stamped, Command.bare_handed]

open Feeder (shortRun answering Hands)

section ShortRun

variable {cycle draws : Nat} {slots : List Feeder.Slot} {state : StandIn}
  {calls : List (Call × Reply)}

/-- The inventory of the short run is there, and empty. -/
private theorem exists_of_hands_inventory
    (hands : Hands answering shortRun.settings.agent
      (⟨cycle, .inventory, "inventory.json"⟩ :: slots) state draws calls) :
    ∃ context state reply rest,
      calls = (((Parcel.inventory ⟨none, [], []⟩).stamped context).call, reply) :: rest ∧
      context.Bears shortRun.settings.agent (answering.draw draws) ∧
      Hands answering shortRun.settings.agent slots state (draws + 1) rest := by
  cases hands with
  | handed held spelled bears onward =>
    obtain rfl := Except.ok.inj held
    obtain rfl := Except.ok.inj spelled
    exact ⟨_, _, _, _, rfl, bears, onward⟩
  | passed lacks onward => exact absurd rfl (lacks _ rfl (.inventory ⟨none, [], []⟩))

/-- The metrics of the short run are not there. -/
private theorem hands_of_hands_metrics
    (hands : Hands answering shortRun.settings.agent
      (⟨cycle, .metrics, "metrics.json"⟩ :: slots) state draws calls) :
    Hands answering shortRun.settings.agent slots state draws calls := by
  cases hands with
  | handed held spelled bears onward => cases held
  | passed lacks onward => exact onward

end ShortRun

/-- A run over an empty inventory hands it over in the first cycle and in the third, under two headers;
a delivery by hand says how little there is. -/
theorem hands_over_shortRun :
    let fed := ((shortRun.run answering none).run (.start .fresh)).2.calls
    let shot := (Command.execute answering shortRun.settings .unlimited
      (.syncInventory "inventory.json")).run (.start .fresh)
    let nothing := Parcel.inventory ⟨none, [], []⟩
    (∃ first second,
      fed.map Prod.fst = [shortRun.opening, (nothing.stamped first).call,
        (nothing.stamped second).call, .disconnect] ∧
      first.Bears shortRun.settings.agent (answering.draw 0) ∧
      second.Bears shortRun.settings.agent (answering.draw 1) ∧
      first.traceToken ≠ second.traceToken) ∧
    shot.1 = (.ok (),
      Outlet.unlimited.grown (Outlet.line "synchronized 0 resource(s), 0 group(s)")) := by
  intro fed shot nothing
  obtain ⟨feeds, -, -, shoots, -⟩ := hands_over answering shortRun none .fresh answering
    shortRun.settings .unlimited .fresh
  have fit : shortRun.settings.Fit := Settings.validate_eq_ok_iff.mp rfl
  obtain ⟨calls, closed, made, hands⟩ := feeds fit "" rfl _ _ Feeder.course_shortRun
  obtain ⟨first, _, _, _, rfl, bears, onward⟩ := exists_of_hands_inventory hands
  have later := hands_of_hands_metrics (hands_of_hands_metrics onward)
  obtain ⟨second, _, _, _, rfl, carries, onward⟩ := exists_of_hands_inventory later
  have ended := hands_of_hands_metrics onward
  obtain ⟨handed, -, headed, -, told⟩ := shoots "" .inventory "inventory.json" _ nothing rfl rfl rfl
  obtain ⟨header, -, rfl⟩ := headed rfl
  refine ⟨⟨first, second, ?_, bears, carries, ?_⟩, ?_⟩
  · cases ended
    rw [show fed = _ from made]
    rfl
  · rw [bears.token, carries.token]
    decide
  · exact told.written _ rfl (Outlet.takes_of_unlimited rfl _)

end MonitorFeed
