import MonitorFeed.Feeder.Run
import MonitorFeed.Proofs.Client

/-!
The deliveries that a feeder attempts, apart from how it counts and logs them. Each is due in a cycle,
rests on a file, and makes one call if the file holds its payload.
-/

namespace MonitorFeed.Feeder

variable {σ : Type}

/-- What a feeder delivers. -/
inductive Delivery where
  | inventory
  | metrics
deriving DecidableEq

namespace Delivery

/-- The call that delivers the payload in a file, stamped. -/
def prepare (delivery : Delivery) (storage : Storage) (path : String) (context : Context) :
    Except ClientError Call :=
  match delivery with
  | .inventory => (Document.load (α := Inventory) storage path).map fun inventory =>
    .synchronize (Document.encode (inventory.withContext context))
  | .metrics => (Document.load (α := Report) storage path).map fun report =>
    .send (Document.encode (report.withContext context))

/-- What is logged about a delivery that fails. -/
def complaint : Delivery → String
  | .inventory => "Failed to synchronize inventory"
  | .metrics => "Failed to send metrics"

/-- The operation that a delivery asks for. -/
def operation : Delivery → Operation
  | .inventory => .synchronize
  | .metrics => .send

theorem operation_inj {delivery other : Delivery} :
    delivery.operation = other.operation ↔ delivery = other := by
  cases delivery <;> cases other <;> simp [operation]

theorem operation_of_prepare {delivery : Delivery} {storage : Storage} {path : String}
    {context : Context} {call : Call}
    (prepared : delivery.prepare storage path context = .ok call) :
    call.operation = delivery.operation := by
  have loads {α : Type} {made : α → Call} {operation : Operation}
      (own : ∀ payload, (made payload).operation = operation) {loaded : Except ClientError α}
      (prepared : loaded.map made = .ok call) : call.operation = operation := by
    cases loaded with
    | error fault => cases prepared
    | ok payload =>
      obtain rfl := Except.ok.inj prepared
      exact own payload
  cases delivery with
  | inventory => exact loads (fun _ => rfl) prepared
  | metrics => exact loads (fun _ => rfl) prepared

end Delivery

/-- A delivery that is due in a cycle, and the file that holds its payload. -/
structure Slot where
  cycle : Nat
  delivery : Delivery
  path : String

/-- The inventory's slot in a cycle, if it has one: it is due in the cycles whose number is a multiple
of how often it is delivered. -/
def inventorySlots (feeder : Feeder) (cycle : Nat) : List Slot :=
  if feeder.settings.feeder.inventoryEvery.toNat ∣ cycle then
    feeder.settings.feeder.inventoryFile.toList.map fun path => ⟨cycle, .inventory, path⟩
  else []

theorem inventoryDue_iff_dvd {feeder : Feeder} {cycle : Nat} :
    feeder.inventoryDue cycle = true ↔ feeder.settings.feeder.inventoryEvery.toNat ∣ cycle := by
  rw [inventoryDue, decide_eq_true_eq, Nat.dvd_iff_mod_eq_zero]

/-- The metrics' slot in a cycle, if they have one. -/
def metricsSlots (feeder : Feeder) (cycle : Nat) : List Slot :=
  feeder.settings.feeder.metricsFile.toList.map fun path => ⟨cycle, .metrics, path⟩

/-- The slots of a cycle, the inventory's first. -/
def slots (feeder : Feeder) (cycle : Nat) : List Slot :=
  feeder.inventorySlots cycle ++ feeder.metricsSlots cycle

/-- The slots of a number of cycles, from a given one on. -/
def schedule (feeder : Feeder) (first count : Nat) : List Slot :=
  (List.range' first count).flatMap feeder.slots

/-- How a delivery comes out: the file holds no payload, or a call is made. -/
inductive Outcome (σ : Type) where
  | unloaded (fault : ClientError)
  | called (call : Call) (response : Response σ)

namespace Outcome

def result : Outcome σ → Except ClientError Unit
  | unloaded fault => .error fault
  | called _ response => response.reply.outcome

/-- The call of a delivery with its reply, if one was made. -/
def exchange? : Outcome σ → Option (Call × Reply)
  | unloaded _ => none
  | called call response => some (call, response.reply)

/-- What the surroundings logged while they answered. -/
def events : Outcome σ → List Event
  | unloaded _ => []
  | called _ response => response.events

end Outcome

/-- What the next delivery depends on: the state of the surroundings, and the number of draws made. -/
structure Point (σ : Type) where
  state : σ
  draws : Nat

/-- Attempts a delivery. -/
def attempt (around : Surroundings σ) (feeder : Feeder) (slot : Slot) (point : Point σ) :
    Outcome σ × Point σ :=
  let context := feeder.settings.agent.context (around.draw point.draws)
  match slot.delivery.prepare (around.storage point.state) slot.path context with
  | .error fault => (.unloaded fault, point)
  | .ok call =>
    let response := around.respond call point.state
    (.called call response, ⟨response.state, point.draws + 1⟩)

/-- A delivery calls its own operation. -/
theorem operation_of_attempt {around : Surroundings σ} {feeder : Feeder} {slot : Slot}
    {point : Point σ} {call : Call} {response : Response σ}
    (called : (feeder.attempt around slot point).1 = .called call response) :
    call.operation = slot.delivery.operation := by
  cases prepared : slot.delivery.prepare (around.storage point.state) slot.path
      (feeder.settings.agent.context (around.draw point.draws)) with
  | error fault =>
    simp only [attempt, prepared] at called
    cases called
  | ok made =>
    simp only [attempt, prepared] at called
    obtain ⟨rfl, -⟩ := Outcome.called.inj called
    exact Delivery.operation_of_prepare prepared

/-- Attempts deliveries one after the other. -/
def attempts (around : Surroundings σ) (feeder : Feeder) :
    List Slot → Point σ → List (Slot × Outcome σ) × Point σ
  | [], point => ([], point)
  | slot :: slots, point =>
    let (outcome, next) := feeder.attempt around slot point
    let (outcomes, last) := attempts around feeder slots next
    ((slot, outcome) :: outcomes, last)

/-- The calls made in attempts, with their replies. -/
def exchanges (outcomes : List (Slot × Outcome σ)) : List (Call × Reply) :=
  outcomes.filterMap (·.2.exchange?)

theorem exchanges_cons (attempt : Slot × Outcome σ) (outcomes : List (Slot × Outcome σ)) :
    exchanges (attempt :: outcomes) = attempt.2.exchange?.toList ++ exchanges outcomes := by
  cases made : attempt.2.exchange? <;> simp [exchanges, made]

theorem attempts_append (around : Surroundings σ) (feeder : Feeder) (earlier later : List Slot)
    (point : Point σ) :
    feeder.attempts around (earlier ++ later) point =
      ((feeder.attempts around earlier point).1 ++
          (feeder.attempts around later (feeder.attempts around earlier point).2).1,
        (feeder.attempts around later (feeder.attempts around earlier point).2).2) := by
  induction earlier generalizing point with
  | nil => rfl
  | cons slot slots ih =>
    simp only [List.cons_append, attempts, ih]

/-- Every slot is attempted once, in order. -/
theorem map_fst_attempts (around : Surroundings σ) (feeder : Feeder) (slots : List Slot)
    (point : Point σ) : (feeder.attempts around slots point).1.map Prod.fst = slots := by
  induction slots generalizing point with
  | nil => rfl
  | cons slot slots ih => simp only [attempts, List.map_cons, ih]

end MonitorFeed.Feeder
