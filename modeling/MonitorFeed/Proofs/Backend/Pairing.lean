import MonitorFeed.Proofs.Request
import Mathlib.Data.List.Forall2

/-!
Two runs side by side, which open their sessions with two accounts of one user. Over surroundings that
answer both alike they stay in step: what the parts of a run come to is the same, and of their logs
only what the surroundings tell can differ.
-/

namespace MonitorFeed

/-- Two calls are the same, or they open sessions of two accounts. -/
inductive Call.Twins (one other : Credentials) : Call → Call → Prop where
  | same (call : Call) : Twins one other call call
  | connect :
    Twins one other (.connect (Document.encode one)) (.connect (Document.encode other))

/-- Two requests are the same, or they open sessions of two accounts. -/
inductive Request.Twins (one other : Credentials) : Request → Request → Prop where
  | same (request : Request) : Twins one other request request
  | connect : Twins one other (.connect one) (.connect other)

theorem Call.Twins.operation_eq {one other : Credentials} {call twin : Call}
    (twins : Call.Twins one other call twin) : call.operation = twin.operation := by
  cases twins with
  | same => rfl
  | connect => simp only [Call.operation]

/-- Two accounts of one user, with the states in which surroundings answer alike, and the events that
may stand for each other in two logs. -/
structure Pairing (σ τ : Type) where
  one : Credentials
  other : Credentials
  same : σ → τ → Prop
  told : Event → Event → Prop
  user_eq : one.user = other.user
  told_self : ∀ event, told event event

namespace Pairing

variable {σ τ α β : Type} {pairing : Pairing σ τ}

/-- Two logs, event by event. -/
abbrev Told (pairing : Pairing σ τ) : List Event → List Event → Prop :=
  List.Forall₂ pairing.told

/-- Surroundings that answer two runs alike. -/
structure Indistinct (pairing : Pairing σ τ) (left : Surroundings σ) (right : Surroundings τ) :
    Prop where
  respond : ∀ {call twin s t}, Call.Twins pairing.one pairing.other call twin → pairing.same s t →
    (left.respond call s).reply = (right.respond twin t).reply ∧
      pairing.Told (left.respond call s).events (right.respond twin t).events ∧
      pairing.same (left.respond call s).state (right.respond twin t).state
  storage_eq : ∀ {s t}, pairing.same s t → left.storage s = right.storage t
  draw_eq : left.draw = right.draw

/-- How far two runs have come that are in step. -/
structure Abreast (pairing : Pairing σ τ) (p : Progress σ) (q : Progress τ) : Prop where
  state : pairing.same p.state q.state
  log : pairing.Told p.log q.log
  draws_eq : p.draws = q.draws

/-- Parts of two runs that come to the same and keep the runs in step. -/
def InStep (pairing : Pairing σ τ) (l : Session σ α) (r : Session τ α) : Prop :=
  ∀ (p : Progress σ) (q : Progress τ), pairing.Abreast p q →
    (l.run p).1 = (r.run q).1 ∧ pairing.Abreast (l.run p).2 (r.run q).2

/-- Parts of two runs that come to the same and leave related logs, wherever the runs have come abreast
of each other. -/
def Coincide (pairing : Pairing σ τ) (logs : List Event → List Event → Prop) (l : Session σ α)
    (r : Session τ α) : Prop :=
  ∀ (p : Progress σ) (q : Progress τ), pairing.Abreast p q →
    (l.run p).1 = (r.run q).1 ∧ logs (l.run p).2.log (r.run q).2.log

theorem InStep.coincide {l : Session σ α} {r : Session τ α} (inStep : pairing.InStep l r)
    {logs : List Event → List Event → Prop}
    (related : ∀ {events others}, pairing.Told events others → logs events others) :
    pairing.Coincide logs l r := by
  intro p q abreast
  obtain ⟨same, abreast⟩ := inStep p q abreast
  exact ⟨same, related abreast.log⟩

theorem Abreast.start {s : σ} {t : τ} (same : pairing.same s t) :
    pairing.Abreast (.start s) (.start t) :=
  ⟨same, .nil, rfl⟩

namespace InStep

theorem pure (value : α) : pairing.InStep (pure value) (pure value) :=
  fun _ _ abreast => ⟨rfl, abreast⟩

theorem bind {l : Session σ α} {r : Session τ α} {next : α → Session σ β}
    {after : α → Session τ β} (first : pairing.InStep l r)
    (rest : ∀ value, pairing.InStep (next value) (after value)) :
    pairing.InStep (l >>= next) (r >>= after) := by
  intro p q abreast
  obtain ⟨same, abreast⟩ := first p q abreast
  -- Both runs go on with one value, so the rest is chosen alike.
  have continued := rest (l.run p).1 _ _ abreast
  have step : (r >>= after).run q = (after (l.run p).1).run (r.run q).2 := by
    rw [same]
    rfl
  rw [step]
  exact continued

/-- Events that stand for each other. -/
theorem log {event other : Event} (told : pairing.told event other) :
    pairing.InStep (Session.log event) (Session.log other) :=
  fun _ _ abreast =>
    ⟨rfl, abreast.state, List.rel_append abreast.log (.cons told .nil), abreast.draws_eq⟩

theorem note (event : Event) : pairing.InStep (Session.log event) (Session.log event) :=
  log (pairing.told_self event)

section Around

variable {left : Surroundings σ} {right : Surroundings τ} (around : pairing.Indistinct left right)

include around

theorem call {call twin : Call} (twins : Call.Twins pairing.one pairing.other call twin) :
    pairing.InStep (Session.call left call) (Session.call right twin) := by
  intro p q abreast
  obtain ⟨reply, events, state⟩ := around.respond twins abreast.state
  exact ⟨reply, state, List.rel_append abreast.log events, abreast.draws_eq⟩

theorem files : pairing.InStep (Session.files left) (Session.files right) :=
  fun _ _ abreast => ⟨around.storage_eq abreast.state, abreast⟩

theorem draw : pairing.InStep (Session.draw left) (Session.draw right) := by
  intro p q abreast
  have drawn : left.draw p.draws = right.draw q.draws := by
    rw [around.draw_eq, abreast.draws_eq]
  exact ⟨drawn, abreast.state, abreast.log, congrArg (· + 1) abreast.draws_eq⟩

end Around

end InStep

end Pairing

namespace Client

variable {σ τ α : Type} {pairing : Pairing σ τ} {left : Surroundings σ} {right : Surroundings τ}

theorem inStep_logged (operation : Operation) (result : Except ClientError α) :
    pairing.InStep (logged operation result) (logged operation result) := by
  cases result with
  | ok value => exact .pure _
  | error fault => exact .bind (.note _) fun _ => .pure _

theorem inStep_understand (operation : Operation) (read : Except Json.Error α) :
    pairing.InStep (understand operation read) (understand operation read) :=
  inStep_logged operation _

variable (around : pairing.Indistinct left right)

include around

theorem inStep_ask {call twin : Call} (twins : Call.Twins pairing.one pairing.other call twin) :
    pairing.InStep (ask left call) (ask right twin) := by
  refine .bind (.call around twins) fun reply => ?_
  cases reply with
  | answered text => exact .pure _
  | failed fault =>
    rw [twins.operation_eq]
    exact inStep_logged _ _
  | crashed report => exact .pure _

theorem inStep_request {call twin : Call} (twins : Call.Twins pairing.one pairing.other call twin) :
    pairing.InStep (request left call) (request right twin) :=
  .bind (inStep_ask around twins) fun _ => .pure _

/-- What is told of an account that connects is its user. -/
theorem inStep_connect :
    pairing.InStep (connect left pairing.one) (connect right pairing.other) := by
  refine .bind (.log ?_) fun _ => inStep_request around .connect
  rw [pairing.user_eq]
  exact pairing.told_self _

theorem inStep_send (report : Report) :
    pairing.InStep (send left report) (send right report) :=
  .bind (.note _) fun _ => inStep_request around (.same _)

theorem inStep_synchronize (inventory : Inventory) :
    pairing.InStep (synchronize left inventory) (synchronize right inventory) :=
  .bind (.note _) fun _ => inStep_request around (.same _)

theorem inStep_disconnect : pairing.InStep (disconnect left) (disconnect right) :=
  .bind (.note _) fun _ => inStep_request around (.same _)

theorem inStep_close (source : Source) :
    pairing.InStep (close left source) (close right source) := by
  refine .bind (inStep_disconnect around) fun result => ?_
  cases result with
  | ok _ => exact .pure _
  | error fault => exact .note _

theorem inStep_listMetrics : pairing.InStep (listMetrics left) (listMetrics right) := by
  refine .bind (inStep_ask around (.same _)) fun answer => ?_
  cases answer with
  | error fault => exact .pure _
  | ok text =>
    refine .bind (inStep_understand _ _) fun read => ?_
    cases read with
    | error fault => exact .pure _
    | ok metrics => exact .bind (.note _) fun _ => .pure _

theorem inStep_test (resource : Resource) :
    pairing.InStep (test left resource) (test right resource) := by
  refine .bind (inStep_ask around (.same _)) fun answer => ?_
  cases answer with
  | error fault => exact .pure _
  | ok text => exact inStep_understand _ _

end Client

namespace Request

variable {σ τ : Type} {pairing : Pairing σ τ} {left : Surroundings σ} {right : Surroundings τ}
  (around : pairing.Indistinct left right)

include around

theorem inStep_make {request twin : Request} (twins : Twins pairing.one pairing.other request twin) :
    pairing.InStep (request.make left) (twin.make right) := by
  cases twins with
  | connect => exact .bind (Client.inStep_connect around) fun _ => .pure _
  | same =>
    cases request with
    | connect account =>
      exact .bind (.bind (.note _) fun _ => Client.inStep_request around (.same _)) fun _ => .pure _
    | disconnect => exact .bind (Client.inStep_disconnect around) fun _ => .pure _
    | send report => exact .bind (Client.inStep_send around report) fun _ => .pure _
    | list => exact .bind (Client.inStep_listMetrics around) fun _ => .pure _
    | synchronize inventory =>
      exact .bind (Client.inStep_synchronize around inventory) fun _ => .pure _
    | test resource => exact .bind (Client.inStep_test around resource) fun _ => .pure _

theorem inStep_makeAll {requests twins : List Request}
    (each : List.Forall₂ (Twins pairing.one pairing.other) requests twins) :
    pairing.InStep (makeAll left requests) (makeAll right twins) := by
  induction each with
  | nil => exact .pure _
  | cons head _ ih => exact .bind (inStep_make around head) fun _ => .bind ih fun _ => .pure _

end Request

end MonitorFeed
