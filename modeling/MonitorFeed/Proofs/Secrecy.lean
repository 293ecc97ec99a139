import MonitorFeed.Command.Program
import MonitorFeed.Library.Scripted
import MonitorFeed.Proofs.Backend.Pairing
import MonitorFeed.Proofs.Feeder.Deliveries
import MonitorFeed.Proofs.Library.Resident
import MonitorFeed.Settings.Describe

/-!
The password is nowhere to be seen. Two runs under settings that differ in nothing but the password
come to the same, write the same and log the same, over everything that answers both alike. Only the
entry of a library tells, at the finest level, how many octets the document of an account has.
-/

namespace MonitorFeed

variable {σ τ : Type} {pairing : Pairing σ τ} {left : Surroundings σ} {right : Surroundings τ}

namespace Settings

/-- The settings with another account. -/
def withAccount (settings : Settings) (account : Credentials) : Settings :=
  { settings with credentials := account }

/-- The settings with another password. -/
def withPassword (settings : Settings) (password : String) : Settings :=
  settings.withAccount { settings.credentials with password := password }

variable (settings : Settings)

/-- Validation looks at the user of an account only. -/
theorem validate_withAccount :
    (settings.withAccount pairing.one).validate = (settings.withAccount pairing.other).validate :=
  congrArg (fun user => (settings.withAccount ⟨user, ""⟩).validate) pairing.user_eq

end Settings

namespace Feeder

/-- The feeder with another account. -/
def withAccount (feeder : Feeder) (account : Credentials) : Feeder :=
  { feeder with settings := feeder.settings.withAccount account }

variable (feeder : Feeder) (account : Credentials)

@[simp] theorem inventoryDue_withAccount (cycle : Nat) :
    (feeder.withAccount account).inventoryDue cycle = feeder.inventoryDue cycle := rfl

@[simp] theorem feeder_withAccount :
    (feeder.withAccount account).settings.feeder = feeder.settings.feeder := rfl

variable (around : pairing.Indistinct left right)

theorem inStep_noteFailure (cycle : Nat) (message : String) (fault : ClientError)
    (stats : FeederStats) :
    pairing.InStep (noteFailure cycle message fault stats) (noteFailure cycle message fault stats) :=
  .bind (.note _) fun _ => .pure _

include around

theorem inStep_sendInventory (path : String) :
    pairing.InStep ((feeder.withAccount pairing.one).sendInventory left path)
      ((feeder.withAccount pairing.other).sendInventory right path) := by
  refine .bind (.files around) fun storage => ?_
  cases Document.load (α := Inventory) storage path with
  | error fault => exact .pure _
  | ok inventory =>
    exact .bind (.draw around) fun draw => .bind (.note _) fun _ =>
      Client.inStep_synchronize around _

theorem inStep_sendMetrics (path : String) :
    pairing.InStep ((feeder.withAccount pairing.one).sendMetrics left path)
      ((feeder.withAccount pairing.other).sendMetrics right path) := by
  refine .bind (.files around) fun storage => ?_
  cases Document.load (α := Report) storage path with
  | error fault => exact .pure _
  | ok report =>
    exact .bind (.draw around) fun draw => .bind (.note _) fun _ => Client.inStep_send around _

theorem inStep_inventoryStep (cycle : Nat) (stats : FeederStats) :
    pairing.InStep ((feeder.withAccount pairing.one).inventoryStep left cycle stats)
      ((feeder.withAccount pairing.other).inventoryStep right cycle stats) := by
  simp only [inventoryStep, inventoryDue_withAccount, feeder_withAccount]
  split
  · refine .bind (inStep_sendInventory feeder around _) fun sent => ?_
    cases sent with
    | ok _ => exact .pure _
    | error fault => exact inStep_noteFailure _ _ _ _
  · exact .pure _

theorem inStep_metricsStep (cycle : Nat) (stats : FeederStats) :
    pairing.InStep ((feeder.withAccount pairing.one).metricsStep left cycle stats)
      ((feeder.withAccount pairing.other).metricsStep right cycle stats) := by
  simp only [metricsStep, feeder_withAccount]
  split
  · refine .bind (inStep_sendMetrics feeder around _) fun sent => ?_
    cases sent with
    | ok _ => exact .pure _
    | error fault => exact inStep_noteFailure _ _ _ _
  · exact .pure _

theorem inStep_cycle (number : Nat) (stats : FeederStats) :
    pairing.InStep ((feeder.withAccount pairing.one).cycle left number stats)
      ((feeder.withAccount pairing.other).cycle right number stats) :=
  .bind (inStep_inventoryStep feeder around _ _) fun _ =>
    .bind (inStep_metricsStep feeder around _ _) fun _ => .pure _

theorem inStep_cycles (count first : Nat) (stats : FeederStats) :
    pairing.InStep ((feeder.withAccount pairing.one).cycles left count first stats)
      ((feeder.withAccount pairing.other).cycles right count first stats) := by
  induction count generalizing first stats with
  | zero => exact .pure _
  | succ count ih => exact .bind (inStep_cycle feeder around _ _) fun stats => ih _ stats

theorem inStep_feed (extent : Extent) :
    pairing.InStep ((feeder.withAccount pairing.one).feed left extent)
      ((feeder.withAccount pairing.other).feed right extent) :=
  .bind (inStep_cycles feeder around _ _ _) fun _ => .bind (.note _) fun _ =>
    .bind (Client.inStep_close around _) fun _ => .bind (.note _) fun _ => .pure _

theorem inStep_run (shutdown : Option Nat) :
    pairing.InStep ((feeder.withAccount pairing.one).run left shutdown)
      ((feeder.withAccount pairing.other).run right shutdown) := by
  have validated : (feeder.withAccount pairing.one).settings.validate =
      (feeder.withAccount pairing.other).settings.validate := feeder.settings.validate_withAccount
  unfold run
  rw [validated]
  cases (feeder.withAccount pairing.other).settings.validate with
  | error fault => exact .pure _
  | ok _ =>
    refine .bind (Client.inStep_connect around) fun connected => ?_
    cases connected with
    | error fault => exact .pure _
    | ok _ =>
      refine .bind (.note _) fun _ => ?_
      simp only [feeder_withAccount]
      cases Extent.of? (feeder.settings.feeder.maxCycles.map (·.toNat)) shutdown with
      | none => exact .pure _
      | some extent => exact .bind (inStep_feed feeder around extent) fun _ => .pure _

end Feeder

namespace Command

variable (around : pairing.Indistinct left right) (settings : Settings) (file : String)

include around

theorem inStep_sendFile :
    pairing.InStep (sendFile left (settings.withAccount pairing.one) file)
      (sendFile right (settings.withAccount pairing.other) file) := by
  have delivered (report : Report) (say : Except ClientError Unit → Except ClientError String) :
      pairing.InStep (do return say (← Client.send left report))
        (do return say (← Client.send right report)) :=
    .bind (Client.inStep_send around report) fun _ => .pure _
  refine .bind (.files around) fun storage => ?_
  cases Document.load (α := Report) storage file with
  | error fault => exact .pure _
  | ok report =>
    dsimp only
    cases report.context with
    | some _ => exact .bind (.pure _) fun report => delivered report _
    | none => exact .bind (.draw around) fun _ => .bind (.pure _) fun report => delivered report _

theorem inStep_syncFile :
    pairing.InStep (syncFile left (settings.withAccount pairing.one) file)
      (syncFile right (settings.withAccount pairing.other) file) := by
  have delivered (inventory : Inventory)
      (say : Except ClientError Unit → Except ClientError String) :
      pairing.InStep (do return say (← Client.synchronize left inventory))
        (do return say (← Client.synchronize right inventory)) :=
    .bind (Client.inStep_synchronize around inventory) fun _ => .pure _
  refine .bind (.files around) fun storage => ?_
  cases Document.load (α := Inventory) storage file with
  | error fault => exact .pure _
  | ok inventory =>
    dsimp only
    cases inventory.context with
    | some _ => exact .bind (.pure _) fun inventory => delivered inventory _
    | none =>
      exact .bind (.draw around) fun _ => .bind (.pure _) fun inventory => delivered inventory _

theorem inStep_testFile : pairing.InStep (testFile left file) (testFile right file) := by
  refine .bind (.files around) fun storage => ?_
  cases Document.load (α := Resource) storage file with
  | error fault => exact .pure _
  | ok resource => exact .bind (Client.inStep_test around resource) fun _ => .pure _

theorem inStep_listAll : pairing.InStep (listAll left) (listAll right) :=
  .bind (Client.inStep_listMetrics around) fun _ => .pure _

theorem inStep_inSession (outlet : Outlet) {work : Session σ (Except ClientError String)}
    {twin : Session τ (Except ClientError String)} (inner : pairing.InStep work twin) :
    pairing.InStep (inSession left (settings.withAccount pairing.one) outlet work)
      (inSession right (settings.withAccount pairing.other) outlet twin) := by
  refine .bind (Client.inStep_connect around) fun connected => ?_
  cases connected with
  | error fault => exact .pure _
  | ok _ => exact .bind inner fun _ => .bind (Client.inStep_close around _) fun _ => .pure _

theorem inStep_execute (outlet : Outlet) (command : Command) :
    pairing.InStep (command.execute left (settings.withAccount pairing.one) outlet)
      (command.execute right (settings.withAccount pairing.other) outlet) := by
  cases command with
  | connect =>
    have user : (settings.withAccount pairing.one).credentials.user =
        (settings.withAccount pairing.other).credentials.user := pairing.user_eq
    unfold execute
    -- What is written on success names the user.
    rw [user]
    exact .bind (Client.inStep_connect around) fun _ => .pure _
  | disconnect => exact .bind (Client.inStep_disconnect around) fun _ => .pure _
  | run => exact .pure _
  | sendMetrics file =>
    exact inStep_inSession around settings outlet (inStep_sendFile around settings file)
  | listMetrics => exact inStep_inSession around settings outlet (inStep_listAll around)
  | syncInventory file =>
    exact inStep_inSession around settings outlet (inStep_syncFile around settings file)
  | testResource file =>
    exact inStep_inSession around settings outlet (inStep_testFile around file)

end Command

namespace Program

variable (around : pairing.Indistinct left right) (settings : Settings)

include around

theorem inStep_runFeeder :
    pairing.InStep (runFeeder left (settings.withAccount pairing.one))
      (runFeeder right (settings.withAccount pairing.other)) := by
  refine .bind (.note _) fun _ =>
    .bind (Feeder.inStep_run ⟨Feeder.defaultName, settings⟩ around none) fun ended => ?_
  cases ended with
  | none => exact .pure _
  | some result =>
    cases result with
    | error fault => exact .pure _
    | ok stats => exact .bind (.note _) fun _ => .pure _

theorem inStep_work (loader : Library.Loader) (command : Command) :
    pairing.InStep (work left loader (settings.withAccount pairing.one) command)
      (work right loader (settings.withAccount pairing.other) command) := by
  refine .bind (.note _) fun _ => ?_
  have path (account : Credentials) :
      (settings.withAccount account).library.path = settings.library.path := rfl
  simp only [path]
  cases Library.load loader settings.library.path with
  | error fault => exact .pure _
  | ok loaded =>
    refine .bind (.note _) fun _ => ?_
    cases command with
    | run => exact .bind (inStep_runFeeder around settings) fun _ => .pure _
    | _ => exact .bind (Command.inStep_execute around settings _ _) fun _ => .pure _

end Program

namespace Library

/-- The entry of a call that opens a session, by the octets of the document of its account. -/
def opening (octets : Nat) : Event :=
  ⟨.trace, .library, "Native call",
    [("operation", .text Operation.connect.symbol), ("bytes", .count octets)]⟩

/-- Two events are the same, or the entries of calls that open sessions of two accounts. -/
inductive Entries (one other : Credentials) : Event → Event → Prop where
  | same (event : Event) : Entries one other event event
  | opening : Entries one other (opening (Document.encode one).utf8ByteSize)
      (opening (Document.encode other).utf8ByteSize)

/-- Functions of two libraries that end alike for two accounts. -/
def Indistinct (one other : Credentials) (same : σ → τ → Prop) (left : Functions σ)
    (right : Functions τ) : Prop :=
  ∀ call twin s t, Call.Twins one other call twin → same s t →
    let exit := left call.operation (octets? call) s
    let likewise := right twin.operation (octets? twin) t
    exit.result = likewise.result ∧ exit.message = likewise.message ∧ same exit.state likewise.state

/-- Two calls that are the same or open sessions are both passed on or both refused. -/
theorem prepare_twins {one other : Credentials} {call twin : Call}
    (twins : Call.Twins one other call twin) :
    (∃ fault, prepare call = .error fault ∧ prepare twin = .error fault) ∨
      prepare call = .ok ⟨call.operation, octets? call, .blank⟩ ∧
        prepare twin = .ok ⟨twin.operation, octets? twin, .blank⟩ := by
  cases twins with
  | same =>
    rcases prepare_cases call with ⟨passed, -⟩ | ⟨refused, -⟩
    · exact .inr ⟨passed, passed⟩
    · exact .inl ⟨_, refused, refused⟩
  | connect =>
    have passed (account : Credentials) : prepare (.connect (Document.encode account)) =
        .ok ⟨.connect, octets? (.connect (Document.encode account)), .blank⟩ :=
      prepare_of_passable fun _ given => Option.some.inj given ▸ passable_encode account
    exact .inr ⟨passed one, passed other⟩

theorem entry_connect (account : Credentials) :
    entry ⟨.connect, octets? (.connect (Document.encode account)), .blank⟩ =
      opening (Document.encode account).utf8ByteSize := by
  rw [opening, ← Text.Utf8.length_encode]
  rfl

theorem entries_twins {one other : Credentials} {call twin : Call}
    (twins : Call.Twins one other call twin) :
    Entries one other (entry ⟨call.operation, octets? call, .blank⟩)
      (entry ⟨twin.operation, octets? twin, .blank⟩) := by
  cases twins with
  | same => exact .same _
  | connect =>
    have opened : Entries one other _ _ := .opening
    rw [← entry_connect, ← entry_connect] at opened
    exact opened

/-- Libraries whose functions end alike answer two runs alike; their entries may differ where sessions
are opened. -/
theorem Indistinct.respond {left : Functions σ} {right : Functions τ}
    (indistinct : Indistinct pairing.one pairing.other pairing.same left right)
    (entries : pairing.told = Entries pairing.one pairing.other)
    {storage : σ → Storage} {stored : τ → Storage}
    (storage_eq : ∀ s t, pairing.same s t → storage s = stored t) (draw : Nat → Draw) :
    pairing.Indistinct ⟨Library.respond left, storage, draw⟩
      ⟨Library.respond right, stored, draw⟩ where
  respond {call twin s t} twins same := by
    rcases prepare_twins twins with ⟨fault, refused, likewise⟩ | ⟨passed, likewise⟩
    · simp only [Library.respond, refused, likewise]
      exact ⟨trivial, .nil, same⟩
    · obtain ⟨result, message, state⟩ := indistinct _ _ _ _ twins same
      simp only [Library.respond, passed, likewise, enter]
      refine ⟨?_, .cons ?_ .nil, state⟩
      · rw [result, message, twins.operation_eq]
      · rw [entries]
        exact entries_twins twins
  storage_eq := storage_eq _ _
  draw_eq := rfl

/-- Where the documents of two accounts have as many octets, entries do not differ. -/
theorem Entries.eq {one other : Credentials}
    (sizes : (Document.encode one).utf8ByteSize = (Document.encode other).utf8ByteSize)
    {event twin : Event} (entries : Entries one other event twin) : event = twin := by
  cases entries with
  | same => rfl
  | opening => rw [sizes]

/-- Scripted libraries that differ at most in what they were given. -/
def Scripted.AnswersLike (library other : Scripted) : Prop :=
  library = { other with received := library.received }

/-- What a scripted library is given to open a session does not count. -/
theorem Scripted.indistinct (one other : Credentials) :
    Indistinct one other AnswersLike functions functions := by
  intro call twin library likewise twins same
  rw [same]
  cases twins with
  | same => exact ⟨rfl, rfl, rfl⟩
  | connect =>
    -- The texts are not to be written out only to be compared.
    generalize Document.encode one = text, Document.encode other = twin
    exact ⟨rfl, rfl, rfl⟩

end Library

namespace StandIn

/-- Stand-ins that differ at most in the calls that they remember. -/
def AnswersLike (double other : StandIn) : Prop :=
  double = { other with calls := double.calls }

/-- To a stand-in all accounts are alike. -/
theorem indistinct {pairing : Pairing StandIn StandIn} (likewise : pairing.same = AnswersLike)
    (files : Storage) (draw : Nat → Draw) :
    pairing.Indistinct ⟨respond, fun _ => files, draw⟩ ⟨respond, fun _ => files, draw⟩ where
  respond {call twin double other} twins same := by
    rw [likewise] at same ⊢
    rw [same]
    cases twins with
    | same => exact ⟨rfl, .nil, rfl⟩
    | connect =>
      generalize Document.encode pairing.one = text, Document.encode pairing.other = twin
      exact ⟨rfl, .nil, rfl⟩
  storage_eq _ := rfl
  draw_eq := rfl

end StandIn

namespace Settings

/-- What is done under two settings comes to the same, and leaves related logs. -/
structure Alike (pairing : Pairing σ τ) (logs : List Event → List Event → Prop)
    (left : Surroundings σ) (right : Surroundings τ) (settings others : Settings) : Prop where
  command : ∀ command outlet,
    pairing.Coincide logs (Command.execute left settings outlet command)
      (Command.execute right others outlet command)
  feeder : ∀ name shutdown,
    pairing.Coincide logs (Feeder.run left ⟨name, settings⟩ shutdown)
      (Feeder.run right ⟨name, others⟩ shutdown)
  cycles : ∀ name count first stats,
    pairing.Coincide logs (Feeder.cycles left ⟨name, settings⟩ count first stats)
      (Feeder.cycles right ⟨name, others⟩ count first stats)
  requests : ∀ {requests twins},
    List.Forall₂ (Request.Twins settings.credentials others.credentials) requests twins →
    pairing.Coincide logs (Request.makeAll left requests) (Request.makeAll right twins)
  program : ∀ loader command,
    pairing.Coincide logs (Program.work left loader settings command)
      (Program.work right loader others command)

theorem alike_withAccount (around : pairing.Indistinct left right)
    {logs : List Event → List Event → Prop}
    (related : ∀ {events others}, pairing.Told events others → logs events others)
    (settings : Settings) :
    Alike pairing logs left right (settings.withAccount pairing.one)
      (settings.withAccount pairing.other) where
  command command outlet := (Command.inStep_execute around settings outlet command).coincide related
  feeder name shutdown :=
    (Feeder.inStep_run ⟨name, settings⟩ around shutdown).coincide related
  cycles name count first stats :=
    (Feeder.inStep_cycles ⟨name, settings⟩ around count first stats).coincide related
  requests each := (Request.inStep_makeAll around each).coincide related
  program loader command := (Program.inStep_work around settings loader command).coincide related

/-- Runs under settings and under the same settings with another password. -/
def pairedWith (settings : Settings) (password : String) (same : σ → τ → Prop) :
    Pairing σ τ where
  one := settings.credentials
  other := (settings.withPassword password).credentials
  same := same
  told := Eq
  user_eq := rfl
  told_self _ := rfl

/-- Such runs over libraries, whose entries may differ. -/
def pairedOverLibrary (settings : Settings) (password : String) (same : σ → τ → Prop) :
    Pairing σ τ where
  __ := settings.pairedWith password same
  told := Library.Entries settings.credentials (settings.withPassword password).credentials
  told_self := .same

/-- Settings that differ in the password are shown alike, and whatever is done under them comes to
the same and logs the same over everything that answers alike. Over libraries the logs differ at most
in the size that an entry tells of the document of the account, and not if the sizes are equal. -/
theorem password_unseen (settings : Settings) (password : String) :
    let others := settings.withPassword password
    others.credentials.describe = settings.credentials.describe ∧
    others.describe = settings.describe ∧
    (∀ name, Feeder.created ⟨name, others⟩ = Feeder.created ⟨name, settings⟩) ∧
    (∀ {σ τ : Type} (same : σ → τ → Prop) (left : Surroundings σ) (right : Surroundings τ),
      (settings.pairedWith password same).Indistinct left right →
      Alike (settings.pairedWith password same) Eq left right settings others) ∧
    ∀ {σ τ : Type} (same : σ → τ → Prop) (left : Library.Functions σ) (right : Library.Functions τ)
      (storage : σ → Storage) (stored : τ → Storage) (draw : Nat → Draw),
      Library.Indistinct settings.credentials others.credentials same left right →
      (∀ s t, same s t → storage s = stored t) →
      let native (logs : List Event → List Event → Prop) :=
        Alike (settings.pairedOverLibrary password same) logs ⟨Library.respond left, storage, draw⟩
          ⟨Library.respond right, stored, draw⟩ settings others
      native (List.Forall₂ (Library.Entries settings.credentials others.credentials)) ∧
        ((Document.encode settings.credentials).utf8ByteSize =
          (Document.encode others.credentials).utf8ByteSize → native Eq) := by
  intro others
  refine ⟨rfl, rfl, fun _ => rfl, ?_, ?_⟩
  · intro σ τ same left right around
    refine alike_withAccount around (fun told => ?_) settings
    exact List.forall₂_eq_eq_eq ▸ told
  · intro σ τ same left right storage stored draw indistinct storage_eq native
    have around : (settings.pairedOverLibrary password same).Indistinct
        ⟨Library.respond left, storage, draw⟩ ⟨Library.respond right, stored, draw⟩ :=
      Library.Indistinct.respond indistinct rfl storage_eq draw
    refine ⟨alike_withAccount around id settings, fun sizes => ?_⟩
    refine alike_withAccount around (fun told => ?_) settings
    have equal := told.imp fun _ _ entries => Library.Entries.eq sizes entries
    exact List.forall₂_eq_eq_eq ▸ equal

/-- A scripted library, with no files beside it. -/
def scripted : Surroundings Library.Scripted :=
  ⟨Library.respond Library.Scripted.functions, fun _ _ => .missing .notFound, fun _ => ⟨"", .epoch⟩⟩

theorem password_unseen_shortRun :
    let settings := Feeder.shortRun.settings
    let others := settings.withPassword "hunter2"
    (settings.pairedWith "hunter2" StandIn.AnswersLike).Indistinct Feeder.answering
        Feeder.answering ∧
      Library.Indistinct settings.credentials others.credentials Library.Scripted.AnswersLike
        Library.Scripted.functions Library.Scripted.functions ∧
      ((Feeder.run Feeder.answering ⟨"short run", settings⟩ none).run (.start .fresh)).2.log =
        ((Feeder.run Feeder.answering ⟨"short run", others⟩ none).run (.start .fresh)).2.log ∧
      List.Forall₂ (Library.Entries settings.credentials others.credentials)
        ((Command.execute scripted settings .unlimited .connect).run (.start .fresh)).2.log
        ((Command.execute scripted others .unlimited .connect).run (.start .fresh)).2.log := by
  intro settings others
  obtain ⟨-, -, -, surrounded, native⟩ := password_unseen settings "hunter2"
  have around : (settings.pairedWith "hunter2" StandIn.AnswersLike).Indistinct Feeder.answering
      Feeder.answering := StandIn.indistinct rfl _ _
  have functions := Library.Scripted.indistinct settings.credentials others.credentials
  have runs := surrounded _ _ _ around
  have commands : Alike (settings.pairedOverLibrary "hunter2" Library.Scripted.AnswersLike)
      (List.Forall₂ (Library.Entries settings.credentials others.credentials)) scripted scripted
      settings others :=
    (native _ _ _ scripted.storage scripted.storage scripted.draw functions fun _ _ _ => rfl).1
  have begun : (settings.pairedWith "hunter2" StandIn.AnswersLike).Abreast (.start .fresh)
      (.start .fresh) := .start (Eq.refl StandIn.fresh)
  have opened : (settings.pairedOverLibrary "hunter2" Library.Scripted.AnswersLike).Abreast
      (.start .fresh) (.start .fresh) := .start (Eq.refl Library.Scripted.fresh)
  exact ⟨around, functions, (runs.feeder "short run" none _ _ begun).2,
    (commands.command .connect .unlimited _ _ opened).2⟩

end Settings

end MonitorFeed
