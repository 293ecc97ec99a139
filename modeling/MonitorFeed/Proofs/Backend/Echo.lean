import MonitorFeed.Backend.StandIn
import MonitorFeed.Proofs.Client
import MonitorFeed.Proofs.Payload.Finite
import MonitorFeed.Proofs.Schema.Tree

/-!
The echo of a stand-in. A resource goes through the tree of its document and back: its own status is
that of an echo, and nothing else changes, whatever the names in it are.
-/

namespace MonitorFeed

open Json (Takes)

namespace StandIn

/-- An echo is read as another record than the one that it echoes, if an entry for the status of an
echo makes the values of what is settled of the one those of the other. -/
theorem exists_echoOf_record {α β σ : Type} {label : String} {members : Members β σ}
    {view : View α β} (regular : members.isRegular = true)
    (shallow : members.depth < Json.nestingLimit) (known : "status" ∈ members.names)
    {value settled changed : α} (same : (Schema.record label members view).settle value = settled)
    (back : ∀ x ∈ members.doubles (view.split value), Decimal.isFinite x = true → ReadsBack x)
    (pending : ∀ table : Table Json, members.Fills (view.split settled) table.entries →
      members.Fills (view.split changed) (table.insert "status" (.string echoStatus)).entries) :
    ∃ text, echoOf ((Schema.record label members view).write value) = .answered text ∧
      (Schema.record label members view).read text = .ok changed := by
  have within : members.depth ≤ Json.nestingLimit - 1 := Nat.le_sub_one_of_lt shallow
  obtain ⟨table, grown, names, fills⟩ :=
    members.regrows.exists_table regular within (members.written_toJson (view.split value)) back
  have values : members.settle (view.split value) = view.split settled := by
    rw [← same]
    exact (view.split_build _).symm
  rw [values] at fills
  have inside : ∀ entry ∈ (table.insert "status" (.string echoStatus)).entries,
      entry.1 ∈ members.names := by
    intro entry held
    rcases mem_insertEntry held with rfl | held
    · exact known
    · exact names entry held
  have tree : Json.ofText ((Schema.record label members view).write value) =
      .ok (.object table.entries) := grown.readWhole
  have taken := (pending table fills).takes regular inside label view
  rw [view.build_split] at taken
  exact ⟨_, by rw [echoOf, tree]; rfl, taken.readWhole⟩

/-- A resource whose finite doubles come back from their texts has an echo, which is read as the
resource without its other doubles and with the status of an echo. -/
theorem exists_echoOf {resource : Resource}
    (back : ∀ x ∈ Document.doubles resource, Decimal.isFinite x = true → ReadsBack x) :
    ∃ text, echoOf (Document.encode resource) = .answered text ∧
      Document.decode text = .ok { resource.finite with status := .servicePending } := by
  refine exists_echoOf_record (by decide) (by decide) (by decide)
    (Document.settle_resource resource) back ?_
  intro table fills
  -- The status is the fourth member.
  refine .insert_of_ne (by decide) fills (.insert_of_ne (by decide) fills.2
    (.insert_of_ne (by decide) fills.2.2 ?_))
  exact .insert_self (by decide) fills.2.2.2 (takes_choice _ Status.servicePending)

end StandIn

namespace Client

/-- A test over a stand-in that neither refuses it nor has a text of its own for it comes to the
resource that was handed over, without its doubles that are not finite and with the status of an
echo. -/
theorem test_echo {around : Surroundings StandIn} (overStandIn : around.respond = StandIn.respond)
    {progress : Progress StandIn} (steady : progress.state.failures .test = none)
    (silent : progress.state.echo = none) {resource : Resource}
    (back : ∀ x ∈ Document.doubles resource, Decimal.isFinite x = true → ReadsBack x) :
    ((test around resource).run progress).1 =
      .ok { resource.finite with status := .servicePending } := by
  obtain ⟨text, echoed, read⟩ := StandIn.exists_echoOf back
  have reply : (around.respond (.test (Document.encode resource)) progress.state).reply =
      .answered text := by
    have steady : progress.state.failures
        (Call.test (Document.encode resource)).operation = none := steady
    rw [overStandIn]
    simp only [StandIn.respond, StandIn.reply, steady, silent, echoed]
  rw [run_test, reply]
  exact congrArg understood read

/-- A host with a property of the name of the status, and a service whose latest value is missing. -/
def namesakeHost : Resource :=
  ((Resource.checked "host" .host .hostUp .epoch).withProperty "status"
    (.ofText "HOST_DOWN")).withService
      ((Service.checked "load" "host" .serviceOk .epoch).withMetric
        ((Series.sample "load" (.ofDouble (1.0 / 0.0)) .epoch).withThresholds
          (.ofDouble 1.5) (.ofDouble 2.5)))

theorem test_echo_namesakeHost :
    (∀ x ∈ Document.doubles namesakeHost, Decimal.isFinite x = true → ReadsBack x) ∧
      ∃ echoed, ((test ⟨StandIn.respond, fun _ _ => .missing .notFound, fun _ => ⟨"", .epoch⟩⟩
          namesakeHost).run (.start StandIn.fresh)).1 = .ok echoed ∧
        echoed.status = .servicePending ∧
        echoed.services.map Service.status = [.serviceOk] ∧
        echoed.services.flatMap (fun service => service.metrics.map (·.value.double)) = [none] ∧
        echoed.properties = namesakeHost.properties := by
  have back : ∀ x ∈ Document.doubles namesakeHost, Decimal.isFinite x = true → ReadsBack x := by
    have doubles : Document.doubles namesakeHost = [1.0 / 0.0, 1.5, 2.5] := rfl
    rw [doubles]
    intro x member finite
    simp only [List.mem_cons, List.not_mem_nil, or_false] at member
    rcases member with rfl | rfl | rfl
    · have infinite : Decimal.isFinite (1.0 / 0.0) = false := rfl
      rw [infinite] at finite
      cases finite
    · rfl
    · rfl
  exact ⟨back, _, test_echo rfl rfl rfl back, rfl, rfl, rfl, rfl⟩

end Client

end MonitorFeed
