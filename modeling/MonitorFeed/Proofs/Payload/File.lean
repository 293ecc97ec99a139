import MonitorFeed.Payload.File
import MonitorFeed.Proofs.Result

/-!
What reading a payload from a file comes to. Either the file has a text and the text carries the
payload, or one of the two is lacking, and the fault says which.
-/

namespace MonitorFeed.Document

variable {α : Type} [Document α] {storage : Storage} {path : String}

/-- Why a file does not hold a payload: it cannot be read, or its text carries none. Only then is the
file named. -/
inductive Lacks (α : Type) [Document α] (storage : Storage) (path : String) : ClientError → Prop where
  | unread {fault : IoFault} (lost : storage.readText path = .error fault) :
      Lacks α storage path (.io fault)
  | spoiled {text : String} {fault : Json.Error} (held : storage.readText path = .ok text)
      (senseless : (decode text : Except Json.Error α) = .error fault) :
      Lacks α storage path (.serialization (path ++ ": " ++ (DocumentError.json fault).message))

private theorem load_of_unread {fault : IoFault} (lost : storage.readText path = .error fault) :
    (load storage path : Except ClientError α) = .error (.io fault) := by
  rw [load, lost]
  rfl

private theorem load_of_read {text : String} (held : storage.readText path = .ok text) :
    (load storage path : Except ClientError α) = (decode text).mapError fun fault =>
      .serialization (path ++ ": " ++ (DocumentError.json fault).message) := by
  rw [load, held]
  rfl

/-- A file holds the payload that its text carries. -/
theorem load_eq_ok_iff {value : α} :
    load storage path = .ok value ↔
      ∃ text, storage.readText path = .ok text ∧ decode text = .ok value := by
  cases found : storage.readText path with
  | error fault => simp [load_of_unread found]
  | ok text =>
    rw [load_of_read found, ← toOption_eq_some_iff, toOption_mapError, toOption_eq_some_iff]
    simp

/-- A file holds no payload for one of two reasons. -/
theorem load_eq_error_iff {fault : ClientError} :
    (load storage path : Except ClientError α) = .error fault ↔ Lacks α storage path fault := by
  constructor
  · intro failed
    cases found : storage.readText path with
    | error lost =>
      rw [load_of_unread found] at failed
      cases failed
      exact .unread found
    | ok text =>
      rw [load_of_read found] at failed
      cases decoded : (decode text : Except Json.Error α) with
      | error senseless =>
        rw [decoded] at failed
        cases failed
        exact .spoiled found decoded
      | ok value =>
        rw [decoded] at failed
        cases failed
  · intro lacks
    cases lacks with
    | unread lost => exact load_of_unread lost
    | spoiled held senseless =>
      rw [load_of_read held, senseless]
      rfl

namespace Lacks

variable {fault other : ClientError}

/-- What a file lacks is one thing. -/
theorem unique (lacks : Lacks α storage path fault) (again : Lacks α storage path other) :
    fault = other :=
  Except.error.inj ((load_eq_error_iff.mpr lacks).symm.trans (load_eq_error_iff.mpr again))

/-- A file that holds a payload lacks nothing. -/
theorem not_held (lacks : Lacks α storage path fault) {text : String} {value : α}
    (held : storage.readText path = .ok text) : decode text ≠ .ok value := by
  intro carried
  have loaded := load_eq_ok_iff.mpr ⟨text, held, carried⟩
  rw [load_eq_error_iff.mpr lacks] at loaded
  cases loaded

end Lacks

end MonitorFeed.Document
