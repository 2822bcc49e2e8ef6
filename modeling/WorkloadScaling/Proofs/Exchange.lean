import Mathlib
import WorkloadScaling.ControlPlane.Http
import WorkloadScaling.Proofs.ClientRun

/-!
# Exchanges with a server

What a request comes to for the call that sends it: the document that was asked for, or the one
reason why it is not there.
-/
namespace WorkloadScaling.ControlPlane

open Http

variable {τ α β : Type}

/-- A document is read from an outcome, or something about the outcome stands against it. -/
inductive Reading (read? : Json → Option α) : Outcome → Except RemoteFailure α → Prop
  | unreachable (message : String) :
      Reading read? (.failed message) (.error (.unreachable message))
  | notText {status : ℕ} {bytes : ByteArray} (binary : String.fromUTF8? bytes = none) :
      Reading read? (.answer status bytes) (.error .notText)
  | refused {status : ℕ} {bytes : ByteArray} {body : String}
      (text : String.fromUTF8? bytes = some body) (refusal : 400 ≤ status ∧ status < 600) :
      Reading read? (.answer status bytes)
        (.error (.refused ((refusal? body).getD (unexplained status body))))
  | undecodable {status : ℕ} {bytes : ByteArray} {body : String}
      (text : String.fromUTF8? bytes = some body) (success : ¬(400 ≤ status ∧ status < 600))
      (unread : ∀ v, Json.parse? body = some v → read? v = none) :
      Reading read? (.answer status bytes) (.error .undecodable)
  | decoded {status : ℕ} {bytes : ByteArray} {body : String} {v : Json} {a : α}
      (text : String.fromUTF8? bytes = some body) (success : ¬(400 ≤ status ∧ status < 600))
      (parsed : Json.parse? body = some v) (read : read? v = some a) :
      Reading read? (.answer status bytes) (.ok a)

lemma isErrorStatus_iff {status : ℕ} :
    isErrorStatus status = true ↔ 400 ≤ status ∧ status < 600 := by
  simp [isErrorStatus]

lemma Reading.interpret_eq {read? : Json → Option α} {outcome : Outcome}
    {result : Except RemoteFailure α} (h : Reading read? outcome result) :
    interpret read? outcome = result := by
  cases h with
  | unreachable message => rfl
  | notText binary => simp [interpret, binary]
  | refused text refusal => simp [interpret, text, isErrorStatus_iff.mpr refusal]
  | undecodable text success unread =>
    have hstatus := mt isErrorStatus_iff.mp success
    simp [interpret, text, hstatus, Option.bind_eq_none_iff.mpr unread]
  | decoded text success parsed read =>
    have hstatus := mt isErrorStatus_iff.mp success
    simp [interpret, text, hstatus, parsed, read]

lemma exists_reading (read? : Json → Option α) (outcome : Outcome) :
    ∃ result, Reading read? outcome result := by
  cases outcome with
  | failed message => exact ⟨_, .unreachable message⟩
  | answer status bytes =>
    cases htext : String.fromUTF8? bytes with
    | none => exact ⟨_, .notText htext⟩
    | some body =>
      by_cases hstatus : 400 ≤ status ∧ status < 600
      · exact ⟨_, .refused htext hstatus⟩
      · cases hread : (Json.parse? body).bind read? with
        | none => exact ⟨_, .undecodable htext hstatus (Option.bind_eq_none_iff.mp hread)⟩
        | some a =>
          obtain ⟨v, hparsed, hv⟩ := Option.bind_eq_some_iff.mp hread
          exact ⟨_, .decoded htext hstatus hparsed hv⟩

theorem interpret_eq_iff {read? : Json → Option α} {outcome : Outcome}
    {result : Except RemoteFailure α} :
    interpret read? outcome = result ↔ Reading read? outcome result := by
  constructor
  · rintro rfl
    obtain ⟨result, h⟩ := exists_reading read? outcome
    rwa [h.interpret_eq]
  · exact Reading.interpret_eq

lemma Reading.map {read? : Json → Option α} {outcome : Outcome} {result : Except RemoteFailure α}
    (h : Reading read? outcome result) (f : α → β) :
    Reading (fun v => (read? v).map f) outcome (result.map f) := by
  cases h with
  | unreachable message => exact .unreachable message
  | notText binary => exact .notText binary
  | refused text refusal => exact .refused text refusal
  | undecodable text success unread =>
    refine .undecodable text success fun v hv => ?_
    rw [unread v hv, Option.map_none]
  | decoded text success parsed read =>
    refine .decoded text success parsed ?_
    rw [read, Option.map_some]

/-- A document is asked for at an address: by one request, or by none if no request can be made
of the address. -/
inductive Asking (serve : Server τ) (address : String) (read? : Json → Option α) (s : τ) :
    List Request → Except RemoteFailure α → τ → Prop
  | unaddressable (invalid : Address.ofText? address = none) :
      Asking serve address read? s [] (.error .unaddressable) s
  | asked {a : Address} {outcome : Outcome} {s' : τ} {result : Except RemoteFailure α}
      (valid : Address.ofText? address = some a)
      (served : serve { method := .get, address := a } s = (outcome, s'))
      (read : Reading read? outcome result) :
      Asking serve address read? s [{ method := .get, address := a }] result s'

variable {serve : Server τ}

lemma Asking.map {address : String} {read? : Json → Option α} {s s' : τ} {sent : List Request}
    {result : Except RemoteFailure α} (h : Asking serve address read? s sent result s')
    (f : α → β) : Asking serve address (fun v => (read? v).map f) s sent (result.map f) s' := by
  cases h with
  | unaddressable invalid => exact .unaddressable invalid
  | asked valid served read => exact .asked valid served (read.map f)

lemma get_map (address : String) (read? : Json → Option α) (f : α → β) :
    get serve .unaddressable address (fun v => (read? v).map f) =
      f <$> get serve .unaddressable address read? := by
  unfold get
  cases Address.ofText? address with
  | none => rfl
  | some a =>
    apply ExceptT.ext
    rw [ExceptT.run_map]
    funext v
    exact congrArg (·, _) ((interpret_eq_iff.mp rfl).map f).interpret_eq

lemma asking_get (serve : Server τ) (address : String) (read? : Json → Option α)
    (v : World (Link τ)) :
    ∃ sent result v', (get serve .unaddressable address read?).run v = (result, v') ∧
      Asking serve address read? v.remote.server sent result v'.remote.server ∧
      v'.remote.requests = v.remote.requests ++ sent := by
  unfold get
  cases haddress : Address.ofText? address with
  | none => exact ⟨[], _, v, rfl, .unaddressable haddress, (List.append_nil _).symm⟩
  | some a => exact ⟨_, _, _, rfl, .asked haddress rfl (interpret_eq_iff.mp rfl), rfl⟩

end WorkloadScaling.ControlPlane
