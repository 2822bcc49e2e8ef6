import Mathlib
import WorkloadScaling.Program
import WorkloadScaling.Proofs.CapacityTotal
import WorkloadScaling.Proofs.ClientHistory

/-!
# The phases of failures

A failure belongs to the building of a client or to a later call, whatever went wrong. A call of
the control plane that fails is the source of the failure that is reported, and is never lost.
-/
namespace WorkloadScaling

variable {σ α β : Type}

def error? {ε : Type} : Except ε α → Option ε
  | .error e => some e
  | .ok _ => none

lemma error?_eq_some {ε : Type} {x : Except ε α} {e : ε} (h : error? x = some e) :
    x = .error e := by
  cases x with
  | error => exact congrArg _ (Option.some.inj h)
  | ok => cases h

/-- The state of a control plane, and what its calls have failed with so far. -/
structure Watched (σ : Type) where
  inner : σ
  failures : List RemoteFailure := []

def World.failures (v : World (Watched σ)) : List RemoteFailure := v.remote.failures

namespace ControlPlane

def watch (act : Run σ (Except RemoteFailure α)) : Run (Watched σ) (Except RemoteFailure α) :=
  fun v =>
    let (a, w) := act ⟨v.remote.inner, v.log⟩
    (a, ⟨⟨w.remote, v.failures ++ (error? a).toList⟩, w.log⟩)

def watched (api : ControlPlane σ) : ControlPlane (Watched σ) where
  catalog := watch api.catalog
  nodes := watch api.nodes
  patch w nspace name document := watch (api.patch w nspace name document)

inductive Offers (api : ControlPlane σ) :
    {α : Type} → Run σ (Except RemoteFailure α) → Prop
  | catalog : Offers api api.catalog
  | nodes : Offers api api.nodes
  | patch (w : Workload) (nspace name : String) (document : Json) :
      Offers api (api.patch w nspace name document)

lemma Offers.failures {api : ControlPlane σ} {act : Run (Watched σ) (Except RemoteFailure α)}
    (h : api.watched.Offers act) (v : World (Watched σ)) :
    (act v).2.failures = v.failures ++ (error? (act v).1).toList := by
  cases h with
  | catalog | nodes | patch => rfl

end ControlPlane

namespace Attempt

def FailsIn (construction : Bool) (x : Attempt σ α) : Prop :=
  ∀ v e, (x.run v).1 = .error e → e.isConstruction = construction

/-- The source of what a computation fails with is the call of the control plane that failed, and
without a source no call failed. -/
def Carries (x : Attempt (Watched σ) α) : Prop :=
  ∀ v, (x.run v).2.failures =
    v.failures ++ ((error? (x.run v).1).bind Failure.remote?).toList

/-- A property that the steps of a phase have, and that is kept when steps are put together. -/
structure Governs (P : ∀ {α : Type}, Attempt σ α → Prop) (construction : Bool)
    (api : ControlPlane σ) : Prop where
  pure : ∀ {α : Type} (a : α), P (pure a : Attempt σ α)
  logLines : ∀ lines, P (logLines lines)
  throw : ∀ {α : Type} (e : Failure), e.isConstruction = construction → e.remote? = none →
    P (throw e : Attempt σ α)
  call : ∀ {α : Type} {act : Run σ (Except RemoteFailure α)} (context : RemoteFailure → Failure),
    api.Offers act → (∀ cause, (context cause).isConstruction = construction) →
    (∀ cause, (context cause).remote? = some cause) → P (call context act)
  bind : ∀ {α β : Type} {x : Attempt σ α} {f : α → Attempt σ β}, P x → (∀ a, P (f a)) →
    P (x >>= f)

lemma failsIn_governs (construction : Bool) (api : ControlPlane σ) :
    Governs (FailsIn construction) construction api where
  pure a v e h := by cases h
  logLines lines v e h := by cases h
  throw e hphase _ v e' h := by
    cases h
    exact hphase
  call {_ act} context _ hphase _ v e h := by
    rw [run_call] at h
    cases hact : (act v).1 with
    | error cause =>
      rw [hact] at h
      cases h
      exact hphase cause
    | ok a =>
      rw [hact] at h
      cases h
  bind {_ _ x f} hx hf v e h := by
    rw [run_bind] at h
    rcases hrun : x.run v with ⟨e' | a, u⟩
    · rw [hrun] at h
      cases h
      exact hx v e (congrArg Prod.fst hrun)
    · rw [hrun] at h
      exact hf a u e h

lemma carries_governs (construction : Bool) (api : ControlPlane σ) :
    Governs Carries construction api.watched where
  pure a v := (List.append_nil _).symm
  logLines lines v := (List.append_nil _).symm
  throw e _ hsource v := by
    rw [run_throw, error?, Option.bind_some, hsource]
    exact (List.append_nil _).symm
  call {_ act} context hact _ hsource v := by
    rw [run_call, hact.failures v]
    cases (act v).1 with
    | error cause => simp [error?, Except.mapError, hsource]
    | ok a => rfl
  bind {_ _ x f} hx hf v := by
    have hfirst := hx v
    rw [run_bind]
    rcases hrun : x.run v with ⟨e | a, u⟩
    · rw [hrun] at hfirst
      exact hfirst
    · rw [hrun] at hfirst
      have hnone : u.failures = v.failures := hfirst.trans (List.append_nil _)
      exact (hf a u).trans (by rw [hnone])

end Attempt

structure FailsAs (api : ControlPlane σ) (construction : Bool)
    (operation : ∀ {τ : Type}, ControlPlane τ → Attempt τ α) : Prop where
  phase : (operation api).FailsIn construction
  source : (operation api.watched).Carries

lemma ClusterSize.ofNodes_eq_error {nodes : List Node} {e : Failure}
    (h : ofNodes nodes = .error e) : e.isConstruction = false ∧ e.remote? = none := by
  obtain ⟨outcome, houtcome⟩ := exists_outcome nodes
  rw [houtcome.ofNodes_eq] at h
  subst h
  cases houtcome with
  | invalid | overflow | fractional | outOfRange => exact ⟨rfl, rfl⟩

open Attempt (Governs failsIn_governs carries_governs)

lemma FailsAs.of_governs {api : ControlPlane σ} {construction : Bool}
    {operation : ∀ {τ : Type}, ControlPlane τ → Attempt τ α}
    (h : ∀ {τ : Type} {P : ∀ {α : Type}, Attempt τ α → Prop} {api : ControlPlane τ},
      Governs P construction api → P (operation api)) :
    FailsAs api construction operation :=
  ⟨h (failsIn_governs construction api), h (carries_governs construction api)⟩

namespace Attempt.Governs

variable {P : ∀ {α : Type}, Attempt σ α → Prop} {api : ControlPlane σ}

lemma discover (hP : Governs P true api) (hint : String) : P (api.discover hint) := by
  unfold ControlPlane.discover
  refine hP.bind ?_ fun w => ?_
  · cases hkind : Workload.ofKind hint with
    | error e =>
      obtain ⟨rfl, -⟩ := Text.keyword_eq_error_iff.mp hkind
      exact hP.throw _ rfl rfl
    | ok w => exact hP.pure w
  · refine hP.bind (hP.call _ .catalog (fun _ => rfl) fun _ => rfl) fun catalog => ?_
    refine hP.bind (hP.logLines _) fun _ => ?_
    cases catalog.find? w with
    | none => exact hP.throw _ rfl rfl
    | some served => exact hP.pure served

lemma resolve (hP : Governs P true api) (asked nspace : String) :
    P (api.resolve asked nspace) := by
  unfold ControlPlane.resolve
  cases Target.halves? asked with
  | none => exact hP.throw _ rfl rfl
  | some halves =>
    exact hP.bind (hP.discover halves.1) fun _ => hP.bind (hP.logLines _) fun _ => hP.pure _

lemma connect (hP : Governs P true api) (asked nspace : String) :
    P (Client.connect api asked nspace) :=
  hP.bind (hP.resolve asked nspace) fun _ => hP.bind (hP.logLines _) fun _ => hP.pure _

lemma readSize (hP : Governs P false api) : P api.readSize := by
  unfold ControlPlane.readSize
  refine hP.bind (hP.call _ .nodes (fun _ => rfl) fun _ => rfl) fun nodes => ?_
  refine hP.bind (hP.logLines _) fun _ => hP.bind ?_ fun size => ?_
  · cases hsize : ClusterSize.ofNodes nodes with
    | error e =>
      obtain ⟨hphase, hsource⟩ := ClusterSize.ofNodes_eq_error hsize
      exact hP.throw e hphase hsource
    | ok size => exact hP.pure size
  · exact hP.bind (hP.logLines _) fun _ => hP.pure size

lemma update (hP : Governs P false api) (t : Target) (resources : Resources) :
    P (api.update t resources) := by
  unfold ControlPlane.update
  cases t.workload? with
  | none => exact hP.throw _ rfl rfl
  | some w =>
    exact hP.bind (hP.call _ (.patch w _ _ _) (fun _ => rfl) fun _ => rfl) fun _ => hP.logLines _

end Attempt.Governs

namespace Client

def Reply.error? : Reply → Option Failure
  | .size result => WorkloadScaling.error? result
  | .updated result => WorkloadScaling.error? result
  | .document _ | .target _ => none

lemma perform_failsIn {api : ControlPlane σ} {c : Client} {operation : Operation} {v : World σ}
    {e : Failure} (h : (c.perform api operation v).1.1.error? = some e) :
    e.isConstruction = false := by
  cases operation with
  | readSize door =>
    have hphase := (failsIn_governs false api).readSize v e
    rw [perform_readSize, readSize_apply] at h
    rcases hrun : api.readSize.run v with ⟨_ | _, _⟩
    · rw [hrun] at h hphase
      exact hphase (error?_eq_some h)
    · rw [hrun] at h
      cases h
  | update door resources =>
    rw [perform_update] at h
    exact (failsIn_governs false api).update c.target resources v e (error?_eq_some h)
  | preview | target => cases h

lemma perform_failures (api : ControlPlane σ) (c : Client) (operation : Operation)
    (v : World (Watched σ)) : (c.perform api.watched operation v).2.failures = v.failures ++
      ((c.perform api.watched operation v).1.1.error?.bind Failure.remote?).toList := by
  cases operation with
  | readSize door =>
    have hsource := (carries_governs false api).readSize v
    rw [perform_readSize, readSize_apply]
    rcases hrun : api.watched.readSize.run v with ⟨_ | _, _⟩
    · rw [hrun] at hsource
      exact hsource
    · rw [hrun] at hsource
      exact hsource
  | update door resources =>
    rw [perform_update]
    exact (carries_governs false api).update c.target resources v
  | preview | target => exact (List.append_nil _).symm

end Client

lemma mapError_eq_error {ε ε' : Type} {x : Except ε α} {f : ε → ε'} {e' : ε'}
    (h : x.mapError f = .error e') : ∃ e, x = .error e ∧ f e = e' := by
  cases x with
  | error e => exact ⟨e, rfl, Except.error.inj h⟩
  | ok a => cases h

namespace Access

lemma told_eq_error {env : Environment} {files : Files} {kubeconfig : Option String}
    {e : Failure} (h : told env files kubeconfig = .error e) : e.isConstruction = true := by
  cases kubeconfig with
  | none =>
    obtain ⟨cause, -, rfl⟩ := mapError_eq_error h
    rfl
  | some path =>
    obtain ⟨cause, -, rfl⟩ := mapError_eq_error h
    rfl

lemma check_eq_error {now : Timestamp.Instant} {files : Files} {path : String} {a : Access}
    {refusal : Refusal} (h : a.check now files path = .error refusal) :
    refusal = .brokenOff ∨ ∃ cause, refusal = .failed (.connect cause) := by
  unfold check at h
  simp only [bind, Except.bind, throw, throwThe, MonadExceptOf.throw, pure, Except.pure] at h
  split at h
  · split_ifs at h
    · exact .inl (Except.error.inj h).symm
    · exact .inr ⟨_, (Except.error.inj h).symm⟩
    · exact .inr ⟨_, (Except.error.inj h).symm⟩
  · exact .inr ⟨_, (Except.error.inj h).symm⟩

lemma find_eq_error {now : Timestamp.Instant} {env : Environment} {files : Files}
    {kubeconfig : Option String} {e : Failure}
    (h : find now env files kubeconfig = .error (.failed e)) : e.isConstruction = true := by
  unfold find at h
  cases htold : told env files kubeconfig with
  | error e' =>
    rw [htold] at h
    cases h
    exact told_eq_error htold
  | ok access =>
    cases hcheck : access.check now files (kubeconfig.getD "") with
    | error refusal =>
      simp only [htold, Except.mapError, bind, Except.bind, hcheck] at h
      cases h
      obtain hbroken | ⟨cause, hconnect⟩ := check_eq_error hcheck
      · cases hbroken
      · cases hconnect
        rfl
    | ok =>
      simp only [htold, Except.mapError, bind, Except.bind, hcheck] at h
      cases h

end Access

namespace Program

lemma call_bind_run (context : Failure → Trouble) (act : Run σ (Except Failure α))
    (f : α → Attempt σ β) (v : World σ) :
    (call context act >>= f).run v =
      match act v with
      | (.ok a, u) => (f a).run u
      | (.error e, u) => (.error (.failed (context e)), u) := by
  have hcall : (call context act).run v =
      ((act v).1.mapError fun e => .failed (context e), (act v).2) := rfl
  rw [Attempt.run_bind, hcall]
  rcases act v with ⟨_ | _, _⟩ <;> rfl

lemma connect_run (now : Timestamp.Instant) (env : Environment) (files : Files)
    (api : Access → ControlPlane σ) (settings : Settings) (v : World σ) :
    (∃ refusal, Access.find now env files settings.kubeconfig = .error refusal ∧
      (connect now env files api settings).run v = (.error (.ofRefusal refusal), v)) ∨
    ∃ access, Access.find now env files settings.kubeconfig = .ok access ∧
      (connect now env files api settings).run v =
        match (Client.connect (api access) settings.target settings.nspace).run v with
        | (.ok c, u) => (.ok (api access, c), u)
        | (.error e, u) => (.error (.failed (.client e)), u) := by
  unfold connect
  cases Access.find now env files settings.kubeconfig with
  | error refusal => exact .inl ⟨refusal, rfl, rfl⟩
  | ok access =>
    refine .inr ⟨access, rfl, ?_⟩
    simp only [call_bind_run]
    rcases (Client.connect (api access) settings.target settings.nspace).run v with ⟨_ | _, _⟩
    · rfl
    · rfl

lemma connect_eq_error {now : Timestamp.Instant} {env : Environment} {files : Files}
    {api : Access → ControlPlane σ} {settings : Settings} {v : World σ} {ending : Ending}
    (h : ((connect now env files api settings).run v).1 = .error ending) :
    ending = .brokenOff ∨ ∃ e, ending = .failed (.client e) ∧ e.isConstruction = true := by
  obtain ⟨refusal, hfind, hrun⟩ | ⟨access, -, hrun⟩ :=
    connect_run now env files api settings v
  · rw [hrun] at h
    cases h
    cases refusal with
    | failed e => exact .inr ⟨e, rfl, Access.find_eq_error hfind⟩
    | brokenOff => exact .inl rfl
  · have hphase := (failsIn_governs true (api access)).connect settings.target settings.nspace v
    rw [hrun] at h
    rcases hconnect : (Client.connect (api access) settings.target settings.nspace).run v
      with ⟨e | c, u⟩
    · rw [hconnect] at h hphase
      cases h
      exact .inr ⟨e, rfl, hphase e rfl⟩
    · rw [hconnect] at h
      cases h

lemma connect_failures (now : Timestamp.Instant) (env : Environment) (files : Files)
    (api : Access → ControlPlane σ) (settings : Settings) (v : World (Watched σ)) :
    ∃ failed, ((connect now env files (fun a => (api a).watched) settings).run v).2.failures =
        v.failures ++ failed ∧
      ∀ cause ∈ failed, ∃ e,
        ((connect now env files (fun a => (api a).watched) settings).run v).1 =
          .error (.failed (.client e)) ∧ e.remote? = some cause := by
  obtain ⟨refusal, -, hrun⟩ | ⟨access, -, hrun⟩ :=
    connect_run now env files (fun a => (api a).watched) settings v
  · exact ⟨[], by rw [hrun, List.append_nil], by simp⟩
  · have hsource := (carries_governs true (api access)).connect settings.target settings.nspace v
    rw [hrun]
    rcases hconnect : (Client.connect (api access).watched settings.target settings.nspace).run v
      with ⟨e | c, u⟩
    · rw [hconnect] at hsource
      refine ⟨_, hsource, fun cause hcause => ⟨e, rfl, ?_⟩⟩
      exact Option.mem_toList.mp hcause
    · rw [hconnect] at hsource
      exact ⟨[], hsource, by simp⟩

end Program

structure BuildsAsTold (api : ControlPlane σ) : Prop where
  discover : ∀ hint, FailsAs api true fun api => api.discover hint
  resolve : ∀ asked nspace, FailsAs api true fun api => api.resolve asked nspace
  connect : ∀ asked nspace, FailsAs api true fun api => Client.connect api asked nspace
  access : ∀ now env files kubeconfig e,
    Access.find now env files kubeconfig = .error (.failed e) → e.isConstruction = true
  /-- A run breaks off, with nothing told, only for a token that fits into no header. -/
  settings : ∀ now env files (apis : Access → ControlPlane σ) settings v ending,
    ((Program.connect now env files apis settings).run v).1 = .error ending →
      ending = .brokenOff ∨ ∃ e, ending = .failed (.client e) ∧ e.isConstruction = true
  settingsSource : ∀ now env files (apis : Access → ControlPlane σ) settings
    (v : World (Watched σ)), ∃ failed,
      ((Program.connect now env files (fun a => (apis a).watched) settings).run v).2.failures =
        v.failures ++ failed ∧
      ∀ cause ∈ failed, ∃ e,
        ((Program.connect now env files (fun a => (apis a).watched) settings).run v).1 =
          .error (.failed (.client e)) ∧ e.remote? = some cause

structure CallsAsTold (api : ControlPlane σ) : Prop where
  readSize : FailsAs api false fun api => api.readSize
  update : ∀ t resources, FailsAs api false fun api => api.update t resources
  nodes : ∀ nodes e, ClusterSize.ofNodes nodes = .error e →
    e.isConstruction = false ∧ e.remote? = none
  operation : ∀ (c : Client) operation v e,
    (c.perform api operation v).1.1.error? = some e → e.isConstruction = false
  operationSource : ∀ (c : Client) operation v,
    (c.perform api.watched operation v).2.failures = v.failures ++
      ((c.perform api.watched operation v).1.1.error?.bind Failure.remote?).toList

lemma buildsAsTold (api : ControlPlane σ) : BuildsAsTold api where
  discover hint := .of_governs fun hP => hP.discover hint
  resolve asked nspace := .of_governs fun hP => hP.resolve asked nspace
  connect asked nspace := .of_governs fun hP => hP.connect asked nspace
  access _ _ _ _ _ h := Access.find_eq_error h
  settings _ _ _ _ _ _ _ h := Program.connect_eq_error h
  settingsSource := Program.connect_failures

lemma callsAsTold (api : ControlPlane σ) : CallsAsTold api where
  readSize := .of_governs fun hP => hP.readSize
  update t resources := .of_governs fun hP => hP.update t resources
  nodes _ _ h := ClusterSize.ofNodes_eq_error h
  operation _ _ _ _ h := Client.perform_failsIn h
  operationSource := Client.perform_failures api

/-- A failure is told of the phase it belongs to, whatever is asked for and however the cluster
answers. No call of the control plane fails without being the source of what is told, and nothing
else is named as its source. -/
theorem failures_by_phase (api : ControlPlane σ) : BuildsAsTold api ∧ CallsAsTold api :=
  ⟨buildsAsTold api, callsAsTold api⟩

end WorkloadScaling
