import Mathlib
import WorkloadScaling.Proofs.ClientHistory
import WorkloadScaling.Proofs.TargetResolution

/-!
# The calls of a client

The catalog is asked for once, while a client is built. From then on the target that was resolved
decides which calls an operation makes, and the answers to these calls decide what it gives back.
-/
namespace WorkloadScaling.Client

variable {σ : Type} {api : ControlPlane σ}

def Operation.calls (t : Target) : Operation → List Call
  | .readSize _ => [.nodes]
  | .update _ resources =>
    match Workload.ofKind? t.kind with
    | some w => [.patch w t.nspace t.name (resourcePatch t resources)]
    | none => []
  | .preview _ | .target => []

/-- What an operation for a target comes to in a world. The door does not matter, and neither does
anything that was read before. -/
inductive Dictated (api : ControlPlane σ) (t : Target) (v : World (Recorded σ)) : Event → Prop
  | read (door : Door) :
      Dictated api t v
        ⟨.readSize door, [.nodes], .size (ClusterSize.ofAnswer (api.nodes v.inner).1)⟩
  | unknown (door : Door) (resources : Resources) (unsupported : Workload.ofKind? t.kind = none) :
      Dictated api t v
        ⟨.update door resources, [], .updated (.error (.unknownTargetKind t.kind))⟩
  | patched {w : Workload} (door : Door) (resources : Resources)
      (known : Workload.ofKind? t.kind = some w)
      (accepted : (api.patch w t.nspace t.name (resourcePatch t resources) v.inner).1 = .ok ()) :
      Dictated api t v ⟨.update door resources,
        [.patch w t.nspace t.name (resourcePatch t resources)], .updated (.ok ())⟩
  | refused {w : Workload} {e : RemoteFailure} (door : Door) (resources : Resources)
      (known : Workload.ofKind? t.kind = some w)
      (refusal : (api.patch w t.nspace t.name (resourcePatch t resources) v.inner).1 = .error e) :
      Dictated api t v ⟨.update door resources,
        [.patch w t.nspace t.name (resourcePatch t resources)],
        .updated (.error (.patch w.kind t.nspace t.name e))⟩
  | preview (resources : Resources) :
      Dictated api t v ⟨.preview resources, [], .document (resourcePatch t resources)⟩
  | target : Dictated api t v ⟨.target, [], .target t⟩

variable {c d e : Client} {event event' : Event} {events : List Event}
  {v v' u : World (Recorded σ)} {t : Target}

lemma Dictated.calls_eq (h : Dictated api t v event) : event.calls = event.operation.calls t := by
  cases h with
  | read | preview | target => rfl
  | unknown _ _ unsupported => simp only [Operation.calls, unsupported]
  | patched _ _ known => simp only [Operation.calls, known]
  | refused _ _ known => simp only [Operation.calls, known]

lemma exists_dictated (api : ControlPlane σ) (t : Target) (v : World (Recorded σ))
    (operation : Operation) : ∃ event, event.operation = operation ∧ Dictated api t v event := by
  cases operation with
  | readSize door => exact ⟨_, rfl, .read door⟩
  | update door resources =>
    cases hkind : Workload.ofKind? t.kind with
    | none => exact ⟨_, rfl, .unknown door resources hkind⟩
    | some w =>
      cases hpatch : (api.patch w t.nspace t.name (resourcePatch t resources) v.inner).1 with
      | error e => exact ⟨_, rfl, .refused door resources hkind hpatch⟩
      | ok => exact ⟨_, rfl, .patched door resources hkind hpatch⟩
  | preview resources => exact ⟨_, rfl, .preview resources⟩
  | target => exact ⟨_, rfl, .target⟩

lemma Operation.catalog_notMem_calls (t : Target) (operation : Operation) :
    .catalog ∉ operation.calls t := by
  cases operation with
  | readSize | preview | target => simp [calls]
  | update =>
    cases hkind : Workload.ofKind? t.kind with
    | none => simp [calls, hkind]
    | some w => simp [calls, hkind]

lemma performs_update {door : Door} {resources : Resources} {result : Except Failure Unit}
    {calls : List Call} (h : (api.recorded.update c.target resources).Yields v calls result) :
    c.Performs api ⟨.update door resources, calls, .updated result⟩ v c := by
  have hperform := perform_update api.recorded c door resources v
  constructor
  · rw [hperform, h.result]
  · rw [hperform, h.calls]

lemma update_yields {resources : Resources} {w : Workload} {result : Except RemoteFailure Unit}
    (hknown : Workload.ofKind? t.kind = some w)
    (hpatch : (api.patch w t.nspace t.name (resourcePatch t resources) v.inner).1 = result) :
    (api.recorded.update t resources).Yields v
      [.patch w t.nspace t.name (resourcePatch t resources)]
      (result.mapError (.patch w.kind t.nspace t.name)) := by
  have hrun : (api.recorded.update t resources).run v = _ :=
    ControlPlane.update_of_known resources v hknown
  have hcalls : (api.recorded.patch w t.nspace t.name (resourcePatch t resources) v).2.calls =
      v.calls ++ [.patch w t.nspace t.name (resourcePatch t resources)] := rfl
  have hfst : (api.recorded.patch w t.nspace t.name (resourcePatch t resources) v).1 = result :=
    hpatch
  rcases hrecorded : api.recorded.patch w t.nspace t.name (resourcePatch t resources) v
    with ⟨r, v'⟩
  rw [hrecorded] at hrun hcalls hfst
  subst hfst
  cases r with
  | error e => exact .of_run hrun hcalls
  | ok => exact .of_run hrun hcalls

lemma Dictated.performs (h : Dictated api c.target v event) :
    c.Performs api event v ⟨c.target, event.read?.or c.lastSize⟩ := by
  cases h with
  | read door =>
    refine performs_readSize_iff.mpr ⟨rfl, rfl, ?_⟩
    cases ClusterSize.ofAnswer (api.nodes v.inner).1 <;> rfl
  | unknown door resources unsupported =>
    exact performs_update (.of_quiet (ControlPlane.update_of_unknown resources v unsupported))
  | patched door resources known accepted => exact performs_update (update_yields known accepted)
  | refused door resources known refusal => exact performs_update (update_yields known refusal)
  | preview resources => exact ⟨rfl, (List.append_nil _).symm⟩
  | target => exact ⟨rfl, (List.append_nil _).symm⟩

lemma Performs.unique (h : c.Performs api event v d) (h' : c.Performs api event' v e)
    (hoperation : event.operation = event'.operation) : event = event' ∧ d = e := by
  obtain ⟨operation, calls, reply⟩ := event
  obtain ⟨operation', calls', reply'⟩ := event'
  obtain rfl : operation = operation' := hoperation
  obtain ⟨rfl, rfl⟩ := Prod.mk.inj (h.replied.symm.trans h'.replied)
  obtain rfl := List.append_cancel_left (h.called.symm.trans h'.called)
  exact ⟨rfl, rfl⟩

/-- What is done is what the target dictates; of the client only the size changes that was read. -/
theorem performs_iff_dictated : c.Performs api event v d ↔
    Dictated api c.target v event ∧ d = ⟨c.target, event.read?.or c.lastSize⟩ := by
  constructor
  · intro h
    obtain ⟨_, hoperation, hdictated⟩ := exists_dictated api c.target v event.operation
    obtain ⟨rfl, rfl⟩ := h.unique hdictated.performs hoperation.symm
    exact ⟨hdictated, rfl⟩
  · rintro ⟨hdictated, rfl⟩
    exact hdictated.performs

/-- A client in use. Between its operations the cluster may change in any way, but a call that was
made stays made. -/
inductive Session (api : ControlPlane σ) (c : Client) (v : World (Recorded σ)) :
    List Event → Client → World (Recorded σ) → Prop
  | start : Session api c v [] c v
  | step {events : List Event} {event : Event} {d e : Client} {u start : World (Recorded σ)}
      (before : Session api c v events d u) (kept : start.calls = u.calls)
      (performed : d.Performs api event start e) :
      Session api c v (events ++ [event]) e (d.perform api.recorded event.operation start).2

lemma Session.target_eq (h : Session api c v events d u) : d.target = c.target := by
  induction h with
  | start => rfl
  | step _ _ performed ih =>
    obtain ⟨-, rfl⟩ := performs_iff_dictated.mp performed
    exact ih

lemma Session.event_calls (h : Session api c v events d u) :
    ∀ event ∈ events, event.calls = event.operation.calls c.target := by
  induction h with
  | start => simp
  | step before _ performed ih =>
    obtain ⟨hdictated, -⟩ := performs_iff_dictated.mp performed
    rw [List.forall_mem_append, List.forall_mem_singleton]
    exact ⟨ih, before.target_eq ▸ hdictated.calls_eq⟩

lemma Session.calls_eq (h : Session api c v events d u) :
    u.calls = v.calls ++ events.flatMap Event.calls := by
  induction h with
  | start => simp
  | step _ kept performed ih =>
    rw [performed.called, kept, ih, List.flatMap_append, List.flatMap_singleton,
      List.append_assoc]

lemma Session.log_eq (h : Session api c v events d u) :
    u.calls = v.calls ++ events.flatMap fun event => event.operation.calls c.target := by
  rw [h.calls_eq, List.flatMap_congr h.event_calls]

lemma Session.exists_step (h : Session api c v events d u) (start : World (Recorded σ))
    (kept : start.calls = u.calls) (hdictated : Dictated api c.target start event) :
    ∃ e u', Session api c v (events ++ [event]) e u' :=
  ⟨_, _, h.step kept (performs_iff_dictated.mpr ⟨h.target_eq.symm ▸ hdictated, rfl⟩)⟩

lemma connect_calls {asked nspace : String}
    (h : (connect api.recorded asked nspace).run v = (.ok c, v')) :
    ((api.recorded.resolve asked nspace).run v).1 = .ok c.target ∧
      v'.calls = v.calls ++ [.catalog] := by
  obtain ⟨calls, resolved, hresolution⟩ := exists_resolution asked nspace (api.catalog v.inner).1
  obtain ⟨hresult, hcalls⟩ :=
    connect_yields_iff.mpr ⟨resolved, hresolution.yields, rfl⟩
  rw [h] at hresult hcalls
  cases hresolution with
  | malformed | unsupported | unanswered | notServed => cases hresult
  | resolved slash cut known answered listed =>
    obtain rfl := Except.ok.inj hresult
    exact ⟨(Resolution.resolved slash cut known answered listed).yields.result, hcalls⟩

/-- The target of a client is the one that was resolved when it was built, by the only catalog
query there is. From then on the calls are told by the operations and the target alone, and what
each of them comes to by the answers to its calls. -/
theorem connect_session {asked nspace : String}
    (hconnect : (connect api.recorded asked nspace).run v = (.ok c, v'))
    (hsession : Session api c v' events d u) :
    ((api.recorded.resolve asked nspace).run v).1 = .ok c.target ∧ d.target = c.target ∧
    v'.calls = v.calls ++ [.catalog] ∧
    u.calls = v.calls ++ .catalog ::
      events.flatMap (fun event => event.operation.calls c.target) ∧
    (∀ event ∈ events, event.calls = event.operation.calls c.target ∧ .catalog ∉ event.calls) ∧
    ∀ event (start : World (Recorded σ)) e, d.Performs api event start e ↔
      Dictated api c.target start event ∧ e = ⟨c.target, event.read?.or d.lastSize⟩ := by
  obtain ⟨hresolved, hcatalog⟩ := connect_calls hconnect
  have htarget := hsession.target_eq
  refine ⟨hresolved, htarget, hcatalog, ?_, fun event hevent => ?_, fun event start e => ?_⟩
  · rw [hsession.log_eq, hcatalog, List.append_assoc, List.singleton_append]
  · have hcalls := hsession.event_calls event hevent
    exact ⟨hcalls, hcalls ▸ event.operation.catalog_notMem_calls c.target⟩
  · rw [performs_iff_dictated, htarget]

/-- A client that patches while the cluster accepts patches and while it does not, and then reads
the size. -/
theorem connect_session_patches :
    ∃ c v' d u, (connect Script.controlPlane.recorded ("deployment" ++ "/" ++ "web") "ns1").run
      ⟨⟨deploymentsAs "Deployment", []⟩, []⟩ = (.ok c, v') ∧
      Session Script.controlPlane c v'
        [⟨.update .client .empty, [.patch .deployment "ns1" "web" (c.preview .empty)],
            .updated (.ok ())⟩,
          ⟨.update .scaling .empty, [.patch .deployment "ns1" "web" (c.preview .empty)],
            .updated (.error (.patch "Deployment" "ns1" "web" (Script.unavailable "patch")))⟩,
          ⟨.readSize .client, [.nodes], .size (.ok ⟨0, 0⟩)⟩] d u ∧
      u.calls = [.catalog, .patch .deployment "ns1" "web" (c.preview .empty),
        .patch .deployment "ns1" "web" (c.preview .empty), .nodes] := by
  have hkind : Workload.ofKind? "Deployment" = some .deployment :=
    Workload.ofKind?_kind .deployment
  let c : Client := ⟨⟨"Deployment", "apps/v1", "web", "ns1"⟩, none⟩
  obtain ⟨v', hconnect⟩ : ∃ v', (connect Script.controlPlane.recorded
      ("deployment" ++ "/" ++ "web") "ns1").run ⟨⟨deploymentsAs "Deployment", []⟩, []⟩ =
        (.ok c, v') :=
    connect_deployment "ns1" (by decide) rfl (find?_deploymentsAs "Deployment")
  -- The cluster has another script each time it is asked.
  let scripted (script : Script) (u : World (Recorded Script)) : World (Recorded Script) :=
    ⟨⟨script, u.calls⟩, []⟩
  let failing : Script := { failing := ["patch"] }
  have hstart : Session Script.controlPlane c v' [] c v' := .start
  obtain ⟨_, u, hsession⟩ := hstart.exists_step (scripted {} v') rfl
    (.patched .client .empty hkind rfl)
  obtain ⟨_, u, hsession⟩ := hsession.exists_step (scripted failing u) rfl
    (.refused .scaling .empty hkind rfl)
  obtain ⟨d, u, hsession⟩ := hsession.exists_step (scripted {} u) rfl (.read .client)
  obtain ⟨-, -, -, hlog, -, -⟩ := connect_session hconnect hsession
  refine ⟨c, v', d, u, hconnect, hsession, ?_⟩
  rw [hlog]
  simp [World.calls, Operation.calls, hkind, preview, c]

end WorkloadScaling.Client
