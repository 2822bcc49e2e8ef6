import Mathlib
import WorkloadScaling.ControlPlane.Scripted
import WorkloadScaling.Proofs.ClientRun

/-!
# The kind that is patched

A target is found by the plural of the kind that was asked for, and is patched by the kind text
that the catalog has for it. The two name one workload only if the catalog makes them.
-/
namespace WorkloadScaling.Client

variable {σ : Type} {api : ControlPlane σ}

/-- Every later update knows the kind of its target, and patches workloads of one kind only. -/
structure Patches (api : ControlPlane σ) (c : Client) (w : Workload) : Prop where
  known : ∀ d, Later api c d → ∀ resources v kind,
    (update api d resources v).1 ≠ .error (.unknownTargetKind kind)
  only : ∀ d, Later api c d → ∀ resources (v : World (Recorded σ)), ∃ calls,
    (update api.recorded d resources v).2.remote.calls = v.remote.calls ++ calls ∧
      ∀ k nspace name document, .patch k nspace name document ∈ calls → k = w

lemma update_recorded {c : Client} {w : Workload} (resources : Resources)
    (v : World (Recorded σ)) (h : c.target.workload? = some w) :
    (update api.recorded c resources v).2.remote.calls = v.remote.calls ++
      [.patch w c.target.nspace c.target.name (resourcePatch c.target resources)] := by
  rw [update, ControlPlane.update_remote resources v h]
  rfl

lemma update_ne_unknown {c : Client} {w : Workload} (resources : Resources) (v : World σ)
    (kind : String) (h : c.target.workload? = some w) :
    (update api c resources v).1 ≠ .error (.unknownTargetKind kind) := by
  rw [update, ControlPlane.update_of_known resources v h]
  rcases api.patch w c.target.nspace c.target.name (resourcePatch c.target resources) v
    with ⟨_ | _, _⟩
  · intro he
    cases he
  · intro he
    cases he

theorem patches_iff {c : Client} {w : Workload} (v : World σ) :
    Patches api c w ↔ c.target.workload? = some w := by
  constructor
  · rintro ⟨hknown, honly⟩
    cases hworkload : c.target.workload? with
    | none =>
      have hupdate : update api c .empty v = _ := ControlPlane.update_of_unknown .empty v hworkload
      exact absurd (congrArg Prod.fst hupdate) (hknown c .same _ _ _)
    | some k =>
      let start : World (Recorded σ) := ⟨⟨v.remote, []⟩, v.log⟩
      obtain ⟨calls, hcalls, hall⟩ := honly c .same .empty start
      rw [update_recorded .empty start hworkload] at hcalls
      have hmem := List.append_cancel_left hcalls ▸ List.mem_singleton_self _
      rw [hall _ _ _ _ hmem]
  · intro h
    constructor
    · intro d hd resources v kind
      exact update_ne_unknown resources v kind (hd.target_eq ▸ h)
    · intro d hd resources v
      refine ⟨_, update_recorded resources v (hd.target_eq ▸ h), fun k nspace name document hk => ?_⟩
      cases List.mem_singleton.mp hk
      rfl

/-- A client that was built patches the kind that was asked for if and only if the catalog gives
that kind to the plural by which it was found. -/
theorem connect_patches_iff {hint name nspace : String} {v v' : World σ} {c : Client}
    (h : (connect api (hint ++ "/" ++ name) nspace).run v = (.ok c, v')) :
    ∃ w catalog u served, Workload.ofKind? hint = some w ∧ api.catalog v = (.ok catalog, u) ∧
      catalog.find? w = some served ∧
      c.target = ⟨served.kind, served.groupVersion, name, nspace⟩ ∧
      (c.target.workload? = some w ↔ Workload.ofKind? served.kind = some w) ∧
      (Patches api c w ↔ Workload.ofKind? served.kind = some w) := by
  obtain ⟨hint', name', w, catalog, u, served, hhalves, hhint, hcatalog, hfind, rfl⟩ :=
    connect_eq_ok h
  obtain ⟨rfl, rfl⟩ := Target.halves?_join hhalves
  exact ⟨w, catalog, u, served, hhint, hcatalog, hfind, rfl, Iff.rfl, patches_iff v⟩

def deploymentsAs (kind : String) : Script where
  catalog := [⟨"apps/v1", [⟨"deployments", kind, true⟩]⟩]

lemma find?_deploymentsAs (kind : String) :
    (deploymentsAs kind).catalog.find? .deployment = some ⟨kind, "apps/v1"⟩ := by
  simp [deploymentsAs, Catalog.find?, ResourceList.find?, Workload.plural]

lemma connect_deploymentsAs (kind : String) :
    ∃ v', (connect Script.controlPlane ("deployment" ++ "/" ++ "web") "ns1").run
      ⟨deploymentsAs kind, []⟩ = (.ok ⟨⟨kind, "apps/v1", "web", "ns1"⟩, none⟩, v') :=
  connect_deployment "ns1" (by decide) rfl (find?_deploymentsAs kind)

theorem connect_patches_deployment :
    ∃ c v', (connect Script.controlPlane ("deployment" ++ "/" ++ "web") "ns1").run
      ⟨deploymentsAs "Deployment", []⟩ = (.ok c, v') ∧
      Patches Script.controlPlane c .deployment := by
  obtain ⟨v', h⟩ := connect_deploymentsAs "Deployment"
  obtain ⟨w, _, _, served, hhint, -, -, htarget, -, hiff⟩ := connect_patches_iff h
  have hasked : Workload.ofKind? "deployment" = some .deployment := by decide +kernel
  obtain rfl := Option.some.inj (hasked.symm.trans hhint)
  obtain ⟨hkind, -⟩ := Target.mk.inj htarget
  exact ⟨_, v', h, hiff.mpr (hkind ▸ Workload.ofKind?_kind .deployment)⟩

/-- A client that was asked for a deployment and patches daemon sets. -/
theorem connect_patches_daemonSet :
    ∃ c v', (connect Script.controlPlane ("deployment" ++ "/" ++ "web") "ns1").run
      ⟨deploymentsAs "DaemonSet", []⟩ = (.ok c, v') ∧
      Workload.ofKind? "deployment" = some .deployment ∧
      c.target.workload? = some .daemonSet ∧ ¬Patches Script.controlPlane c .deployment := by
  obtain ⟨v', h⟩ := connect_deploymentsAs "DaemonSet"
  refine ⟨_, v', h, by decide +kernel, Workload.ofKind?_kind .daemonSet, fun hpatches => ?_⟩
  have hkind := (patches_iff ⟨deploymentsAs "DaemonSet", []⟩).mp hpatches
  have hdaemon : Workload.ofKind? "DaemonSet" = some .daemonSet := Workload.ofKind?_kind .daemonSet
  rw [Target.workload?, hdaemon] at hkind
  contradiction

end WorkloadScaling.Client
