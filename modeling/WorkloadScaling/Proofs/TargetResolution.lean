import Mathlib
import WorkloadScaling.ControlPlane.Scripted
import WorkloadScaling.Proofs.CatalogSearch
import WorkloadScaling.Proofs.RecordedCalls

/-!
# How a target is resolved

A text is cut at its only slash, its kind is looked up, the catalog is asked for once, and the
first resource of the kind's plural name decides. The first of these steps that fails decides
the failure, and the catalog is not asked for before a kind is known.
-/
namespace WorkloadScaling

open Attempt (Yields)

/-- What comes of asking for a target, and the calls that it takes. The answer is the one that
the cluster has for a catalog query, if it gets one. -/
inductive Resolution (asked nspace : String) (answer : Except RemoteFailure Catalog) :
    List Call → Except Failure Target → Prop
  | malformed (slashes : asked.toList.count '/' ≠ 1) :
      Resolution asked nspace answer [] (.error (.targetFormat asked))
  | unsupported {hint name : String} (slash : asked.toList.count '/' = 1)
      (cut : asked = hint ++ "/" ++ name) (unknown : Workload.ofKind? hint = none) :
      Resolution asked nspace answer [] (.error (.unsupportedKind hint))
  | unanswered {hint name : String} {w : Workload} {e : RemoteFailure}
      (slash : asked.toList.count '/' = 1) (cut : asked = hint ++ "/" ++ name)
      (known : Workload.ofKind? hint = some w) (failed : answer = .error e) :
      Resolution asked nspace answer [.catalog] (.error (.discovery w.kind e))
  | notServed {hint name : String} {w : Workload} {catalog : Catalog}
      (slash : asked.toList.count '/' = 1) (cut : asked = hint ++ "/" ++ name)
      (known : Workload.ofKind? hint = some w) (answered : answer = .ok catalog)
      (unlisted : ∀ list ∈ catalog, ¬list.Names w.plural) :
      Resolution asked nspace answer [.catalog] (.error (.kindNotServed w.kind w.plural))
  | resolved {hint name : String} {w : Workload} {catalog : Catalog} {served : Served}
      (slash : asked.toList.count '/' = 1) (cut : asked = hint ++ "/" ++ name)
      (known : Workload.ofKind? hint = some w) (answered : answer = .ok catalog)
      (listed : catalog.Serves w.plural served) :
      Resolution asked nspace answer [.catalog]
        (.ok ⟨served.kind, served.groupVersion, name, nspace⟩)

variable {σ : Type} {asked nspace : String}

lemma exists_resolution (asked nspace : String) (answer : Except RemoteFailure Catalog) :
    ∃ calls result, Resolution asked nspace answer calls result := by
  cases hhalves : Target.halves? asked with
  | none => exact ⟨_, _, .malformed (Target.halves?_eq_none_iff.mp hhalves)⟩
  | some halves =>
    obtain ⟨hint, name⟩ := halves
    obtain ⟨hslash, hcut⟩ := Target.halves?_eq_some_iff_count.mp hhalves
    cases hkind : Workload.ofKind? hint with
    | none => exact ⟨_, _, .unsupported hslash hcut hkind⟩
    | some w =>
      cases hanswer : answer with
      | error e => exact ⟨_, _, .unanswered hslash hcut hkind rfl⟩
      | ok catalog =>
        cases hfind : catalog.find? w with
        | none => exact ⟨_, _, .notServed hslash hcut hkind rfl (Catalog.find?_eq_none_iff.mp hfind)⟩
        | some served =>
          exact ⟨_, _, .resolved hslash hcut hkind rfl (Catalog.find?_eq_some_iff.mp hfind)⟩

namespace ControlPlane

variable {api : ControlPlane σ} {v : World (Recorded σ)} {hint name : String} {w : Workload}

lemma discover_yields_of_failed {e : RemoteFailure} (h : Workload.ofKind? hint = some w)
    (hanswer : (api.catalog v.inner).1 = .error e) :
    (api.recorded.discover hint).Yields v [.catalog] (.error (.discovery w.kind e)) :=
  .of_run (discover_of_failed h (Prod.ext hanswer rfl)) (api.recorded_catalog_calls v)

lemma discover_yields_of_answered {catalog : Catalog} (h : Workload.ofKind? hint = some w)
    (hanswer : (api.catalog v.inner).1 = .ok catalog) :
    (api.recorded.discover hint).Yields v [.catalog]
      (match catalog.find? w with
        | some served => .ok served
        | none => .error (.kindNotServed w.kind w.plural)) :=
  .of_run (discover_of_answered h (Prod.ext hanswer rfl)) (api.recorded_catalog_calls v)

lemma resolve_yields_of_halves {calls : List Call} {found : Except Failure Served}
    (hslash : asked.toList.count '/' = 1) (hcut : asked = hint ++ "/" ++ name)
    (h : (api.recorded.discover hint).Yields v calls found) :
    (api.recorded.resolve asked nspace).Yields v calls
      (found.map fun served => ⟨served.kind, served.groupVersion, name, nspace⟩) := by
  obtain ⟨hresult, hcalls⟩ := h
  have hresolve : (api.recorded.resolve asked nspace).run v = _ :=
    resolve_of_halves v (Target.halves?_eq_some_iff_count.mpr ⟨hslash, hcut⟩)
  rcases hrun : (api.recorded.discover hint).run v with ⟨r, u⟩
  rw [hrun] at hresolve hresult hcalls
  cases hresult
  cases r with
  | error e => exact .of_run hresolve hcalls
  | ok served => exact .of_run hresolve hcalls

end ControlPlane

lemma Resolution.yields {api : ControlPlane σ} {v : World (Recorded σ)} {calls : List Call}
    {result : Except Failure Target}
    (h : Resolution asked nspace (api.catalog v.inner).1 calls result) :
    (api.recorded.resolve asked nspace).Yields v calls result := by
  cases h with
  | malformed slashes =>
    exact .of_quiet (ControlPlane.resolve_of_malformed v (Target.halves?_eq_none_iff.mpr slashes))
  | unsupported slash cut unknown =>
    exact ControlPlane.resolve_yields_of_halves slash cut
      (.of_quiet (ControlPlane.discover_of_unsupported v unknown))
  | unanswered slash cut known failed =>
    exact ControlPlane.resolve_yields_of_halves slash cut
      (ControlPlane.discover_yields_of_failed known failed)
  | notServed slash cut known answered unlisted =>
    have hdiscover := ControlPlane.discover_yields_of_answered known answered
    rw [Catalog.find?_eq_none_iff.mpr unlisted] at hdiscover
    exact ControlPlane.resolve_yields_of_halves slash cut hdiscover
  | resolved slash cut known answered listed =>
    have hdiscover := ControlPlane.discover_yields_of_answered known answered
    rw [Catalog.find?_eq_some_iff.mpr listed] at hdiscover
    exact ControlPlane.resolve_yields_of_halves slash cut hdiscover

lemma resolution_of_yields {api : ControlPlane σ} {v : World (Recorded σ)} {calls : List Call}
    {result : Except Failure Target}
    (h : (api.recorded.resolve asked nspace).Yields v calls result) :
    Resolution asked nspace (api.catalog v.inner).1 calls result := by
  obtain ⟨calls', result', hresolution⟩ := exists_resolution asked nspace (api.catalog v.inner).1
  obtain ⟨rfl, rfl⟩ := h.unique hresolution.yields
  exact hresolution

lemma Client.connect_yields_iff {api : ControlPlane σ} {v : World (Recorded σ)}
    {calls : List Call} {result : Except Failure Client} :
    (connect api.recorded asked nspace).Yields v calls result ↔
      ∃ resolved, (api.recorded.resolve asked nspace).Yields v calls resolved ∧
        result = resolved.map (⟨·, none⟩) := by
  have hconnect : (connect api.recorded asked nspace).run v = _ := connect_apply asked nspace v
  rcases hrun : (api.recorded.resolve asked nspace).run v with ⟨_ | t, u⟩
  all_goals
    rw [hrun] at hconnect
    constructor
    · rintro ⟨hresult, hcalls⟩
      rw [hconnect] at hresult hcalls
      exact ⟨_, .of_run hrun hcalls, hresult.symm⟩
    · rintro ⟨_, ⟨hresult, hcalls⟩, rfl⟩
      rw [hrun] at hresult hcalls
      cases hresult
      exact .of_run hconnect hcalls

lemma Resolution.of_agreeUpTo {hint name : String} {w : Workload} {catalog catalog' : Catalog}
    {calls : List Call} {result : Except Failure Target} (hcut : asked = hint ++ "/" ++ name)
    (hknown : Workload.ofKind? hint = some w) (hagree : Catalog.AgreeUpTo w.plural catalog catalog')
    (h : Resolution asked nspace (.ok catalog) calls result) :
    Resolution asked nspace (.ok catalog') calls result := by
  have hhint : ∀ {hint' name' : String}, asked.toList.count '/' = 1 →
      asked = hint' ++ "/" ++ name' → hint' = hint := by
    intro hint' name' hslash hcut'
    have hhalves := Target.halves?_eq_some_iff_count.mpr ⟨hslash, hcut'⟩
    rw [hcut] at hhalves
    exact (Target.halves?_join hhalves).1
  have hfind := Catalog.find?_eq_of_agreeUpTo hagree
  cases h with
  | malformed slashes => exact .malformed slashes
  | unsupported slash cut unknown => exact .unsupported slash cut unknown
  | unanswered _ _ _ failed => cases failed
  | notServed slash cut known answered unlisted =>
    cases answered
    obtain rfl := hhint slash cut
    obtain rfl := Option.some.inj (hknown.symm.trans known)
    exact .notServed slash cut known rfl
      (Catalog.find?_eq_none_iff.mp (hfind ▸ Catalog.find?_eq_none_iff.mpr unlisted))
  | resolved slash cut known answered listed =>
    cases answered
    obtain rfl := hhint slash cut
    obtain rfl := Option.some.inj (hknown.symm.trans known)
    exact .resolved slash cut known rfl
      (Catalog.find?_eq_some_iff.mp (hfind ▸ Catalog.find?_eq_some_iff.mpr listed))

lemma Resolution.append {catalog : Catalog} {calls : List Call} {t : Target}
    (h : Resolution asked nspace (.ok catalog) calls (.ok t)) (more : Catalog) :
    Resolution asked nspace (.ok (catalog ++ more)) calls (.ok t) := by
  cases h with
  | resolved slash cut known answered listed =>
    cases answered
    exact Resolution.of_agreeUpTo cut known (listed.agreeUpTo_append more)
      (.resolved slash cut known rfl listed)

/-- A target is resolved as its text and the catalog decide, and a client is built for it with no
further call. Nothing behind the first resource of the kind's name has a part in it. -/
theorem ControlPlane.resolve_yields_iff (asked nspace : String) :
    (∀ (api : ControlPlane σ) v calls result,
      (api.recorded.resolve asked nspace).Yields v calls result ↔
        Resolution asked nspace (api.catalog v.inner).1 calls result) ∧
    (∀ (api : ControlPlane σ) v calls result,
      (Client.connect api.recorded asked nspace).Yields v calls result ↔
        ∃ resolved, Resolution asked nspace (api.catalog v.inner).1 calls resolved ∧
          result = resolved.map (⟨·, none⟩)) ∧
    ∀ (api api' : ControlPlane σ) v v' catalog catalog',
      (api.catalog v.inner).1 = .ok catalog → (api'.catalog v'.inner).1 = .ok catalog' →
      (∀ hint name w, asked = hint ++ "/" ++ name → Workload.ofKind? hint = some w →
        Catalog.AgreeUpTo w.plural catalog catalog' → ∀ calls result,
          (api.recorded.resolve asked nspace).Yields v calls result ↔
            (api'.recorded.resolve asked nspace).Yields v' calls result) ∧
      ∀ more, catalog' = catalog ++ more → ∀ calls t,
        (api.recorded.resolve asked nspace).Yields v calls (.ok t) →
          (api'.recorded.resolve asked nspace).Yields v' calls (.ok t) := by
  have hresolve : ∀ (api : ControlPlane σ) v calls result,
      (api.recorded.resolve asked nspace).Yields v calls result ↔
        Resolution asked nspace (api.catalog v.inner).1 calls result :=
    fun _ _ _ _ => ⟨resolution_of_yields, Resolution.yields⟩
  refine ⟨hresolve, fun api v calls result => ?_, ?_⟩
  · rw [Client.connect_yields_iff]
    exact exists_congr fun resolved => and_congr_left fun _ => hresolve api v calls resolved
  · intro api api' v v' catalog catalog' hanswer hanswer'
    simp only [hresolve, hanswer, hanswer']
    constructor
    · intro hint name w hcut hknown hagree calls result
      exact ⟨Resolution.of_agreeUpTo hcut hknown hagree,
        Resolution.of_agreeUpTo hcut hknown hagree.symm⟩
    · rintro more rfl calls t h
      exact h.append more

/-- Deployments are listed twice, and the first list that has them counts. -/
theorem ControlPlane.resolve_yields_deployment :
    let catalog : Catalog := [⟨"v1", [⟨"pods", "Pod", true⟩]⟩,
      ⟨"apps/v1", [⟨"daemonsets", "DaemonSet", true⟩, ⟨"deployments", "Deployment", true⟩]⟩,
      ⟨"extensions/v1beta1", [⟨"deployments", "Deployment", true⟩]⟩]
    let world : World (Recorded Script) := ⟨⟨{ catalog }, []⟩, []⟩
    let t : Target := ⟨"Deployment", "apps/v1", "web", "ns1"⟩
    (Script.controlPlane.recorded.resolve "Deployment/web" "ns1").Yields world [.catalog] (.ok t) ∧
      (Client.connect Script.controlPlane.recorded "Deployment/web" "ns1").Yields world [.catalog]
        (.ok ⟨t, none⟩) := by
  intro catalog world t
  have hserves : catalog.Serves Workload.deployment.plural ⟨"Deployment", "apps/v1"⟩ :=
    Catalog.find?_eq_some_iff.mp (by decide)
  have hresolution : Resolution "Deployment/web" "ns1" (Script.controlPlane.catalog world.inner).1
      [.catalog] (.ok t) :=
    .resolved (by decide) (by decide) (Workload.ofKind?_kind .deployment) rfl hserves
  obtain ⟨hresolve, hconnect, -⟩ := @resolve_yields_iff Script "Deployment/web" "ns1"
  exact ⟨(hresolve Script.controlPlane world _ _).mpr hresolution,
    (hconnect Script.controlPlane world _ _).mpr ⟨_, hresolution, rfl⟩⟩

end WorkloadScaling
