import Mathlib
import WorkloadScaling.Client

/-!
# Runs of a client

What each step of a client returns and leaves behind, as an equation for every control plane and
every world it starts in.
-/
namespace WorkloadScaling

variable {σ : Type}

def World.logged (v : World σ) (lines : List Log.Line) : World σ :=
  { v with log := v.log ++ lines }

lemma Run.bind_apply {α β : Type} (x : Run σ α) (f : α → Run σ β) (v : World σ) :
    (x >>= f) v = f (x v).1 (x v).2 := rfl

namespace Attempt

variable {α β : Type}

@[simp]
lemma run_throw (e : Failure) (v : World σ) :
    (throw e : Attempt σ α).run v = (.error e, v) := rfl

@[simp]
lemma run_pure? (result : Except Failure α) (v : World σ) :
    (pure? result : Attempt σ α).run v = (result, v) := rfl

@[simp]
lemma run_call (context : RemoteFailure → Failure) (act : Run σ (Except RemoteFailure α))
    (v : World σ) :
    (call context act).run v = ((act v).1.mapError context, (act v).2) := rfl

lemma run_bind {ε : Type} (x : ExceptT ε (Run σ) α) (f : α → ExceptT ε (Run σ) β) (v : World σ) :
    (x >>= f).run v =
      match x.run v with
      | (.ok a, v') => (f a).run v'
      | (.error e, v') => (.error e, v') := by
  change (match x.run v with | (r, v') => ExceptT.bindCont f r v') = _
  rcases x.run v with ⟨_ | _, _⟩ <;> rfl

lemma run_bind_eq_ok {x : Attempt σ α} {f : α → Attempt σ β} {v v' : World σ} {b : β} :
    (x >>= f).run v = (.ok b, v') ↔ ∃ a u, x.run v = (.ok a, u) ∧ (f a).run u = (.ok b, v') := by
  rw [run_bind]
  rcases x.run v with ⟨e | a, u⟩
  · constructor
    · intro h
      cases h
    · rintro ⟨_, _, h, -⟩
      cases h
  · constructor
    · intro h
      exact ⟨a, u, rfl, h⟩
    · rintro ⟨_, _, h, hrest⟩
      cases h
      exact hrest

end Attempt

namespace Target

lemma toList_halves (hint name : String) :
    (hint ++ "/" ++ name).toList = hint.toList ++ '/' :: name.toList := by
  simp

theorem halves?_eq_some_iff {s hint name : String} :
    halves? s = some (hint, name) ↔
      s = hint ++ "/" ++ name ∧ '/' ∉ hint.toList ∧ '/' ∉ name.toList := by
  unfold halves?
  constructor
  · intro h
    have hcut := List.takeWhile_append_dropWhile (p := (· ≠ '/')) (l := s.toList)
    cases hrest : s.toList.dropWhile (· ≠ '/') with
    | nil =>
      rw [hrest] at h
      contradiction
    | cons c rest =>
      obtain rfl : '/' = c := by
        have hhead := List.head?_dropWhile_not (· ≠ '/') s.toList
        rw [hrest] at hhead
        exact (by simpa using hhead : c = '/').symm
      simp only [hrest, Option.ite_none_left_eq_some, Option.some.injEq, Prod.mk.injEq] at h
      obtain ⟨hname, rfl, rfl⟩ := h
      refine ⟨?_, ?_, by simpa using hname⟩
      · rw [← String.toList_inj, toList_halves, String.toList_ofList, String.toList_ofList,
          ← hrest, hcut]
      · rw [String.toList_ofList]
        intro hmem
        simpa using List.mem_takeWhile_imp hmem
  · rintro ⟨rfl, hhint, hname⟩
    have hpos : ∀ c ∈ hint.toList, decide (c ≠ '/') = true := by
      intro c hc
      exact decide_eq_true fun he => hhint (he ▸ hc)
    simp only [toList_halves, List.takeWhile_append_of_pos hpos, List.dropWhile_append_of_pos hpos]
    simp [hname]

/-- A text is cut in two exactly at its only slash. -/
theorem halves?_eq_some_iff_count {s hint name : String} :
    halves? s = some (hint, name) ↔ s.toList.count '/' = 1 ∧ s = hint ++ "/" ++ name := by
  rw [halves?_eq_some_iff]
  constructor
  · rintro ⟨rfl, hhint, hname⟩
    refine ⟨?_, rfl⟩
    rw [toList_halves, List.count_append, List.count_cons_self, List.count_eq_zero.mpr hhint,
      List.count_eq_zero.mpr hname]
  · rintro ⟨hcount, rfl⟩
    rw [toList_halves, List.count_append, List.count_cons_self] at hcount
    refine ⟨rfl, List.count_eq_zero.mp ?_, List.count_eq_zero.mp ?_⟩ <;> omega

theorem halves?_eq_none_iff {s : String} : halves? s = none ↔ s.toList.count '/' ≠ 1 := by
  constructor
  · intro h hcount
    have hmem : '/' ∈ s.toList := List.count_pos_iff.mp (by omega)
    obtain ⟨hint, name, hcut, -⟩ := List.eq_append_cons_of_mem hmem
    have hs : s = String.ofList hint ++ "/" ++ String.ofList name := by
      rw [← String.toList_inj, toList_halves, String.toList_ofList, String.toList_ofList, hcut]
    rw [halves?_eq_some_iff_count.mpr ⟨hcount, hs⟩] at h
    contradiction
  · intro h
    rw [Option.eq_none_iff_forall_ne_some]
    rintro ⟨hint, name⟩ hhalves
    exact h (halves?_eq_some_iff_count.mp hhalves).1

lemma halves?_join {hint name k n : String} (h : halves? (hint ++ "/" ++ name) = some (k, n)) :
    k = hint ∧ n = name := by
  obtain ⟨heq, hk, hn⟩ := halves?_eq_some_iff.mp h
  rw [← String.toList_inj, toList_halves, toList_halves, eq_comm,
    List.append_cons_inj_of_notMem hk hn] at heq
  exact ⟨String.toList_inj.mp heq.1, String.toList_inj.mp heq.2.2⟩

end Target

namespace ControlPlane

variable {api : ControlPlane σ}

lemma discover_of_unsupported {hint : String} (v : World σ) (h : Workload.ofKind? hint = none) :
    (api.discover hint).run v = (.error (.unsupportedKind hint), v) := by
  simp [discover, Workload.ofKind?_eq_none_iff.mp h, Attempt.run_bind]

lemma discover_of_failed {hint : String} {w : Workload} {v v' : World σ} {e : RemoteFailure}
    (h : Workload.ofKind? hint = some w) (hcatalog : api.catalog v = (.error e, v')) :
    (api.discover hint).run v = (.error (.discovery w.kind e), v') := by
  simp [discover, Workload.ofKind?_eq_some_iff.mp h, Attempt.run_bind, hcatalog, Except.mapError]

lemma discover_of_answered {hint : String} {w : Workload} {v v' : World σ} {catalog : Catalog}
    (h : Workload.ofKind? hint = some w) (hcatalog : api.catalog v = (.ok catalog, v')) :
    (api.discover hint).run v =
      (match catalog.find? w with
        | some served => .ok served
        | none => .error (.kindNotServed w.kind w.plural),
        v'.logged (catalog.searchLog w)) := by
  simp only [discover, Workload.ofKind?_eq_some_iff.mp h, Attempt.run_bind, Attempt.run_pure?,
    Attempt.run_call, hcatalog, Except.mapError]
  cases catalog.find? w <;> rfl

lemma discover_eq_ok {hint : String} {v v' : World σ} {served : Served}
    (h : (api.discover hint).run v = (.ok served, v')) :
    ∃ w catalog u, Workload.ofKind? hint = some w ∧ api.catalog v = (.ok catalog, u) ∧
      catalog.find? w = some served ∧ v' = u.logged (catalog.searchLog w) := by
  cases hhint : Workload.ofKind? hint with
  | none =>
    rw [discover_of_unsupported v hhint] at h
    cases h
  | some w =>
    rcases hcatalog : api.catalog v with ⟨e | catalog, u⟩
    · rw [discover_of_failed hhint hcatalog] at h
      cases h
    · rw [discover_of_answered hhint hcatalog] at h
      cases hfind : catalog.find? w with
      | none =>
        rw [hfind] at h
        cases h
      | some found =>
        rw [hfind] at h
        cases h
        exact ⟨w, catalog, u, rfl, rfl, hfind, rfl⟩

lemma resolve_of_malformed {asked nspace : String} (v : World σ)
    (h : Target.halves? asked = none) :
    (api.resolve asked nspace).run v = (.error (.targetFormat asked), v) := by
  simp [resolve, h]

lemma resolve_of_halves {asked nspace hint name : String} (v : World σ)
    (h : Target.halves? asked = some (hint, name)) :
    (api.resolve asked nspace).run v =
      match (api.discover hint).run v with
      | (.ok served, u) => (.ok ⟨served.kind, served.groupVersion, name, nspace⟩,
          u.logged [⟨.debug, "discovered target " ++ asked ++ " = " ++ served.groupVersion ++ "." ++
            served.kind, []⟩])
      | (.error e, u) => (.error e, u) := by
  simp only [resolve, h, Attempt.run_bind]
  rcases (api.discover hint).run v with ⟨_ | _, _⟩ <;> rfl

lemma resolve_eq_ok {asked nspace : String} {v v' : World σ} {t : Target}
    (h : (api.resolve asked nspace).run v = (.ok t, v')) :
    ∃ hint name served u, Target.halves? asked = some (hint, name) ∧
      (api.discover hint).run v = (.ok served, u) ∧
        t = ⟨served.kind, served.groupVersion, name, nspace⟩ := by
  cases hhalves : Target.halves? asked with
  | none =>
    simp only [resolve, hhalves] at h
    cases h
  | some halves =>
    obtain ⟨hint, name⟩ := halves
    simp only [resolve, hhalves] at h
    obtain ⟨served, u, hdiscover, h⟩ := Attempt.run_bind_eq_ok.mp h
    cases h
    exact ⟨hint, name, served, u, rfl, hdiscover, rfl⟩

lemma update_of_unknown {t : Target} (resources : Resources) (v : World σ)
    (h : t.workload? = none) :
    (api.update t resources).run v = (.error (.unknownTargetKind t.kind), v) := by
  simp [update, h]

lemma update_of_known {t : Target} {w : Workload} (resources : Resources) (v : World σ)
    (h : t.workload? = some w) :
    (api.update t resources).run v =
      match api.patch w t.nspace t.name (resourcePatch t resources) v with
      | (.ok _, v') => (.ok (), v'.logged [⟨.info, "patched resources of " ++
          toString resources.size ++ " container(s) in " ++ t.display, []⟩])
      | (.error e, v') => (.error (.patch w.kind t.nspace t.name e), v') := by
  simp only [update, h, Attempt.run_bind, Attempt.run_call]
  rcases api.patch w t.nspace t.name (resourcePatch t resources) v with ⟨_ | _, _⟩ <;> rfl

lemma update_remote {t : Target} {w : Workload} (resources : Resources) (v : World σ)
    (h : t.workload? = some w) :
    ((api.update t resources).run v).2.remote =
      (api.patch w t.nspace t.name (resourcePatch t resources) v).2.remote := by
  rw [update_of_known resources v h]
  rcases api.patch w t.nspace t.name (resourcePatch t resources) v with ⟨_ | _, _⟩
  · rfl
  · rfl

end ControlPlane

namespace Client

variable {api : ControlPlane σ}

lemma connect_apply (asked nspace : String) (v : World σ) :
    (connect api asked nspace).run v =
      match (api.resolve asked nspace).run v with
      | (.ok t, u) => (.ok ⟨t, none⟩, u.logged [⟨.info, "scaling target is " ++ t.display, []⟩])
      | (.error e, u) => (.error e, u) := by
  simp only [connect, Attempt.run_bind]
  rcases (api.resolve asked nspace).run v with ⟨_ | _, _⟩ <;> rfl

lemma connect_eq_ok {asked nspace : String} {v v' : World σ} {c : Client}
    (h : (connect api asked nspace).run v = (.ok c, v')) :
    ∃ hint name w catalog u served, Target.halves? asked = some (hint, name) ∧
      Workload.ofKind? hint = some w ∧ api.catalog v = (.ok catalog, u) ∧
      catalog.find? w = some served ∧
      c = ⟨⟨served.kind, served.groupVersion, name, nspace⟩, none⟩ := by
  obtain ⟨t, _, hresolve, h⟩ := Attempt.run_bind_eq_ok.mp h
  cases h
  obtain ⟨hint, name, served, _, hhalves, hdiscover, rfl⟩ := ControlPlane.resolve_eq_ok hresolve
  obtain ⟨w, catalog, u, hhint, hcatalog, hfind, -⟩ := ControlPlane.discover_eq_ok hdiscover
  exact ⟨hint, name, w, catalog, u, served, hhalves, hhint, hcatalog, hfind, rfl⟩

/-- Whatever kind the catalog gives to the plural that was searched for, the client is built. -/
lemma connect_of_served {asked hint name : String} {w : Workload} {v u : World σ}
    {catalog : Catalog} {served : Served} (nspace : String)
    (hasked : Target.halves? asked = some (hint, name)) (hhint : Workload.ofKind? hint = some w)
    (hcatalog : api.catalog v = (.ok catalog, u)) (hfind : catalog.find? w = some served) :
    ∃ v', (connect api asked nspace).run v =
      (.ok ⟨⟨served.kind, served.groupVersion, name, nspace⟩, none⟩, v') := by
  have hdiscover := ControlPlane.discover_of_answered hhint hcatalog
  rw [hfind] at hdiscover
  have hresolve : ∃ v', (api.resolve asked nspace).run v =
      (.ok ⟨served.kind, served.groupVersion, name, nspace⟩, v') := by
    simp only [ControlPlane.resolve, hasked]
    exact ⟨_, Attempt.run_bind_eq_ok.mpr ⟨_, _, hdiscover, rfl⟩⟩
  obtain ⟨v', hresolve⟩ := hresolve
  exact ⟨_, Attempt.run_bind_eq_ok.mpr ⟨_, _, hresolve, rfl⟩⟩

lemma connect_deployment {name : String} {v u : World σ} {catalog : Catalog} {served : Served}
    (nspace : String) (hname : '/' ∉ name.toList) (hcatalog : api.catalog v = (.ok catalog, u))
    (hfind : catalog.find? .deployment = some served) :
    ∃ v', (connect api ("deployment" ++ "/" ++ name) nspace).run v =
      (.ok ⟨⟨served.kind, served.groupVersion, name, nspace⟩, none⟩, v') := by
  have hhalves : Target.halves? ("deployment" ++ "/" ++ name) = some ("deployment", name) :=
    Target.halves?_eq_some_iff.mpr ⟨rfl, by decide, hname⟩
  have hhint : Workload.ofKind? "deployment" = some .deployment := by decide +kernel
  exact connect_of_served nspace hhalves hhint hcatalog hfind

lemma readSize_apply (c : Client) (v : World σ) :
    readSize api c v =
      match api.readSize.run v with
      | (.ok size, v') => ((.ok size, { c with lastSize := some size }), v')
      | (.error e, v') => ((.error e, c), v') := by
  rw [readSize, Run.bind_apply]
  rcases api.readSize.run v with ⟨_ | _, _⟩ <;> rfl

/-- What a client may have become: reading the size is all that changes one. The cluster may
change in any way between the readings. -/
inductive Later (api : ControlPlane σ) (c : Client) : Client → Prop
  | same : Later api c c
  | read {d e : Client} {v v' : World σ} {r : Except Failure ClusterSize}
      (before : Later api c d) (ran : readSize api d v = ((r, e), v')) : Later api c e

lemma readSize_target {c d : Client} {v v' : World σ} {r : Except Failure ClusterSize}
    (h : readSize api c v = ((r, d), v')) : d.target = c.target := by
  rw [readSize_apply] at h
  rcases hread : api.readSize.run v with ⟨_ | _, _⟩
  · rw [hread] at h
    cases h
    rfl
  · rw [hread] at h
    cases h
    rfl

lemma Later.target_eq {c d : Client} (h : Later api c d) : d.target = c.target := by
  induction h with
  | same => rfl
  | read _ ran ih => rw [readSize_target ran, ih]

end Client

end WorkloadScaling
