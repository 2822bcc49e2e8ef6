import Mathlib
import WorkloadScaling.Proofs.ClientRun
import WorkloadScaling.Proofs.DocumentParts
import WorkloadScaling.Proofs.RequirementsDocument

/-!
# The document of a patch

A patch says of a workload what it is called and what its containers ask for. What the server
would merge is all there and nothing besides, so the resources can be read off it again.
-/
namespace WorkloadScaling

namespace Json

/-- An object with exactly these fields: each stands there once, and their names ascend. -/
structure HasExactly (v : Json) (fields : List (String × Json)) : Prop where
  eq_object : v = .object fields
  ascending : (fields.map Prod.fst).Pairwise (· < ·)

def ShowsClaims (names : List String) (v : Json) : Prop :=
  ∃ items, v = .array items ∧
    List.Forall₂ (fun name (item : Json) => item.HasExactly [("name", .string name)]) names items

def ShowsQuantities (m : NameMap String) (v : Json) : Prop :=
  v.HasExactly (m.entries.map fun (name, quantity) => (name, .string quantity))

def ShowsRequirements (r : Requirements) (v : Json) : Prop :=
  ∃ claims limits requests : Option Json,
    v.HasExactly ([("claims", claims), ("limits", limits), ("requests", requests)].filterMap
      fun (name, part) => part.map fun shown => (name, shown)) ∧
    Option.Rel ShowsClaims r.claims claims ∧ Option.Rel ShowsQuantities r.limits limits ∧
    Option.Rel ShowsQuantities r.requests requests

def ShowsContainer (entry : String × Requirements) (v : Json) : Prop :=
  ∃ shown : Json, v.HasExactly [("name", .string entry.1), ("resources", shown)] ∧
    shown.ShowsRequirements entry.2

/-- A document that says nothing of a workload but which one it is and what its containers are. -/
def ShowsPatch (t : Target) (containers : List Json) (v : Json) : Prop :=
  ∃ metadata spec template podSpec : Json,
    v.HasExactly [("apiVersion", .string t.groupVersion), ("kind", .string t.kind),
      ("metadata", metadata), ("spec", spec)] ∧
    metadata.HasExactly [("name", .string t.name)] ∧
    spec.HasExactly [("template", template)] ∧
    template.HasExactly [("spec", podSpec)] ∧
    podSpec.HasExactly [("containers", .array containers)]

def NamedBefore (v v' : Json) : Prop :=
  ∃ name name', v.textAt? "name" = some name ∧ v'.textAt? "name" = some name' ∧ name < name'

def container? (v : Json) : Option (String × Requirements) := do
  some (← v.textAt? "name", ← Requirements.ofDocument? (← v.member? "resources"))

end Json

def Resources.ofPatch? (v : Json) : Option Resources := do
  let podSpec ← (← (← v.member? "spec").member? "template").member? "spec"
  let containers ← Document.items? (← podSpec.member? "containers")
  some (.ofList (← containers.mapM Json.container?))

namespace Json

lemma hasExactly_iff {fields : List (String × Json)}
    (hnames : (fields.map Prod.fst).Pairwise (· < ·)) (v : Json) :
    v.HasExactly fields ↔ v = .object fields :=
  ⟨HasExactly.eq_object, fun h => ⟨h, hnames⟩⟩

lemma hasExactly_singleton_iff (name : String) (value v : Json) :
    v.HasExactly [(name, value)] ↔ v = .object [(name, value)] :=
  hasExactly_iff (List.pairwise_singleton _ _) v

lemma showsClaims_iff (names : List String) (v : Json) :
    v.ShowsClaims names ↔ v = .array (names.map Requirements.claimToJson) := by
  have hclaim : ∀ (name : String) (item : Json),
      item.HasExactly [("name", .string name)] ↔ item = Requirements.claimToJson name :=
    fun name => hasExactly_singleton_iff "name" (.string name)
  simp only [ShowsClaims, forall₂_iff_eq_map hclaim]
  constructor
  · rintro ⟨_, rfl, rfl⟩
    rfl
  · rintro rfl
    exact ⟨_, rfl, rfl⟩

lemma showsQuantities_iff (m : NameMap String) (v : Json) :
    v.ShowsQuantities m ↔ v = Requirements.quantitiesToJson m :=
  hasExactly_iff (Requirements.names_quantities m ▸ m.ascending) v

lemma showsRequirements_iff (r : Requirements) (v : Json) :
    v.ShowsRequirements r ↔ v = r.toJson := by
  have hnames : ["claims", "limits", "requests"].Pairwise (· < ·) := by decide
  have hparts := fun claims limits requests => hasExactly_iff
    (hnames.sublist (names_filterMap_sublist
      [("claims", claims), ("limits", limits), ("requests", requests)])) v
  simp only [ShowsRequirements, optionRel_iff_eq_map showsClaims_iff,
    optionRel_iff_eq_map showsQuantities_iff, hparts]
  constructor
  · rintro ⟨_, _, _, rfl, rfl, rfl, rfl⟩
    rfl
  · rintro rfl
    exact ⟨_, _, _, rfl, rfl, rfl, rfl⟩

lemma showsContainer_iff (entry : String × Requirements) (v : Json) :
    v.ShowsContainer entry ↔ v = containerPatch entry.1 entry.2 := by
  have hnames : ["name", "resources"].Pairwise (· < ·) := by decide
  simp only [ShowsContainer, showsRequirements_iff]
  constructor
  · rintro ⟨_, hv, rfl⟩
    exact hv.eq_object
  · intro hv
    exact ⟨_, ⟨hv, hnames⟩, rfl⟩

end Json

lemma canonical_containerPatch (entry : String × Requirements) :
    (containerPatch entry.1 entry.2).canonical = containerPatch entry.1 entry.2 := by
  have hnames : ["name", "resources"].Pairwise (· < ·) := by decide
  refine Json.canonical_object hnames ?_
  simp [Json.canonical, entry.2.canonical_toJson]

lemma textAt?_containerPatch (name : String) (r : Requirements) :
    (containerPatch name r).textAt? "name" = some name := by
  simp [containerPatch, Json.textAt?, Json.member?, Json.find?]

lemma container?_containerPatch (entry : String × Requirements) :
    Json.container? (containerPatch entry.1 entry.2) = some entry := by
  have hrequirements : (containerPatch entry.1 entry.2).member? "resources" =
      some entry.2.toJson := rfl
  simp [Json.container?, textAt?_containerPatch, hrequirements, Requirements.ofDocument?_toJson]

def Resources.containers (resources : Resources) : List Json :=
  resources.entries.map fun entry => containerPatch entry.1 entry.2

namespace Resources

lemma showsContainers_iff (resources : Resources) (containers : List Json) :
    List.Forall₂ Json.ShowsContainer resources.entries containers ↔
      containers = resources.containers :=
  forall₂_iff_eq_map Json.showsContainer_iff

lemma containers_ascending (resources : Resources) :
    resources.containers.Pairwise Json.NamedBefore := by
  rw [containers, List.pairwise_map]
  exact (List.pairwise_map.mp resources.ascending).imp fun hlt =>
    ⟨_, _, textAt?_containerPatch _ _, textAt?_containerPatch _ _, hlt⟩

end Resources

lemma showsPatch_iff {t : Target} {resources : Resources} {v : Json} :
    v.ShowsPatch t resources.containers ↔ v = resourcePatch t resources := by
  have hnames : ["apiVersion", "kind", "metadata", "spec"].Pairwise (· < ·) := by decide
  constructor
  · rintro ⟨_, _, _, _, hv, hmetadata, hspec, htemplate, hpodSpec⟩
    rw [hv.eq_object, hmetadata.eq_object, hspec.eq_object, htemplate.eq_object,
      hpodSpec.eq_object]
    rfl
  · intro hv
    exact ⟨_, _, _, _, ⟨hv, hnames⟩, ⟨rfl, List.pairwise_singleton _ _⟩,
      ⟨rfl, List.pairwise_singleton _ _⟩, ⟨rfl, List.pairwise_singleton _ _⟩,
      ⟨rfl, List.pairwise_singleton _ _⟩⟩

lemma ofPatch?_resourcePatch (t : Target) (resources : Resources) :
    Resources.ofPatch? (resourcePatch t resources) = some resources := by
  have hcontainers : resources.containers.mapM Json.container? = some (resources.entries.map id) :=
    mapM_map_of_reads container?_containerPatch resources.entries
  simp only [Resources.containers] at hcontainers
  simp [Resources.ofPatch?, resourcePatch, Json.member?, Json.find?, Document.items?, hcontainers]

lemma canonical_resourcePatch (t : Target) (resources : Resources) :
    (resourcePatch t resources).canonical = resourcePatch t resources := by
  have hnames : ["apiVersion", "kind", "metadata", "spec"].Pairwise (· < ·) := by decide
  have hcontainers : (Json.array resources.containers).canonical =
      .array resources.containers := by
    refine Json.canonical_array fun v hv => ?_
    obtain ⟨entry, -, rfl⟩ := List.mem_map.mp hv
    exact canonical_containerPatch entry
  have hspec := Json.canonical_singleton "template" (Json.canonical_singleton "spec"
    (Json.canonical_singleton "containers" hcontainers))
  refine Json.canonical_object hnames fun m hm => ?_
  simp only [List.mem_cons, List.not_mem_nil, or_false] at hm
  obtain rfl | rfl | rfl | rfl := hm
  · rfl
  · rfl
  · rfl
  · exact hspec

lemma ControlPlane.update_ne_serialize {σ : Type} (api : ControlPlane σ) (t : Target)
    (resources : Resources) (v : World σ) :
    ((api.update t resources).run v).1 ≠ .error .serialize := by
  intro h
  cases hworkload : t.workload? with
  | none =>
    rw [update_of_unknown resources v hworkload] at h
    cases h
  | some w =>
    rw [update_of_known resources v hworkload] at h
    rcases hpatch : api.patch w t.nspace t.name (resourcePatch t resources) v with ⟨_ | _, _⟩
    · rw [hpatch] at h
      cases h
    · rw [hpatch] at h
      cases h

lemma resourcePatch_eq_iff {t t' : Target} {resources resources' : Resources} :
    resourcePatch t resources = resourcePatch t' resources' ↔ resources = resources' ∧
      t.groupVersion = t'.groupVersion ∧ t.kind = t'.kind ∧ t.name = t'.name := by
  constructor
  · intro h
    have hresources := (ofPatch?_resourcePatch t resources).symm.trans
      (h ▸ ofPatch?_resourcePatch t' resources')
    -- The containers are compared by reading them, the other fields as they stand.
    simp only [resourcePatch, Json.object.injEq, List.cons.injEq, Prod.mk.injEq,
      Json.string.injEq, true_and, and_true] at h
    obtain ⟨hversion, hkind, hname, -⟩ := h
    exact ⟨Option.some.inj hresources, hversion, hkind, hname⟩
  · rintro ⟨rfl, hversion, hkind, hname⟩
    simp only [resourcePatch, hversion, hkind, hname]

/-- A patch carries the given resources to the given workload and nothing else: no field of it
says more, the resources are read off it as they were, and it is never refused for its form. -/
theorem resourcePatch_exact (t : Target) (resources : Resources) :
    (∀ (σ : Type) (api : ControlPlane σ) (v : World σ),
      ((api.update t resources).run v).1 ≠ .error .serialize) ∧
    (∀ v : Json, v = resourcePatch t resources ↔ ∃ containers, v.ShowsPatch t containers ∧
      List.Forall₂ Json.ShowsContainer resources.entries containers ∧
      containers.Pairwise Json.NamedBefore) ∧
    Resources.ofPatch? (resourcePatch t resources) = some resources ∧
    (resourcePatch t resources).canonical = resourcePatch t resources ∧
    ∀ t' resources', resourcePatch t resources = resourcePatch t' resources' ↔
      resources = resources' ∧ t.groupVersion = t'.groupVersion ∧ t.kind = t'.kind ∧
        t.name = t'.name := by
  refine ⟨fun _ api => api.update_ne_serialize t resources, fun v => ?_,
    ofPatch?_resourcePatch t resources, canonical_resourcePatch t resources,
    fun _ _ => resourcePatch_eq_iff⟩
  constructor
  · intro hv
    exact ⟨resources.containers, showsPatch_iff.mpr hv,
      (resources.showsContainers_iff _).mpr rfl, resources.containers_ascending⟩
  · rintro ⟨containers, hv, hcontainers, -⟩
    rw [resources.showsContainers_iff] at hcontainers
    subst hcontainers
    exact showsPatch_iff.mp hv

end WorkloadScaling
