import Mathlib
import WorkloadScaling.Catalog

/-!
# The search of a filtered catalog

A catalog is searched once everything that cannot be a workload has been taken out of it. What is
found is what the catalog as it was answered offers, since a workload is namespaced and no slash
is in the names that are searched for.
-/
namespace WorkloadScaling

namespace CatalogEntry

def Offers (e : CatalogEntry) (name : String) : Prop := e.isNamespaced = true ∧ e.name = name

instance (e : CatalogEntry) (name : String) : Decidable (e.Offers name) :=
  inferInstanceAs (Decidable (_ ∧ _))

/-- Of the resources of a workload's name, only those are taken out that are not namespaced. -/
lemma offers_iff (e : CatalogEntry) (w : Workload) :
    e.Offers w.plural ↔ e.isWorkloadLike = true ∧ (e.name == w.plural) = true := by
  simp only [Offers, isWorkloadLike, Bool.and_eq_true, beq_iff_eq]
  constructor
  · rintro ⟨hnamespaced, hname⟩
    have hslash : '/' ∉ e.name.toList := hname ▸ w.slash_notMem_plural
    exact ⟨⟨hnamespaced, by simpa using hslash⟩, hname⟩
  · rintro ⟨⟨hnamespaced, -⟩, hname⟩
    exact ⟨hnamespaced, hname⟩

lemma isWorkloadLike_eq_false {e : CatalogEntry}
    (h : e.isNamespaced = false ∨ '/' ∈ e.name.toList) : e.isWorkloadLike = false := by
  rcases h with hscope | hslash
  · simp [isWorkloadLike, hscope]
  · simp [isWorkloadLike, hslash]

end CatalogEntry

namespace ResourceList

lemma find?_namespacedOnly (list : ResourceList) (w : Workload) :
    list.namespacedOnly.find? w.plural =
      (list.resources.find? fun e => decide (e.Offers w.plural)).map fun e =>
        ⟨e.kind, list.groupVersion⟩ := by
  simp only [find?, namespacedOnly, List.find?_filter, CatalogEntry.offers_iff]

lemma find?_namespacedOnly_eq_none_iff {list : ResourceList} {w : Workload} :
    list.namespacedOnly.find? w.plural = none ↔ ∀ e ∈ list.resources, ¬e.Offers w.plural := by
  simp [find?_namespacedOnly]

lemma find?_namespacedOnly_eq_some_iff {list : ResourceList} {w : Workload} {served : Served} :
    list.namespacedOnly.find? w.plural = some served ↔
      ∃ earlier entry later, list.resources = earlier ++ entry :: later ∧
        (∀ e ∈ earlier, ¬e.Offers w.plural) ∧ entry.Offers w.plural ∧
        served = ⟨entry.kind, list.groupVersion⟩ := by
  rw [find?_namespacedOnly, Option.map_eq_some_iff]
  constructor
  · rintro ⟨entry, hfind, rfl⟩
    obtain ⟨hentry, earlier, later, hcut, hearlier⟩ := List.find?_eq_some_iff_append.mp hfind
    exact ⟨earlier, entry, later, hcut, by simpa using hearlier, by simpa using hentry, rfl⟩
  · rintro ⟨earlier, entry, later, hcut, hearlier, hentry, rfl⟩
    refine ⟨entry, List.find?_eq_some_iff_append.mpr ⟨?_, earlier, later, hcut, ?_⟩, rfl⟩
    · simpa using hentry
    · simpa using hearlier

lemma namespacedOnly_idem (list : ResourceList) :
    list.namespacedOnly.namespacedOnly = list.namespacedOnly := by
  simp [namespacedOnly]

lemma namespacedOnly_insert {e : CatalogEntry} (groupVersion : String)
    (earlier later : List CatalogEntry) (h : e.isNamespaced = false ∨ '/' ∈ e.name.toList) :
    namespacedOnly ⟨groupVersion, earlier ++ e :: later⟩ =
      namespacedOnly ⟨groupVersion, earlier ++ later⟩ := by
  simp [namespacedOnly, CatalogEntry.isWorkloadLike_eq_false h]

end ResourceList

namespace Catalog

def namespacedOnly (catalog : Catalog) : Catalog := catalog.map ResourceList.namespacedOnly

/-- The first list with a namespaced resource of a name offers the first such resource. -/
inductive Offers : Catalog → String → Served → Prop
  | first {name : String} {before after : Catalog} {groupVersion : String}
      {earlier later : List CatalogEntry} {entry : CatalogEntry}
      (passed : ∀ list ∈ before, ∀ e ∈ list.resources, ¬e.Offers name)
      (skipped : ∀ e ∈ earlier, ¬e.Offers name) (offered : entry.Offers name) :
      Offers (before ++ ⟨groupVersion, earlier ++ entry :: later⟩ :: after) name
        ⟨entry.kind, groupVersion⟩

lemma find?_namespacedOnly (catalog : Catalog) (w : Workload) :
    catalog.namespacedOnly.find? w =
      catalog.findSome? fun list => list.namespacedOnly.find? w.plural := by
  rw [namespacedOnly, find?, List.findSome?_map]
  rfl

lemma find?_namespacedOnly_eq_some_iff {catalog : Catalog} {w : Workload} {served : Served} :
    catalog.namespacedOnly.find? w = some served ↔ catalog.Offers w.plural served := by
  rw [find?_namespacedOnly, List.findSome?_eq_some_iff]
  constructor
  · rintro ⟨before, ⟨groupVersion, resources⟩, after, rfl, hfind, hbefore⟩
    obtain ⟨earlier, entry, later, rfl, hearlier, hentry, rfl⟩ :=
      ResourceList.find?_namespacedOnly_eq_some_iff.mp hfind
    exact .first (fun list hlist =>
      ResourceList.find?_namespacedOnly_eq_none_iff.mp (hbefore list hlist)) hearlier hentry
  · rintro ⟨passed, skipped, offered⟩
    refine ⟨_, _, _, rfl, ?_, fun list hlist =>
      ResourceList.find?_namespacedOnly_eq_none_iff.mpr (passed list hlist)⟩
    exact ResourceList.find?_namespacedOnly_eq_some_iff.mpr
      ⟨_, _, _, rfl, skipped, offered, rfl⟩

lemma find?_namespacedOnly_eq_none_iff {catalog : Catalog} {w : Workload} :
    catalog.namespacedOnly.find? w = none ↔
      ∀ list ∈ catalog, ∀ e ∈ list.resources, ¬e.Offers w.plural := by
  rw [find?_namespacedOnly, List.findSome?_eq_none_iff]
  exact forall₂_congr fun list _ => ResourceList.find?_namespacedOnly_eq_none_iff

lemma namespacedOnly_insert {e : CatalogEntry} (before after : Catalog) (groupVersion : String)
    (earlier later : List CatalogEntry) (h : e.isNamespaced = false ∨ '/' ∈ e.name.toList) :
    namespacedOnly (before ++ ⟨groupVersion, earlier ++ e :: later⟩ :: after) =
      namespacedOnly (before ++ ⟨groupVersion, earlier ++ later⟩ :: after) := by
  simp only [namespacedOnly, List.map_append, List.map_cons,
    ResourceList.namespacedOnly_insert groupVersion earlier later h]

lemma namespacedOnly_idem (catalog : Catalog) :
    catalog.namespacedOnly.namespacedOnly = catalog.namespacedOnly := by
  rw [namespacedOnly, namespacedOnly, List.map_map]
  exact List.map_congr_left fun list _ => list.namespacedOnly_idem

lemma groupVersion_namespacedOnly (catalog : Catalog) :
    catalog.namespacedOnly.map ResourceList.groupVersion =
      catalog.map ResourceList.groupVersion := by
  rw [namespacedOnly, List.map_map]
  rfl

/-- The filter hides no workload and fakes none: what is found behind it is the first namespaced
resource of the name, wherever others stand that are not namespaced or have a slash. -/
theorem find?_namespacedOnly_offers (catalog : Catalog) (w : Workload) :
    (∀ served, catalog.namespacedOnly.find? w = some served ↔ catalog.Offers w.plural served) ∧
    (catalog.namespacedOnly.find? w = none ↔
      ∀ list ∈ catalog, ∀ e ∈ list.resources, ¬e.Offers w.plural) ∧
    (∀ before after groupVersion earlier later e,
      catalog = before ++ ⟨groupVersion, earlier ++ later⟩ :: after →
      (e.isNamespaced = false ∨ '/' ∈ e.name.toList) →
        (namespacedOnly (before ++ ⟨groupVersion, earlier ++ e :: later⟩ :: after)).find? w =
          catalog.namespacedOnly.find? w) ∧
    catalog.namespacedOnly.namespacedOnly = catalog.namespacedOnly ∧
    catalog.namespacedOnly.map ResourceList.groupVersion =
      catalog.map ResourceList.groupVersion := by
  refine ⟨fun _ => find?_namespacedOnly_eq_some_iff, find?_namespacedOnly_eq_none_iff, ?_,
    catalog.namespacedOnly_idem, catalog.groupVersion_namespacedOnly⟩
  rintro before after groupVersion earlier later e rfl he
  rw [namespacedOnly_insert before after groupVersion earlier later he]

/-- A resource of the name that is not namespaced stands before the workload in both lists. -/
example :
    let catalog : Catalog := [⟨"example.com/v1", [⟨"deployments", "Rollout", false⟩]⟩,
      ⟨"apps/v1", [⟨"deployments", "Plan", false⟩, ⟨"deployments/scale", "Scale", true⟩,
        ⟨"deployments", "Deployment", true⟩]⟩]
    catalog.namespacedOnly.find? .deployment = some ⟨"Deployment", "apps/v1"⟩ := by
  decide +kernel

end Catalog

end WorkloadScaling
