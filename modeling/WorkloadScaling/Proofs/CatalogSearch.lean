import Mathlib
import WorkloadScaling.Catalog

/-!
# The search of a catalog

A kind is served by the first resource of its plural name, in the first list that has one. What
stands behind that resource is never looked at.
-/
namespace WorkloadScaling

namespace ResourceList

def Names (list : ResourceList) (name : String) : Prop := ∃ e ∈ list.resources, e.name = name

lemma find?_eq_none_iff {list : ResourceList} {name : String} :
    list.find? name = none ↔ ¬list.Names name := by
  simp [find?, Names]

lemma find?_eq_some_iff {list : ResourceList} {name : String} {served : Served} :
    list.find? name = some served ↔
      ∃ earlier entry later, list.resources = earlier ++ entry :: later ∧
        (∀ e ∈ earlier, e.name ≠ name) ∧ entry.name = name ∧
        served = ⟨entry.kind, list.groupVersion⟩ := by
  rw [find?, Option.map_eq_some_iff]
  constructor
  · rintro ⟨entry, hfind, rfl⟩
    obtain ⟨hname, earlier, later, hcut, hearlier⟩ := List.find?_eq_some_iff_append.mp hfind
    exact ⟨earlier, entry, later, hcut, by simpa using hearlier, by simpa using hname, rfl⟩
  · rintro ⟨earlier, entry, later, hcut, hearlier, hname, rfl⟩
    refine ⟨entry, List.find?_eq_some_iff_append.mpr ⟨?_, earlier, later, hcut, ?_⟩, rfl⟩
    · simpa using hname
    · simpa using hearlier

lemma exists_find?_eq_some (groupVersion : String) (earlier : List CatalogEntry)
    {entry : CatalogEntry} {name : String} (h : entry.name = name) :
    ∃ served, ∀ later,
      find? ⟨groupVersion, earlier ++ entry :: later⟩ name = some served := by
  have hsome : ((earlier ++ [entry]).find? fun e => e.name == name).isSome := by simp [h]
  obtain ⟨found, hfound⟩ := Option.isSome_iff_exists.mp hsome
  refine ⟨⟨found.kind, groupVersion⟩, fun later => ?_⟩
  rw [find?, List.append_cons, List.find?_append, hfound, Option.some_or, Option.map_some]

end ResourceList

namespace Catalog

/-- The first resource of a name, in the first list that has one, is served as it is listed. -/
inductive Serves : Catalog → String → Served → Prop
  | first {name : String} {before after : Catalog} {groupVersion : String}
      {earlier later : List CatalogEntry} {entry : CatalogEntry}
      (passed : ∀ list ∈ before, ¬list.Names name) (skipped : ∀ e ∈ earlier, e.name ≠ name)
      (named : entry.name = name) :
      Serves (before ++ ⟨groupVersion, earlier ++ entry :: later⟩ :: after) name
        ⟨entry.kind, groupVersion⟩

inductive AgreeUpTo (name : String) : Catalog → Catalog → Prop
  | behind {before after after' : Catalog} {groupVersion : String}
      {earlier later later' : List CatalogEntry} {entry : CatalogEntry}
      (named : entry.name = name) :
      AgreeUpTo name (before ++ ⟨groupVersion, earlier ++ entry :: later⟩ :: after)
        (before ++ ⟨groupVersion, earlier ++ entry :: later'⟩ :: after')

theorem find?_eq_some_iff {catalog : Catalog} {w : Workload} {served : Served} :
    catalog.find? w = some served ↔ catalog.Serves w.plural served := by
  rw [find?, List.findSome?_eq_some_iff]
  constructor
  · rintro ⟨before, ⟨groupVersion, resources⟩, after, rfl, hfind, hbefore⟩
    obtain ⟨earlier, entry, later, rfl, hearlier, hname, rfl⟩ :=
      ResourceList.find?_eq_some_iff.mp hfind
    exact .first (fun list hlist => ResourceList.find?_eq_none_iff.mp (hbefore list hlist))
      hearlier hname
  · rintro ⟨passed, skipped, named⟩
    refine ⟨_, _, _, rfl, ?_, fun list hlist => ResourceList.find?_eq_none_iff.mpr (passed list hlist)⟩
    exact ResourceList.find?_eq_some_iff.mpr ⟨_, _, _, rfl, skipped, named, rfl⟩

theorem find?_eq_none_iff {catalog : Catalog} {w : Workload} :
    catalog.find? w = none ↔ ∀ list ∈ catalog, ¬list.Names w.plural := by
  rw [find?, List.findSome?_eq_none_iff]
  exact forall₂_congr fun list _ => ResourceList.find?_eq_none_iff

lemma AgreeUpTo.symm {name : String} {catalog catalog' : Catalog}
    (h : AgreeUpTo name catalog catalog') : AgreeUpTo name catalog' catalog := by
  cases h with
  | behind named => exact .behind named

lemma Serves.agreeUpTo_append {name : String} {catalog : Catalog} {served : Served}
    (h : catalog.Serves name served) (more : Catalog) :
    AgreeUpTo name catalog (catalog ++ more) := by
  cases h with
  | first _ _ named =>
    rw [List.append_assoc, List.cons_append]
    exact .behind named

/-- Only what stands in front of a match, and the match, decide the search. -/
theorem find?_eq_of_agreeUpTo {catalog catalog' : Catalog} {w : Workload}
    (h : AgreeUpTo w.plural catalog catalog') : catalog.find? w = catalog'.find? w := by
  cases h with
  | @behind before _ _ groupVersion earlier _ _ _ named =>
    obtain ⟨served, hserved⟩ := ResourceList.exists_find?_eq_some groupVersion earlier named
    simp only [find?, List.findSome?_append, List.findSome?_cons, hserved]

end Catalog

end WorkloadScaling
