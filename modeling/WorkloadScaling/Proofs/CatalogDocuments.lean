import Mathlib
import WorkloadScaling.ControlPlane.Http
import WorkloadScaling.Proofs.DocumentParts

/-!
# The documents of a catalog

What each answer of discovery lists: the versions of the core group, the named groups, or the
resources of one group and version. An answer of another shape lists nothing at all.
-/
namespace WorkloadScaling

open ControlPlane

structure ApiGroup where
  preferred : Option String
  versions : List String
  deriving DecidableEq, Repr

namespace ApiGroup

def versionOfJson (v : Json) : String := (v.textAt? "groupVersion").getD ""

def ofJson (v : Json) : ApiGroup where
  preferred := (v.member? "preferredVersion").map versionOfJson
  versions := (v.itemsAt "versions").map versionOfJson

def listOfJson? (v : Json) : Option (List ApiGroup) :=
  if Shape.groupList.accepts v then some ((v.itemsAt "groups").map ofJson) else none

/-- The version to ask for: the preferred one, else the first; a group may have neither. -/
def asked? (g : ApiGroup) : Option String := g.preferred <|> g.versions.head?

end ApiGroup

inductive CrawlStep where
  | coreVersions
  | coreResources (version : String)
  | groups
  | groupResources (groupVersion : String)
  deriving DecidableEq, Repr

inductive CrawlAnswer where
  | versions (core : List String)
  | groups (groups : List ApiGroup)
  | resources (list : ResourceList)
  deriving DecidableEq, Repr

def CrawlStep.read? : CrawlStep → Json → Option CrawlAnswer
  | coreVersions, v => (coreVersions? v).map .versions
  | groups, v => (ApiGroup.listOfJson? v).map .groups
  | coreResources _, v | groupResources _, v => (ResourceList.ofJson? v).map .resources

namespace Json

structure ListsGroup (v : Json) (g : ApiGroup) : Prop where
  preferred : ∃ part, v.Under "preferredVersion" part ∧
    Option.Rel (fun (x : Json) s => x.TextUnder "groupVersion" s) part g.preferred
  versions : ∃ items, v.ItemsUnder "versions" items ∧
    List.Forall₂ (fun (x : Json) s => x.TextUnder "groupVersion" s) items g.versions

structure ListsEntry (v : Json) (e : CatalogEntry) : Prop where
  name : v.TextUnder "name" e.name
  kind : v.TextUnder "kind" e.kind
  isNamespaced : e.isNamespaced = true ↔ v.Under "namespaced" (some (.bool true))

structure ListsResources (v : Json) (list : ResourceList) : Prop where
  groupVersion : v.TextUnder "groupVersion" list.groupVersion
  resources : ∃ items, v.ItemsUnder "resources" items ∧
    List.Forall₂ ListsEntry items list.resources

end Json

/-- What the document of a step lists, if it has the shape that such a document has. -/
inductive CrawlStep.Says : CrawlStep → Json → CrawlAnswer → Prop
  | coreVersions {v : Json} {core : List String} (shape : Shape.coreVersions.accepts v)
      (listed : v.ItemsUnder "versions" (core.map .string)) : Says .coreVersions v (.versions core)
  | groups {v : Json} {items : List Json} {groups : List ApiGroup}
      (shape : Shape.groupList.accepts v) (listed : v.ItemsUnder "groups" items)
      (each : List.Forall₂ Json.ListsGroup items groups) : Says .groups v (.groups groups)
  | coreResources {v : Json} {version : String} {list : ResourceList}
      (shape : Shape.resourceList.accepts v) (listed : v.ListsResources list) :
      Says (.coreResources version) v (.resources list)
  | groupResources {v : Json} {groupVersion : String} {list : ResourceList}
      (shape : Shape.resourceList.accepts v) (listed : v.ListsResources list) :
      Says (.groupResources groupVersion) v (.resources list)

variable {v : Json}

lemma exists_texts_of_itemsUnder {fields : List (String × Shape)} {key : String} {depth : ℕ}
    {items : List Json} (hfield : fields.lookup key = some Shape.textList)
    (hshape : (Shape.object fields).admits depth v) (h : v.ItemsUnder key items) :
    ∃ texts : List String, items = texts.map .string := by
  cases h with
  | listed hitems =>
    have htexts := Shape.admits_of_under hfield hshape hitems
    have hrange : ∀ item ∈ items, item ∈ Set.range Json.string := by
      intro item hitem
      have htext := List.all_eq_true.mp htexts item hitem
      cases item with
      | string s => exact ⟨s, rfl⟩
      | _ => cases htext
    have hmap : items ∈ Set.range (List.map Json.string) := Set.range_list_map Json.string ▸ hrange
    obtain ⟨texts, rfl⟩ := hmap
    exact ⟨texts, rfl⟩
  | unlisted => exact ⟨[], rfl⟩

lemma coreVersions?_eq_some_iff {core : List String} : coreVersions? v = some core ↔
    Shape.coreVersions.accepts v ∧ v.ItemsUnder "versions" (core.map .string) := by
  unfold coreVersions?
  rw [Option.ite_none_right_eq_some]
  refine and_congr_right fun hshape => ?_
  obtain ⟨texts, htexts⟩ := exists_texts_of_itemsUnder rfl hshape
    (Json.itemsUnder_iff.mpr (rfl : v.itemsAt "versions" = _))
  have hread : (texts.map Json.string).filterMap Json.string? = texts := by
    rw [List.filterMap_map]
    exact List.filterMap_some
  rw [Json.itemsUnder_iff, htexts, hread, Option.some_inj, eq_comm,
    (List.map_injective_iff.mpr fun _ _ => Json.string.inj).eq_iff]

lemma listsGroup_iff {g : ApiGroup} : v.ListsGroup g ↔ g = ApiGroup.ofJson v := by
  have hversion : ∀ (x : Json) s, x.TextUnder "groupVersion" s ↔ s = ApiGroup.versionOfJson x :=
    fun x s => Json.textUnder_iff
  constructor
  · rintro ⟨⟨part, hpart, hpreferred⟩, ⟨items, hitems, hversions⟩⟩
    obtain rfl := Json.under_iff.mp hpart
    obtain rfl := Json.itemsUnder_iff.mp hitems
    obtain ⟨preferred, versions⟩ := g
    obtain rfl := (optionRel_iff_eq_map hversion).mp hpreferred
    obtain rfl := (forall₂_iff_eq_map hversion).mp hversions
    rfl
  · rintro rfl
    exact ⟨⟨_, v.under_member? _, (optionRel_iff_eq_map hversion).mpr rfl⟩,
      ⟨_, Json.itemsUnder_iff.mpr rfl, (forall₂_iff_eq_map hversion).mpr rfl⟩⟩

lemma listsEntry_iff {e : CatalogEntry} : v.ListsEntry e ↔ e = CatalogEntry.ofJson v := by
  have hflag : v.Under "namespaced" (some (.bool true)) ↔
      (CatalogEntry.ofJson v).isNamespaced = true := by
    rw [Json.under_iff, CatalogEntry.ofJson, beq_iff_eq, eq_comm]
  constructor
  · rintro ⟨hname, hkind, hnamespaced⟩
    obtain ⟨name, kind, isNamespaced⟩ := e
    obtain rfl := Json.textUnder_iff.mp hname
    obtain rfl := Json.textUnder_iff.mp hkind
    obtain rfl : isNamespaced = (CatalogEntry.ofJson v).isNamespaced :=
      Bool.eq_iff_iff.mpr (hnamespaced.trans hflag)
    rfl
  · rintro rfl
    exact ⟨Json.textUnder_iff.mpr rfl, Json.textUnder_iff.mpr rfl, hflag.symm⟩

lemma listsResources_iff {list : ResourceList} : v.ListsResources list ↔
    list = ⟨(v.textAt? "groupVersion").getD "", (v.itemsAt "resources").map CatalogEntry.ofJson⟩ := by
  have hentry : ∀ (x : Json) e, x.ListsEntry e ↔ e = CatalogEntry.ofJson x :=
    fun x e => listsEntry_iff
  constructor
  · rintro ⟨hversion, ⟨items, hitems, hentries⟩⟩
    obtain ⟨groupVersion, resources⟩ := list
    obtain rfl := Json.textUnder_iff.mp hversion
    obtain rfl := Json.itemsUnder_iff.mp hitems
    obtain rfl := (forall₂_iff_eq_map hentry).mp hentries
    rfl
  · rintro rfl
    exact ⟨Json.textUnder_iff.mpr rfl, ⟨_, Json.itemsUnder_iff.mpr rfl,
      (forall₂_iff_eq_map hentry).mpr rfl⟩⟩

lemma listOfJson?_eq_some_iff {groups : List ApiGroup} :
    ApiGroup.listOfJson? v = some groups ↔ Shape.groupList.accepts v ∧
      ∃ items, v.ItemsUnder "groups" items ∧ List.Forall₂ Json.ListsGroup items groups := by
  have hgroup : ∀ (x : Json) g, x.ListsGroup g ↔ g = ApiGroup.ofJson x := fun x g => listsGroup_iff
  simp only [ApiGroup.listOfJson?, Option.ite_none_right_eq_some, Option.some_inj,
    Json.itemsUnder_iff, forall₂_iff_eq_map hgroup, exists_eq_left]
  exact and_congr_right fun _ => eq_comm

lemma ofJson?_eq_some_iff {list : ResourceList} : ResourceList.ofJson? v = some list ↔
    Shape.resourceList.accepts v ∧ v.ListsResources list := by
  rw [ResourceList.ofJson?, Option.ite_none_right_eq_some, Option.some_inj, listsResources_iff]
  exact and_congr_right fun _ => eq_comm

/-- A document is read as what it lists, and one of another shape is not read. -/
theorem CrawlStep.read?_eq_some_iff {step : CrawlStep} {answer : CrawlAnswer} :
    step.read? v = some answer ↔ step.Says v answer := by
  constructor
  · intro h
    cases step with
    | coreVersions =>
      obtain ⟨core, hcore, rfl⟩ := Option.map_eq_some_iff.mp h
      obtain ⟨hshape, hlisted⟩ := coreVersions?_eq_some_iff.mp hcore
      exact .coreVersions hshape hlisted
    | groups =>
      obtain ⟨groups, hgroups, rfl⟩ := Option.map_eq_some_iff.mp h
      obtain ⟨hshape, items, hlisted, heach⟩ := listOfJson?_eq_some_iff.mp hgroups
      exact .groups hshape hlisted heach
    | coreResources version =>
      obtain ⟨list, hlist, rfl⟩ := Option.map_eq_some_iff.mp h
      obtain ⟨hshape, hlisted⟩ := ofJson?_eq_some_iff.mp hlist
      exact .coreResources hshape hlisted
    | groupResources groupVersion =>
      obtain ⟨list, hlist, rfl⟩ := Option.map_eq_some_iff.mp h
      obtain ⟨hshape, hlisted⟩ := ofJson?_eq_some_iff.mp hlist
      exact .groupResources hshape hlisted
  · rintro (⟨hshape, hlisted⟩ | ⟨hshape, hlisted, heach⟩ | ⟨hshape, hlisted⟩ | ⟨hshape, hlisted⟩)
    · rw [read?, coreVersions?_eq_some_iff.mpr ⟨hshape, hlisted⟩, Option.map_some]
    · rw [read?, listOfJson?_eq_some_iff.mpr ⟨hshape, _, hlisted, heach⟩, Option.map_some]
    · rw [read?, ofJson?_eq_some_iff.mpr ⟨hshape, hlisted⟩, Option.map_some]
    · rw [read?, ofJson?_eq_some_iff.mpr ⟨hshape, hlisted⟩, Option.map_some]

end WorkloadScaling
