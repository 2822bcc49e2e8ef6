import Mathlib
import WorkloadScaling.Requirements

/-!
# The document of requirements

Requirements are read back from their document as they were: an absent part is not an empty one,
and quantities keep their text.
-/
namespace WorkloadScaling

variable {α β γ : Type}

namespace NameMap

lemma insertEntry_of_last {name : String} {value : α} {entries : List (String × α)}
    (h : ∀ n ∈ entries.map Prod.fst, n < name) :
    insertEntry name value entries = entries ++ [(name, value)] := by
  induction entries with
  | nil => rfl
  | cons e rest ih =>
    obtain ⟨n, v⟩ := e
    rw [List.map_cons, List.forall_mem_cons] at h
    obtain ⟨hlt, hrest⟩ := h
    have hne : name ≠ n := fun he => String.lt_irrefl n (he ▸ hlt)
    rw [insertEntry, if_neg (String.lt_asymm hlt), if_neg hne, ih hrest, List.cons_append]

lemma foldl_insertEntry {before rest : List (String × α)}
    (h : ((before ++ rest).map Prod.fst).Pairwise (· < ·)) :
    rest.foldl (fun sorted (name, value) => insertEntry name value sorted) before =
      before ++ rest := by
  -- What was put before stays in front of what is still to come.
  induction rest generalizing before with
  | nil => exact (List.append_nil before).symm
  | cons e rest ih =>
    obtain ⟨name, value⟩ := e
    have hlast : ∀ n ∈ before.map Prod.fst, n < name := by
      rw [List.map_append, List.pairwise_append] at h
      exact fun n hn => h.2.2 n hn name List.mem_cons_self
    rw [List.append_cons] at h ⊢
    simp only [List.foldl_cons, insertEntry_of_last hlast, ih h]

@[simp]
theorem ofList_entries (m : NameMap α) : ofList m.entries = m := by
  ext1
  have hentries : (ofList m.entries).entries =
      m.entries.foldl (fun sorted (name, value) => insertEntry name value sorted) [] :=
    (List.foldl_hom entries fun _ _ => rfl).symm
  rw [hentries, foldl_insertEntry m.ascending, List.nil_append]

end NameMap

namespace Json

lemma canonicalItems_eq_self {items : List Json} (h : ∀ v ∈ items, v.canonical = v) :
    canonicalItems items = items := by
  induction items with
  | nil => rfl
  | cons v rest ih =>
    rw [List.forall_mem_cons] at h
    rw [canonicalItems, h.1, ih h.2]

lemma canonicalMembers_eq_self {members : List (String × Json)}
    (h : ∀ m ∈ members, m.2.canonical = m.2) : canonicalMembers members = members := by
  induction members with
  | nil => rfl
  | cons m rest ih =>
    obtain ⟨name, v⟩ := m
    rw [List.forall_mem_cons] at h
    rw [canonicalMembers, canonicalMember, h.1, ih h.2]

lemma canonical_array {items : List Json} (h : ∀ v ∈ items, v.canonical = v) :
    (array items).canonical = array items := by
  rw [canonical, canonicalItems_eq_self h]

lemma canonical_object {members : List (String × Json)}
    (hnames : (members.map Prod.fst).Pairwise (· < ·))
    (h : ∀ m ∈ members, m.2.canonical = m.2) : (object members).canonical = object members := by
  have hsorted : sortMembers members = members :=
    (NameMap.foldl_insertEntry hnames).trans (List.nil_append _)
  rw [canonical, canonicalMembers_eq_self h, hsorted]

lemma canonical_singleton (key : String) {v : Json} (h : v.canonical = v) :
    (object [(key, v)]).canonical = object [(key, v)] :=
  canonical_object (List.pairwise_singleton _ _) fun _ hm => List.mem_singleton.mp hm ▸ h

/-- Members that are there keep the order of all that might be. -/
lemma names_filterMap_sublist (members : List (String × Option Json)) :
    ((members.filterMap fun (name, part) => part.map fun v => (name, v)).map Prod.fst).Sublist
      (members.map Prod.fst) := by
  induction members with
  | nil => exact .slnil
  | cons m rest ih =>
    obtain ⟨name, _ | v⟩ := m
    · exact ih.cons name
    · exact ih.cons_cons name

lemma canonical_ofMembers {members : List (String × Option Json)}
    (hnames : (members.map Prod.fst).Pairwise (· < ·))
    (h : ∀ m ∈ members, ∀ v ∈ m.2, v.canonical = v) :
    (ofMembers members).canonical = ofMembers members := by
  refine canonical_object (hnames.sublist (names_filterMap_sublist members)) fun e he => ?_
  obtain ⟨⟨name, part⟩, hpart, he⟩ := List.mem_filterMap.mp he
  obtain ⟨v, hv, rfl⟩ := Option.map_eq_some_iff.mp he
  exact h _ hpart v hv

end Json

lemma mapM_map_of_reads {read? : β → Option γ} {write : α → β} {value : α → γ}
    (h : ∀ a, read? (write a) = some (value a)) (as : List α) :
    (as.map write).mapM read? = some (as.map value) := by
  have hcomp : read? ∘ write = fun a => pure (value a) := funext h
  rw [List.mapM_map, hcomp, List.mapM_pure]
  rfl

namespace Document

lemma list?_array {read? : Json → Option α} {write : α → Json}
    (h : ∀ a, read? (write a) = some a) (as : List α) :
    list? read? (.array (as.map write)) = some as :=
  (mapM_map_of_reads h as).trans (congrArg some (List.map_id as))

lemma map?_object {read? : Json → Option α} {write : α → Json}
    (h : ∀ a, read? (write a) = some a) (m : NameMap α) :
    map? read? (.object (m.entries.map fun (name, value) => (name, write value))) = some m := by
  have hreads : ∀ e : String × α, ((read? (write e.2)).map fun a => (e.1, a)) = some e := by
    intro e
    simp [h]
  have hentries : (m.entries.map fun e => (e.1, write e.2)).mapM
      (fun e => (read? e.2).map fun a => (e.1, a)) = some (m.entries.map id) :=
    mapM_map_of_reads hreads m.entries
  change ((m.entries.map fun e => (e.1, write e.2)).mapM fun e => (read? e.2).map fun a =>
    (e.1, a)).bind (fun entries => some (NameMap.ofList entries)) = some m
  rw [hentries, Option.bind_some, List.map_id, NameMap.ofList_entries]

lemma optional?_of_reads {read? : Json → Option α} {v : Json} {a : α}
    (hpresent : isAbsent? v = some false) (h : read? v = some a) :
    optional? read? v = some (some a) := by
  simp [optional?, hpresent, h]

end Document

namespace Requirements

open Document

lemma claim?_claimToJson (name : String) : claim? (claimToJson name) = some name := rfl

lemma optional?_claims (names : List String) :
    optional? (list? claim?) (Json.array (names.map claimToJson)) = some (some names) :=
  optional?_of_reads rfl (list?_array claim?_claimToJson names)

lemma optional?_quantities (m : NameMap String) :
    optional? (map? text?) (quantitiesToJson m) = some (some m) := by
  have hreads : ∀ quantity : String, text? (Json.string quantity) = some quantity := fun _ => rfl
  exact optional?_of_reads rfl (map?_object hreads m)

theorem ofDocument?_toJson (r : Requirements) : ofDocument? r.toJson = some r := by
  obtain ⟨claims, limits, requests⟩ := r
  cases claims <;> cases limits <;> cases requests <;>
    simp [ofDocument?, toJson, Json.ofMembers, entries?, optional?_claims, optional?_quantities]

lemma canonical_claims (names : List String) :
    (Json.array (names.map claimToJson)).canonical = .array (names.map claimToJson) := by
  refine Json.canonical_array fun v hv => ?_
  obtain ⟨name, -, rfl⟩ := List.mem_map.mp hv
  rfl

lemma names_quantities (m : NameMap String) :
    (m.entries.map fun (name, quantity) => (name, Json.string quantity)).map Prod.fst =
      m.names :=
  List.map_map

lemma canonical_quantities (m : NameMap String) :
    (quantitiesToJson m).canonical = quantitiesToJson m := by
  refine Json.canonical_object (names_quantities m ▸ m.ascending) fun e he => ?_
  obtain ⟨_, -, rfl⟩ := List.mem_map.mp he
  rfl

theorem canonical_toJson (r : Requirements) : r.toJson.canonical = r.toJson := by
  have hnames : ["claims", "limits", "requests"].Pairwise (· < ·) := by decide
  refine Json.canonical_ofMembers hnames fun m hm v hv => ?_
  simp only [List.mem_cons, List.not_mem_nil, or_false] at hm
  obtain rfl | rfl | rfl := hm
  · obtain ⟨names, -, rfl⟩ := Option.map_eq_some_iff.mp hv
    exact canonical_claims names
  · obtain ⟨limits, -, rfl⟩ := Option.map_eq_some_iff.mp hv
    exact canonical_quantities limits
  · obtain ⟨requests, -, rfl⟩ := Option.map_eq_some_iff.mp hv
    exact canonical_quantities requests

end Requirements

theorem Resources.ofDocument?_toJson (r : Resources) : ofDocument? r.toJson = some r :=
  Document.map?_object Requirements.ofDocument?_toJson r

end WorkloadScaling
