import WorkloadScaling.Report
import WorkloadScaling.Proofs.JsonRoundTrip
import WorkloadScaling.Proofs.PatchDocument

/-!
# Reports that read back

What a report shows in JSON is read off it again, in either layout: sizes by their own reader,
targets and patches as documents. No text that stands in a report can break its form.
-/
namespace WorkloadScaling

namespace Json

/-- A reader takes the document: all of it denotes something, and it nests no deeper than that. -/
structure ReadableWithin (bound : ℕ) (v : Json) : Prop where
  readable : v.isReadable = true
  depth_le : v.depth ≤ bound

namespace ReadableWithin

variable {bound : ℕ}

lemma mono {v : Json} {bound' : ℕ} (h : v.ReadableWithin bound) (hle : bound ≤ bound') :
    v.ReadableWithin bound' :=
  ⟨h.readable, h.depth_le.trans hle⟩

lemma string (s : String) : (Json.string s).ReadableWithin bound := ⟨rfl, Nat.zero_le bound⟩

lemma array {items : List Json} (h : ∀ v ∈ items, v.ReadableWithin bound) :
    (Json.array items).ReadableWithin (bound + 1) := by
  have hitems : isReadableItems items = true ∧ depthItems items ≤ bound := by
    induction items with
    | nil => exact ⟨rfl, Nat.zero_le bound⟩
    | cons v rest ih =>
      rw [List.forall_mem_cons] at h
      obtain ⟨hreadable, hdepth⟩ := ih h.2
      exact ⟨Bool.and_eq_true_iff.mpr ⟨h.1.readable, hreadable⟩, max_le h.1.depth_le hdepth⟩
  exact ⟨hitems.1, Nat.succ_le_succ hitems.2⟩

lemma object {members : List (String × Json)} (h : ∀ m ∈ members, m.2.ReadableWithin bound) :
    (Json.object members).ReadableWithin (bound + 1) := by
  have hmembers : isReadableMembers members = true ∧ depthMembers members ≤ bound := by
    induction members with
    | nil => exact ⟨rfl, Nat.zero_le bound⟩
    | cons m rest ih =>
      obtain ⟨key, v⟩ := m
      rw [List.forall_mem_cons] at h
      obtain ⟨hreadable, hdepth⟩ := ih h.2
      exact ⟨Bool.and_eq_true_iff.mpr ⟨h.1.readable, hreadable⟩, max_le h.1.depth_le hdepth⟩
  exact ⟨hmembers.1, Nat.succ_le_succ hmembers.2⟩

lemma singleton (key : String) {v : Json} (h : v.ReadableWithin bound) :
    (Json.object [(key, v)]).ReadableWithin (bound + 1) :=
  object fun _ hm => List.mem_singleton.mp hm ▸ h

lemma ofMembers {members : List (String × Option Json)}
    (h : ∀ m ∈ members, ∀ v ∈ m.2, v.ReadableWithin bound) :
    (Json.ofMembers members).ReadableWithin (bound + 1) := by
  refine object fun e he => ?_
  obtain ⟨⟨key, part⟩, hpart, he⟩ := List.mem_filterMap.mp he
  obtain ⟨v, hv, rfl⟩ := Option.map_eq_some_iff.mp he
  exact h _ hpart v hv

end ReadableWithin

lemma document?_text_of_canonical (layout : Layout) {v : Json}
    (hreadable : v.ReadableWithin maxDepth) (hcanonical : v.canonical = v) :
    document? (v.text layout) = some v := by
  rw [document?_text, if_pos ⟨hreadable.readable, hreadable.depth_le⟩, hcanonical]

lemma natural?_natCast (bound n : ℕ) :
    natural? bound (.integer n) = if n < bound then some n else none := by
  simp [natural?]

end Json

namespace ClusterSize

lemma report_eq_text {format : Report.Format} (hformat : format ≠ .text) (size : ClusterSize) :
    size.report format = size.toJson.text (Report.layout format) := by
  cases format with
  | text => exact absurd rfl hformat
  | json => rfl
  | indentedJson => rfl

lemma ofText?_of_record {s : String} {v nodes cores : Json} (hparse : Json.parse? s = some v)
    (hrecord : Json.record? ["nodes", "cores"] v = some [some nodes, some cores]) :
    ofText? s = (Json.natural? (2 ^ 64) nodes).bind fun n =>
      (Json.natural? (2 ^ 64) cores).map fun c => ⟨n, c⟩ := by
  have hbound : Nat.pow 2 64 = 2 ^ 64 := Nat.pow_eq
  simp only [ofText?, hparse, hrecord, hbound, Option.bind_eq_bind, Option.bind_some,
    Option.map_eq_bind, Function.comp_def]

lemma ofText?_toJson (layout : Json.Layout) (size : ClusterSize) :
    ofText? (size.toJson.text layout) = some size ↔ size.nodes < 2 ^ 64 ∧ size.cores < 2 ^ 64 := by
  have hrecord : Json.record? ["nodes", "cores"] size.toJson =
      some [some (.integer size.nodes), some (.integer size.cores)] := rfl
  rw [ofText?_of_record (Json.parse?_text layout size.toJson) hrecord, Json.natural?_natCast,
    Json.natural?_natCast]
  -- The bound is too great a number to be computed with.
  generalize 2 ^ 64 = bound
  by_cases hnodes : size.nodes < bound
  · by_cases hcores : size.cores < bound
    · simp [hnodes, hcores]
    · simp [hcores]
  · simp [hnodes]

end ClusterSize

namespace Target

lemma report_eq_text {format : Report.Format} (hformat : format ≠ .text) (t : Target) :
    t.report format = t.toJson.text (Report.layout format) := by
  cases format with
  | text => exact absurd rfl hformat
  | json => rfl
  | indentedJson => rfl

def fields (t : Target) : List (String × Json) :=
  [("groupVersion", .string t.groupVersion), ("kind", .string t.kind), ("name", .string t.name),
    ("namespace", .string t.nspace)]

lemma fields_ascending (t : Target) : (t.fields.map Prod.fst).Pairwise (· < ·) := by
  have hnames : ["groupVersion", "kind", "name", "namespace"].Pairwise (· < ·) := by decide
  exact hnames

lemma exists_string_of_mem_fields {t : Target} {m : String × Json} (hm : m ∈ t.fields) :
    ∃ s, m.2 = .string s := by
  simp only [fields, List.mem_cons, List.not_mem_nil, or_false] at hm
  obtain rfl | rfl | rfl | rfl := hm
  · exact ⟨_, rfl⟩
  · exact ⟨_, rfl⟩
  · exact ⟨_, rfl⟩
  · exact ⟨_, rfl⟩

lemma document?_toJson (layout : Json.Layout) (t : Target) :
    Json.document? (t.toJson.text layout) = some t.toJson := by
  have hreadable : t.toJson.ReadableWithin 1 := by
    refine .object fun m hm => ?_
    obtain ⟨s, hs⟩ := exists_string_of_mem_fields hm
    exact hs ▸ .string s
  have hcanonical : t.toJson.canonical = t.toJson := by
    refine Json.canonical_object t.fields_ascending fun m hm => ?_
    obtain ⟨s, hs⟩ := exists_string_of_mem_fields hm
    rw [hs]
    rfl
  exact Json.document?_text_of_canonical layout (hreadable.mono (by decide)) hcanonical

lemma toJson_injective : Function.Injective toJson := by
  rintro ⟨kind, groupVersion, name, nspace⟩ ⟨kind', groupVersion', name', nspace'⟩ h
  simp only [toJson, Json.object.injEq, List.cons.injEq, Prod.mk.injEq, Json.string.injEq,
    true_and, and_true] at h
  obtain ⟨rfl, rfl, rfl, rfl⟩ := h
  rfl

end Target

lemma readableWithin_requirements (r : Requirements) : r.toJson.ReadableWithin 3 := by
  have hquantities : ∀ m : NameMap String, (Requirements.quantitiesToJson m).ReadableWithin 1 := by
    refine fun m => .object fun e he => ?_
    obtain ⟨⟨name, quantity⟩, -, rfl⟩ := List.mem_map.mp he
    exact .string quantity
  have hclaims : ∀ names : List String,
      (Json.array (names.map Requirements.claimToJson)).ReadableWithin 2 := by
    refine fun names => .array fun v hv => ?_
    obtain ⟨name, -, rfl⟩ := List.mem_map.mp hv
    exact .singleton "name" (.string name)
  refine .ofMembers fun m hm v hv => ?_
  simp only [List.mem_cons, List.not_mem_nil, or_false] at hm
  obtain rfl | rfl | rfl := hm
  · obtain ⟨names, -, rfl⟩ := Option.map_eq_some_iff.mp hv
    exact hclaims names
  · obtain ⟨limits, -, rfl⟩ := Option.map_eq_some_iff.mp hv
    exact (hquantities limits).mono (by decide)
  · obtain ⟨requests, -, rfl⟩ := Option.map_eq_some_iff.mp hv
    exact (hquantities requests).mono (by decide)

lemma readableWithin_containerPatch (entry : String × Requirements) :
    (containerPatch entry.1 entry.2).ReadableWithin 4 := by
  refine .object fun m hm => ?_
  simp only [List.mem_cons, List.not_mem_nil, or_false] at hm
  obtain rfl | rfl := hm
  · exact .string entry.1
  · exact readableWithin_requirements entry.2

lemma readableWithin_resourcePatch (t : Target) (resources : Resources) :
    (resourcePatch t resources).ReadableWithin 9 := by
  have hcontainers : (Json.array resources.containers).ReadableWithin 5 := by
    refine .array fun v hv => ?_
    obtain ⟨entry, -, rfl⟩ := List.mem_map.mp hv
    exact readableWithin_containerPatch entry
  have hspec := (((hcontainers.singleton "containers").singleton "spec").singleton "template")
  refine .object fun m hm => ?_
  simp only [List.mem_cons, List.not_mem_nil, or_false] at hm
  obtain rfl | rfl | rfl | rfl := hm
  · exact .string t.groupVersion
  · exact .string t.kind
  · exact .singleton "name" (.string t.name)
  · exact hspec

namespace Report

lemma exists_patch_eq_text (format : Format) : ∃ layout, ∀ v, patch format v = v.text layout := by
  cases format with
  | text => exact ⟨.indented, fun _ => rfl⟩
  | json => exact ⟨.compact, fun _ => rfl⟩
  | indentedJson => exact ⟨.indented, fun _ => rfl⟩

lemma document?_patch (format : Format) (t : Target) (resources : Resources) :
    Json.document? (patch format (resourcePatch t resources)) =
      some (resourcePatch t resources) := by
  obtain ⟨layout, hpatch⟩ := exists_patch_eq_text format
  have hreadable := (readableWithin_resourcePatch t resources).mono
    (show 9 ≤ Json.maxDepth by decide)
  rw [hpatch, Json.document?_text_of_canonical layout hreadable (canonical_resourcePatch t resources)]

end Report

/-- Nothing is lost in a report in JSON, whichever its layout and whatever stands in its texts:
a size is read back if its counts fit into words, a target as the object of its four fields, and
a patch, which has no form but JSON, as the document that it was. -/
theorem reports_read_back :
    (∀ (size : ClusterSize), ∀ format ≠ Report.Format.text,
      ClusterSize.ofText? (size.report format) = some size ↔
        size.nodes < 2 ^ 64 ∧ size.cores < 2 ^ 64) ∧
    (∀ (t : Target), ∀ format ≠ Report.Format.text,
      ∃ v : Json, Json.document? (t.report format) = some v ∧
        v.HasExactly [("groupVersion", .string t.groupVersion), ("kind", .string t.kind),
          ("name", .string t.name), ("namespace", .string t.nspace)]) ∧
    (∀ (t t' : Target), ∀ format ≠ Report.Format.text, ∀ format' ≠ Report.Format.text,
      t.report format = t'.report format' → t = t') ∧
    ∀ (t : Target) (resources : Resources) (format : Report.Format),
      Json.document? (Report.patch format (resourcePatch t resources)) =
        some (resourcePatch t resources) := by
  refine ⟨fun size format hformat => ?_, fun t format hformat => ?_,
    fun t t' format hformat format' hformat' h => ?_, fun t resources format => ?_⟩
  · rw [size.report_eq_text hformat]
    exact size.ofText?_toJson (Report.layout format)
  · rw [t.report_eq_text hformat]
    exact ⟨t.toJson, t.document?_toJson (Report.layout format), rfl, t.fields_ascending⟩
  · rw [t.report_eq_text hformat, t'.report_eq_text hformat'] at h
    exact Target.toJson_injective (Json.text_injective h)
  · exact Report.document?_patch format t resources

/-- A name that would close its own quotes and go on with another kind is still a name. -/
theorem reports_read_back_quotes :
    ClusterSize.ofText? (ClusterSize.report .json ⟨3, 14⟩) = some ⟨3, 14⟩ ∧
    ∃ v : Json, Json.document? (Target.report .indentedJson
        ⟨"Deployment", "apps/v1", "web\",\n\"kind\": \"DaemonSet", "\\\t"⟩) = some v ∧
      v.HasExactly [("groupVersion", .string "apps/v1"), ("kind", .string "Deployment"),
        ("name", .string "web\",\n\"kind\": \"DaemonSet"), ("namespace", .string "\\\t")] := by
  have hwords : 3 < 2 ^ 64 ∧ 14 < 2 ^ 64 := ⟨by norm_num, by norm_num⟩
  exact ⟨(reports_read_back.1 ⟨3, 14⟩ .json (by decide)).mpr hwords,
    reports_read_back.2.1 _ .indentedJson (by decide)⟩

end WorkloadScaling
