import WorkloadScaling.Text.Utf8
import WorkloadScaling.Proofs.JsonRoundTrip
import WorkloadScaling.Proofs.UpdateCommand

/-!
# Resources files in JSON

What a list of requirements looks like in JSON, and which files are read as that. A file gives the
list that was written, unless it is empty or leaves a container without a name, and no other content
gives a list.
-/
namespace WorkloadScaling

def Json.ShowsResources (m : Resources) (v : Json) : Prop :=
  ∃ shown : List Json, v.HasExactly (m.names.zip shown) ∧
    List.Forall₂ (fun (entry : String × Requirements) (part : Json) =>
      part.ShowsRequirements entry.2) m.entries shown

lemma Json.showsResources_iff (m : Resources) (v : Json) :
    v.ShowsResources m ↔ v = m.toJson := by
  have hparts : ∀ (entry : String × Requirements) (part : Json),
      part.ShowsRequirements entry.2 ↔ part = entry.2.toJson :=
    fun entry part => showsRequirements_iff entry.2 part
  have hzip : m.names.zip (m.entries.map fun entry => entry.2.toJson) =
      m.entries.map fun entry => (entry.1, entry.2.toJson) :=
    List.zip_map'
  have hnames : ((m.names.zip (m.entries.map fun entry => entry.2.toJson)).map
      Prod.fst).Pairwise (· < ·) := by
    rw [List.map_fst_zip (by simp [NameMap.names])]
    exact m.ascending
  simp only [ShowsResources, forall₂_iff_eq_map hparts]
  constructor
  · rintro ⟨_, hv, rfl⟩
    rw [hv.eq_object, hzip]
    rfl
  · rintro rfl
    exact ⟨_, ⟨congrArg Json.object hzip.symm, hnames⟩, rfl⟩

namespace ResourcesFile

/-- The name of the file ends in a dot and this, behind something else. -/
def HasExtension (path extension : String) : Prop :=
  ∃ stem ≠ [], fileName path = stem ++ '.' :: extension.toList

lemma extension?_eq_some {name e : List Char} (h : extension? name = some e) :
    ∃ stem ≠ [], name = stem ++ '.' :: e := by
  unfold extension? at h
  split at h
  · cases h
  · dsimp only at h
    split at h
    · next c before rest hdrop =>
      obtain rfl := Option.some.inj h
      have hdot : c = '.' := by
        have hhead := List.head?_dropWhile_not (· ≠ '.') name.reverse
        rw [hdrop] at hhead
        simpa using hhead
      have hcut := List.takeWhile_append_dropWhile (p := (· ≠ '.')) (l := name.reverse)
      rw [hdrop, hdot] at hcut
      refine ⟨(before :: rest).reverse, by simp, ?_⟩
      calc name = name.reverse.reverse := (List.reverse_reverse name).symm
        _ = (before :: rest).reverse ++ '.' :: (name.reverse.takeWhile (· ≠ '.')).reverse := by
          conv_lhs => rw [← hcut]
          simp
    · cases h

lemma notationOf_eq_json {path : String} (hyaml : ¬HasExtension path "yaml")
    (hyml : ¬HasExtension path "yml") : notationOf path = .json := by
  unfold notationOf
  split
  · next e he =>
    obtain ⟨stem, hstem, hname⟩ := extension?_eq_some he
    rw [if_neg]
    rintro (rfl | rfl)
    · exact hyaml ⟨stem, hstem, hname⟩
    · exact hyml ⟨stem, hstem, hname⟩
  · rfl

/-- What becomes of the bytes of a file that is read as JSON, and in which order: first they must be
text, then a list of requirements, and then one that can be used. -/
inductive Outcome (bytes : ByteArray) : Except Failure Resources → Prop
  | unreadable (invalid : ¬bytes.IsValidUTF8) : Outcome bytes (.error .unreadable)
  | malformed {text : String} (encoded : bytes = text.toUTF8)
      (unread : (Json.parse? text).bind Resources.ofDocument? = none) :
      Outcome bytes (.error (.malformed .json))
  | empty {text : String} {m : Resources} (encoded : bytes = text.toUTF8)
      (read : (Json.parse? text).bind Resources.ofDocument? = some m) (unlisted : m.names = []) :
      Outcome bytes (.error .empty)
  | unnamed {text : String} {m : Resources} (encoded : bytes = text.toUTF8)
      (read : (Json.parse? text).bind Resources.ofDocument? = some m) (nameless : "" ∈ m.names) :
      Outcome bytes (.error (.badName ""))
  | loaded {text : String} {m : Resources} (encoded : bytes = text.toUTF8)
      (read : (Json.parse? text).bind Resources.ofDocument? = some m) (listed : m.names ≠ [])
      (named : "" ∉ m.names) : Outcome bytes (.ok m)

lemma isEmpty_iff (m : Resources) : m.isEmpty = true ↔ m.names = [] := by
  rw [NameMap.isEmpty, List.isEmpty_iff, NameMap.names, List.map_eq_nil_iff]

lemma check_of_empty {m : Resources} (h : m.names = []) : check m = .error .empty :=
  if_pos ((isEmpty_iff m).mpr h)

lemma check_of_unnamed {m : Resources} (h : "" ∈ m.names) : check m = .error (.badName "") := by
  have hlisted : ¬m.isEmpty = true := by
    rw [isEmpty_iff]
    exact List.ne_nil_of_mem h
  unfold check
  rw [if_neg hlisted]
  split
  · next name hfind =>
    obtain rfl : name = "" := by simpa using List.find?_some hfind
    rfl
  · next hfind => exact absurd (List.find?_eq_none.mp hfind "" h) (by simp)

lemma check_of_usable {m : Resources} (hlisted : m.names ≠ []) (hnamed : "" ∉ m.names) :
    check m = .ok m := by
  have hfind : m.names.find? (· = "") = none := by
    rw [List.find?_eq_none]
    intro name hname
    simpa using ne_of_mem_of_not_mem hname hnamed
  rw [check, if_neg (mt (isEmpty_iff m).mp hlisted), hfind]

lemma load_of_invalid (path : String) {bytes : ByteArray} (h : ¬bytes.IsValidUTF8) :
    load path (some bytes) = .error .unreadable := by
  rw [load, Option.bind_some, Text.fromUTF8?_eq_none_iff.mpr h]

variable {path : String}

lemma load_of_unread (hpath : notationOf path = .json) {text : String}
    (h : (Json.parse? text).bind Resources.ofDocument? = none) :
    load path (some text.toUTF8) = .error (.malformed .json) := by
  have hread : resources? .json text = none := h
  rw [load_of_text, hpath, hread]

lemma load_of_read (hpath : notationOf path = .json) {text : String} {m : Resources}
    (h : (Json.parse? text).bind Resources.ofDocument? = some m) :
    load path (some text.toUTF8) = check m := by
  have hread : resources? .json text = some m := h
  rw [load_of_text, hpath, hread]

lemma Outcome.load_eq (hpath : notationOf path = .json) {bytes : ByteArray}
    {result : Except Failure Resources} (h : Outcome bytes result) :
    load path (some bytes) = result := by
  cases h with
  | unreadable invalid => exact load_of_invalid path invalid
  | malformed encoded unread => exact encoded ▸ load_of_unread hpath unread
  | empty encoded read unlisted =>
    rw [encoded, load_of_read hpath read, check_of_empty unlisted]
  | unnamed encoded read nameless =>
    rw [encoded, load_of_read hpath read, check_of_unnamed nameless]
  | loaded encoded read listed named =>
    rw [encoded, load_of_read hpath read, check_of_usable listed named]

lemma exists_outcome (bytes : ByteArray) : ∃ result, Outcome bytes result := by
  cases htext : String.fromUTF8? bytes with
  | none => exact ⟨_, .unreadable (Text.fromUTF8?_eq_none_iff.mp htext)⟩
  | some text =>
    have hencoded := Text.fromUTF8?_eq_some_iff.mp htext
    cases hread : (Json.parse? text).bind Resources.ofDocument? with
    | none => exact ⟨_, .malformed hencoded hread⟩
    | some m =>
      by_cases hlisted : m.names = []
      · exact ⟨_, .empty hencoded hread hlisted⟩
      · by_cases hnamed : "" ∈ m.names
        · exact ⟨_, .unnamed hencoded hread hnamed⟩
        · exact ⟨_, .loaded hencoded hread hlisted hnamed⟩

lemma load_eq_iff (hpath : notationOf path = .json) (bytes : ByteArray)
    (result : Except Failure Resources) :
    load path (some bytes) = result ↔ Outcome bytes result := by
  constructor
  · rintro rfl
    obtain ⟨result, hresult⟩ := exists_outcome bytes
    exact hresult.load_eq hpath ▸ hresult
  · exact Outcome.load_eq hpath

lemma read_text (m : Resources) (layout : Json.Layout) :
    (Json.parse? (m.toJson.text layout)).bind Resources.ofDocument? = some m := by
  rw [Json.parse?_text, Option.bind_some, Resources.ofDocument?_toJson]

/-- A file that is not named as YAML is read as JSON. Written in either layout, a list of
requirements is loaded as it was, if it lists a container and names each one, and is refused for what
it lacks otherwise. Other content gives such a list too, or is refused for the first thing wrong. -/
theorem load_json (hyaml : ¬HasExtension path "yaml") (hyml : ¬HasExtension path "yml") :
    (∀ m : Resources, m.toJson.ShowsResources m ∧ ∀ layout,
      (m.names ≠ [] → "" ∉ m.names →
        load path (some (m.toJson.text layout).toUTF8) = .ok m) ∧
      (m.names = [] → load path (some (m.toJson.text layout).toUTF8) = .error .empty) ∧
      ("" ∈ m.names → load path (some (m.toJson.text layout).toUTF8) = .error (.badName ""))) ∧
    (∀ bytes m, load path (some bytes) = .ok m → m.names ≠ [] ∧ "" ∉ m.names) ∧
    ∀ bytes result, load path (some bytes) = result ↔ Outcome bytes result := by
  have hpath := notationOf_eq_json hyaml hyml
  refine ⟨fun m => ⟨(Json.showsResources_iff m m.toJson).mpr rfl, fun layout => ?_⟩,
    fun bytes m => names_of_load, load_eq_iff hpath⟩
  have hload := load_of_read hpath (read_text m layout)
  refine ⟨fun hlisted hnamed => ?_, fun hunlisted => ?_, fun hnameless => ?_⟩
  · rw [hload, check_of_usable hlisted hnamed]
  · rw [hload, check_of_empty hunlisted]
  · rw [hload, check_of_unnamed hnameless]

/-- An extension in capitals is another one. A part that is empty is kept apart from one that is
missing. -/
theorem load_json_capitals :
    let m : Resources := ⟨[("app\n", { limits := some .empty, claims := some ["\u2028"] }),
      ("web \"1\"", { requests := some ⟨[("cpu", "-0.5Ki ")], List.pairwise_singleton _ _⟩ })],
      by decide⟩
    ¬HasExtension "res.yml/web.YAML" "yaml" ∧ ¬HasExtension "res.yml/web.YAML" "yml" ∧
      m.names ≠ [] ∧ "" ∉ m.names ∧
      load "res.yml/web.YAML" (some (m.toJson.text .indented).toUTF8) = .ok m := by
  intro m
  have hname : (fileName "res.yml/web.YAML").getLast? = some 'L' := by decide +kernel
  have hyaml : ¬HasExtension "res.yml/web.YAML" "yaml" := by
    rintro ⟨stem, -, hcut⟩
    simp [hcut] at hname
  have hyml : ¬HasExtension "res.yml/web.YAML" "yml" := by
    rintro ⟨stem, -, hcut⟩
    simp [hcut] at hname
  have hlisted : m.names ≠ [] := by decide
  have hnamed : "" ∉ m.names := by decide
  exact ⟨hyaml, hyml, hlisted, hnamed,
    (((load_json hyaml hyml).1 m).2 .indented).1 hlisted hnamed⟩

end ResourcesFile

end WorkloadScaling
