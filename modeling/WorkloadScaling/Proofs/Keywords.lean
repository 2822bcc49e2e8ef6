import Mathlib
import WorkloadScaling.Report
import WorkloadScaling.Text.Blank

/-!
# Keywords in any case

Lower case as Unicode has it takes some characters outside ASCII to texts with ASCII letters in them.
No keyword is met that way: what is read as a keyword differs from it in the case of ASCII letters
alone.
-/
namespace WorkloadScaling.Text

/-- Texts of one length that differ at most in the case of ASCII letters. -/
def EqUpToCase (s t : String) : Prop :=
  List.Forall₂ (fun c d => c.toLower = d.toLower) s.toList t.toList

/-- A reader takes the words of a list in any case for what they mean, and refuses every other
text. A character outside ASCII or a blank is in none of the words. -/
structure ReadsExactly {ε α : Type} (read : String → Except ε α) (words : List (String × α))
    (refusal : String → ε) : Prop where
  accepts : ∀ s a, read s = .ok a ↔ ∃ word, (word, a) ∈ words ∧ EqUpToCase s word
  refuses : ∀ s e, read s = .error e ↔ e = refusal s ∧ ∀ p ∈ words, ¬EqUpToCase s p.1
  strange : ∀ s, (∃ c ∈ s.toList, 128 ≤ c.toNat ∨ isBlank c = true) → read s = .error (refusal s)

/-- A character that only it and its capital become in lower case. The sign for one kelvin becomes
a plain `k`. -/
def isPlain (c : Char) : Bool :=
  decide (c.toNat < 128) && c.toLower == c && c != 'k' && !isBlank c

lemma toNat_ofNat_of_valid {n : ℕ} (h : n.isValidChar) : (Char.ofNat n).toNat = n := by
  rw [Char.ofNat, dif_pos h]
  rfl

lemma caseRuns_shift : ∀ run ∈ caseRuns,
    (128 ≤ run.first + run.shift ∧ run.last + run.shift < 0xD800) ∨
    (0xE000 ≤ run.first + run.shift ∧ run.last + run.shift < 0x110000) ∨
    (run.first = 0x212A ∧ run.last = 0x212A ∧ run.shift = -8383) := by
  decide +kernel

lemma isPlain_of_run {run : CaseRun} {c : Char} (hrun : run ∈ caseRuns)
    (hc : run.holds c.toNat = true) :
    isPlain (Char.ofNat (c.toNat + run.shift).toNat) = false := by
  simp only [CaseRun.holds, Bool.and_eq_true, decide_eq_true_eq] at hc
  obtain ⟨⟨hfirst, hlast⟩, -⟩ := hc
  rcases caseRuns_shift run hrun with ⟨hlow, hhigh⟩ | ⟨hlow, hhigh⟩ | ⟨hf, hl, hshift⟩
  · have hvalid : (c.toNat + run.shift).toNat.isValidChar := .inl (by omega)
    have hlarge : ¬(c.toNat + run.shift).toNat < 128 := by omega
    simp [isPlain, toNat_ofNat_of_valid hvalid, hlarge]
  · have hvalid : (c.toNat + run.shift).toNat.isValidChar := .inr ⟨by omega, by omega⟩
    have hlarge : ¬(c.toNat + run.shift).toNat < 128 := by omega
    simp [isPlain, toNat_ofNat_of_valid hvalid, hlarge]
  · have hkelvin : (c.toNat + run.shift).toNat = 'k'.toNat := by
      have hk : 'k'.toNat = 107 := rfl
      omega
    rw [hkelvin, Char.ofNat_toNat]
    decide

lemma exists_not_isPlain {c : Char} (hc : 128 ≤ c.toNat) :
    ∃ d ∈ lowerChar c, isPlain d = false := by
  have hascii : ¬c.toNat < 128 := Nat.not_lt.mpr hc
  unfold lowerChar
  rw [if_neg hascii]
  split
  · exact ⟨Char.ofNat 0x307, by simp, by decide⟩
  · split
    · next run hfind =>
      have hholds : run.holds c.toNat = true := by
        simpa using List.find?_some hfind
      exact ⟨_, List.mem_singleton_self _,
        isPlain_of_run (List.mem_of_find?_eq_some hfind) hholds⟩
    · exact ⟨c, List.mem_singleton_self c, by simp [isPlain, hascii]⟩

lemma lowerChar_of_ascii {c : Char} (hc : c.toNat < 128) : lowerChar c = [c.toLower] := by
  rw [lowerChar, if_pos hc]

lemma bounds_of_isUpper {c : Char} (h : c.isUpper = true) : 65 ≤ c.toNat ∧ c.toNat ≤ 90 := by
  simp only [Char.isUpper, decide_eq_true_eq] at h
  exact h

lemma toNat_lt_of_isPlain_toLower {c : Char} (h : isPlain c.toLower = true) : c.toNat < 128 := by
  by_cases hupper : c.isUpper
  · have hbounds := bounds_of_isUpper hupper
    omega
  · rw [Char.toLower_eq_of_not_isUpper (by simpa using hupper)] at h
    simp only [isPlain, Bool.and_eq_true, decide_eq_true_eq] at h
    exact h.1.1.1

lemma lower_of_ascii {s : List Char} (hs : ∀ c ∈ s, c.toNat < 128) :
    lower s = s.map Char.toLower := by
  induction s with
  | nil => rfl
  | cons c s ih =>
    rw [List.forall_mem_cons] at hs
    have hrest : s.flatMap lowerChar = s.map Char.toLower := ih hs.2
    rw [lower, List.flatMap_cons, lowerChar_of_ascii hs.1, hrest, List.map_cons,
      List.singleton_append]

/-- A text meets a plain word in lower case if it does so by the case of ASCII letters alone. -/
lemma lower_eq_iff {s word : List Char} (hword : ∀ c ∈ word, isPlain c = true) :
    lower s = word ↔ s.map Char.toLower = word := by
  constructor
  · rintro rfl
    have hascii : ∀ c ∈ s, c.toNat < 128 := by
      intro c hc
      by_contra hlarge
      obtain ⟨d, hd, hplain⟩ := exists_not_isPlain (Nat.not_lt.mp hlarge)
      have hmem : d ∈ lower s := List.mem_flatMap.mpr ⟨c, hc, hd⟩
      simp [hword d hmem] at hplain
    exact (lower_of_ascii hascii).symm
  · rintro rfl
    exact lower_of_ascii fun c hc =>
      toNat_lt_of_isPlain_toLower (hword c.toLower (List.mem_map_of_mem hc))

lemma map_toLower_of_plain {word : List Char} (hword : ∀ c ∈ word, isPlain c = true) :
    word.map Char.toLower = word := by
  conv_rhs => rw [← List.map_id word]
  refine List.map_congr_left fun c hc => ?_
  have hplain := hword c hc
  simp only [isPlain, Bool.and_eq_true, beq_iff_eq] at hplain
  exact hplain.1.1.2

lemma eqUpToCase_iff_map (s t : String) :
    EqUpToCase s t ↔ s.toList.map Char.toLower = t.toList.map Char.toLower := by
  rw [← List.forall₂_eq_eq_eq, List.forall₂_map_left_iff, List.forall₂_map_right_iff]
  rfl

lemma eqUpToCase_iff (s : String) {word : String} (hword : ∀ c ∈ word.toList, isPlain c = true) :
    EqUpToCase s word ↔ word.toList = lower s.toList := by
  rw [eqUpToCase_iff_map, map_toLower_of_plain hword, ← lower_eq_iff hword, eq_comm]

structure IsPlainVocabulary {α : Type} (vocabulary : List (String × α)) : Prop where
  distinct : (vocabulary.map Prod.fst).Nodup
  plain : ∀ p ∈ vocabulary, p.1.toList.all isPlain = true

variable {ε α : Type} {vocabulary : List (String × α)}

lemma IsPlainVocabulary.isPlain (h : IsPlainVocabulary vocabulary) {p : String × α}
    (hp : p ∈ vocabulary) : ∀ c ∈ p.1.toList, isPlain c = true :=
  List.all_eq_true.mp (h.plain p hp)

lemma find?_word_eq_some (hdistinct : (vocabulary.map Prod.fst).Nodup) {p : String × α}
    (hp : p ∈ vocabulary) :
    (vocabulary.find? fun (word, _) => word.toList == p.1.toList) = some p := by
  induction vocabulary with
  | nil => cases hp
  | cons q rest ih =>
    rw [List.map_cons, List.nodup_cons] at hdistinct
    obtain rfl | hrest := List.mem_cons.mp hp
    · simp
    · have hne : q.1 ≠ p.1 := fun h => hdistinct.1 (h ▸ List.mem_map_of_mem hrest)
      have hchars : q.1.toList ≠ p.1.toList := fun h => hne (String.toList_inj.mp h)
      rw [List.find?_cons_of_neg (by simpa using hchars)]
      exact ih hdistinct.2 hrest

lemma keyword?_eq_some_iff (h : IsPlainVocabulary vocabulary) (s : String) (a : α) :
    keyword? vocabulary s = some a ↔ ∃ word, (word, a) ∈ vocabulary ∧ EqUpToCase s word := by
  constructor
  · intro hread
    obtain ⟨word, hmem, hlower⟩ := mem_of_keyword? hread
    exact ⟨word, hmem, (eqUpToCase_iff s (h.isPlain hmem)).mpr hlower⟩
  · rintro ⟨word, hmem, hcase⟩
    have hlower := (eqUpToCase_iff s (h.isPlain hmem)).mp hcase
    rw [keyword?, ← hlower, find?_word_eq_some h.distinct hmem, Option.map_some]

lemma keyword?_eq_none_iff (h : IsPlainVocabulary vocabulary) (s : String) :
    keyword? vocabulary s = none ↔ ∀ p ∈ vocabulary, ¬EqUpToCase s p.1 := by
  rw [Option.eq_none_iff_forall_ne_some]
  constructor
  · intro hnone p hp hcase
    exact hnone p.2 ((keyword?_eq_some_iff h s p.2).mpr ⟨p.1, hp, hcase⟩)
  · intro hall a hread
    obtain ⟨word, hmem, hcase⟩ := (keyword?_eq_some_iff h s a).mp hread
    exact hall _ hmem hcase

lemma isPlain_toLower {s word : String} (hword : ∀ c ∈ word.toList, isPlain c = true)
    (hcase : EqUpToCase s word) {c : Char} (hc : c ∈ s.toList) : isPlain c.toLower = true := by
  rw [eqUpToCase_iff_map, map_toLower_of_plain hword] at hcase
  exact hword _ (hcase ▸ List.mem_map_of_mem hc)

lemma isPlain_toLower_eq_false {c : Char} (hc : 128 ≤ c.toNat ∨ isBlank c = true) :
    isPlain c.toLower = false := by
  have hranges : ∀ run ∈ blankRanges, run.2 < 65 ∨ 90 < run.1 := by decide
  have hupper : c.isUpper = false := by
    rw [Bool.eq_false_iff]
    intro hupper
    have hbounds := bounds_of_isUpper hupper
    rcases hc with hlarge | hblank
    · omega
    · obtain ⟨run, hrun, hrange⟩ := Ranges.contains_iff.mp hblank
      have houtside := hranges run hrun
      omega
  rw [Char.toLower_eq_of_not_isUpper (by simpa using hupper)]
  rcases hc with hlarge | hblank
  · simp [isPlain, Nat.not_lt.mpr hlarge]
  · simp [isPlain, hblank]

theorem readsExactly_keyword (h : IsPlainVocabulary vocabulary) (refusal : String → ε) :
    ReadsExactly (keyword refusal vocabulary) vocabulary refusal := by
  have hrefused : ∀ s, keyword? vocabulary s = none →
      keyword refusal vocabulary s = .error (refusal s) := by
    intro s hnone
    rw [keyword, hnone]
  refine ⟨fun s a => ?_, fun s e => ?_, fun s hstrange => hrefused s ?_⟩
  · rw [← keyword?_eq_some_iff h, keyword_eq_ok_iff]
  · rw [← keyword?_eq_none_iff h, keyword_eq_error_iff]
  · rw [keyword?_eq_none_iff h]
    intro p hp hcase
    obtain ⟨c, hc, hforeign⟩ := hstrange
    have hplain := isPlain_toLower (h.isPlain hp) hcase hc
    rw [isPlain_toLower_eq_false hforeign] at hplain
    cases hplain

end WorkloadScaling.Text

namespace WorkloadScaling

open Text

/-- Kinds, formats and levels are named by their words in any case of ASCII letters and by no other
text. What is refused is told as it was written. -/
theorem keywords_read_exactly :
    ReadsExactly Workload.ofKind
      [("deployment", .deployment), ("daemonset", .daemonSet), ("replicaset", .replicaSet)]
      Failure.unsupportedKind ∧
    ReadsExactly Report.Format.ofName
      [("text", .text), ("table", .text), ("json", .json), ("json-pretty", .indentedJson),
        ("jsonpretty", .indentedJson)]
      (fun s => "Unknown output format: " ++ s) ∧
    ReadsExactly Log.Level.ofName
      [("trace", .trace), ("debug", .debug), ("info", .info), ("warn", .warn), ("warning", .warn),
        ("error", .error)]
      (fun s => "Unknown log level: " ++ s) := by
  have hkinds : IsPlainVocabulary Workload.vocabulary := ⟨by decide, by decide⟩
  have hformats : IsPlainVocabulary Report.Format.vocabulary := ⟨by decide, by decide⟩
  have hlevels : IsPlainVocabulary Log.Level.vocabulary := ⟨by decide, by decide⟩
  exact ⟨readsExactly_keyword hkinds _, readsExactly_keyword hformats _,
    readsExactly_keyword hlevels _⟩

end WorkloadScaling
