import WorkloadScaling.Text.Lowercase

/-!
# Keywords

A fixed vocabulary is a list of lower-case words with their meanings. A text names a meaning
when its lower-case form is one of the words.
-/
namespace WorkloadScaling.Text

def keyword? {α : Type} (vocabulary : List (String × α)) (s : String) : Option α :=
  (vocabulary.find? fun (word, _) => word.toList == lower s.toList).map Prod.snd

/-- The meaning of a text, or what is told of a text that has none. -/
def keyword {ε α : Type} (refusal : String → ε) (vocabulary : List (String × α)) (s : String) :
    Except ε α :=
  match keyword? vocabulary s with
  | some a => .ok a
  | none => .error (refusal s)

theorem keyword_eq_ok_iff {ε α : Type} {refusal : String → ε} {vocabulary : List (String × α)}
    {s : String} {a : α} : keyword refusal vocabulary s = .ok a ↔ keyword? vocabulary s = some a := by
  unfold keyword
  cases keyword? vocabulary s <;> simp

theorem keyword_eq_error_iff {ε α : Type} {refusal : String → ε} {vocabulary : List (String × α)}
    {s : String} {e : ε} : keyword refusal vocabulary s = .error e ↔
      e = refusal s ∧ keyword? vocabulary s = none := by
  unfold keyword
  cases keyword? vocabulary s <;> simp [eq_comm]

theorem mem_of_keyword? {α : Type} {vocabulary : List (String × α)} {s : String} {a : α}
    (h : keyword? vocabulary s = some a) :
    ∃ word, (word, a) ∈ vocabulary ∧ word.toList = lower s.toList := by
  obtain ⟨⟨word, b⟩, hfind, rfl⟩ := Option.map_eq_some_iff.1 h
  exact ⟨word, List.mem_of_find?_eq_some hfind, by simpa using List.find?_some hfind⟩

end WorkloadScaling.Text
