import Mathlib
import WorkloadScaling.Schema.Shape

/-!
# Parts of documents

What stands under a key of a document, said of the members as they are written, and what the shape
of an object says of a part.
-/
namespace WorkloadScaling

variable {α β : Type}

lemma forall₂_iff_eq_map {R : α → β → Prop} {f : α → β} (h : ∀ a b, R a b ↔ b = f a)
    {as : List α} {bs : List β} : List.Forall₂ R as bs ↔ bs = as.map f := by
  have hR : R = fun a b => f a = b := by
    funext a b
    exact propext ((h a b).trans eq_comm)
  rw [hR, ← List.forall₂_map_left_iff, List.forall₂_eq_eq_eq, eq_comm]

lemma optionRel_iff_eq_map {R : α → β → Prop} {f : α → β} (h : ∀ a b, R a b ↔ b = f a)
    {a : Option α} {b : Option β} : Option.Rel R a b ↔ b = a.map f := by
  constructor
  · rintro (hab | _)
    · rw [(h _ _).mp hab, Option.map_some]
    · rfl
  · rintro rfl
    cases a with
    | none => exact .none
    | some a => exact .some ((h _ _).mpr rfl)

namespace Json

/-- What stands under a key. The last member of that name counts, and null is nothing. -/
inductive Under (v : Json) (key : String) : Option Json → Prop
  | bare : (∀ members, v ≠ .object members) → Under v key none
  | unnamed {members : List (String × Json)} :
      v = .object members → (∀ m ∈ members, m.1 ≠ key) → Under v key none
  | null {before after : List (String × Json)} :
      v = .object (before ++ (key, .null) :: after) → (∀ m ∈ after, m.1 ≠ key) → Under v key none
  | part {before after : List (String × Json)} {x : Json} :
      v = .object (before ++ (key, x) :: after) → (∀ m ∈ after, m.1 ≠ key) → x ≠ .null →
      Under v key (some x)

inductive TextUnder (v : Json) (key : String) : String → Prop
  | written {s : String} : v.Under key (some (.string s)) → TextUnder v key s
  | unwritten : (∀ s, ¬v.Under key (some (.string s))) → TextUnder v key ""

inductive ItemsUnder (v : Json) (key : String) : List Json → Prop
  | listed {items : List Json} : v.Under key (some (.array items)) → ItemsUnder v key items
  | unlisted : (∀ items, ¬v.Under key (some (.array items))) → ItemsUnder v key []

variable {v x : Json} {key s : String} {items : List Json} {members : List (String × Json)}

lemma find?_eq_some_iff_append : find? members key = some x ↔
    ∃ before after, members = before ++ (key, x) :: after ∧ ∀ m ∈ after, m.1 ≠ key := by
  unfold find?
  simp only [Option.map_eq_some_iff, List.find?_eq_some_iff_append]
  constructor
  · rintro ⟨⟨_, _⟩, ⟨hkey, after, before, hmembers, hafter⟩, rfl⟩
    obtain rfl := beq_iff_eq.mp hkey
    refine ⟨before.reverse, after.reverse, ?_, fun m hm => ?_⟩
    · rw [← members.reverse_reverse, hmembers]
      simp
    · simpa using hafter m (List.mem_reverse.mp hm)
  · rintro ⟨before, after, rfl, hafter⟩
    refine ⟨(key, x), ⟨beq_self_eq_true key, after.reverse, before.reverse, by simp, ?_⟩, rfl⟩
    intro m hm
    simpa using hafter m (List.mem_reverse.mp hm)

lemma find?_eq_none_iff_ne : find? members key = none ↔ ∀ m ∈ members, m.1 ≠ key := by
  simp [find?]

lemma member?_object (h : find? members key = some x) (hx : x ≠ .null) :
    member? key (.object members) = some x := by
  cases x with
  | null => contradiction
  | _ => simp only [member?, h]

lemma Under.member?_eq {part : Option Json} (h : v.Under key part) : v.member? key = part := by
  cases h with
  | bare hbare =>
    cases v with
    | object members => exact absurd rfl (hbare members)
    | _ => rfl
  | unnamed hv hnone =>
    subst hv
    simp only [member?, find?_eq_none_iff_ne.mpr hnone]
  | null hv hafter =>
    subst hv
    simp only [member?, find?_eq_some_iff_append.mpr ⟨_, _, rfl, hafter⟩]
  | part hv hafter hx =>
    subst hv
    exact member?_object (find?_eq_some_iff_append.mpr ⟨_, _, rfl, hafter⟩) hx

lemma under_member? (v : Json) (key : String) : v.Under key (v.member? key) := by
  cases v with
  | object members =>
    cases hfind : find? members key with
    | none =>
      simp only [member?, hfind]
      exact .unnamed rfl (find?_eq_none_iff_ne.mp hfind)
    | some x =>
      obtain ⟨before, after, rfl, hafter⟩ := find?_eq_some_iff_append.mp hfind
      by_cases hx : x = .null
      · subst hx
        simp only [member?, hfind]
        exact .null rfl hafter
      · rw [member?_object hfind hx]
        exact .part rfl hafter hx
  | _ => exact .bare (by simp)

lemma under_iff {part : Option Json} : v.Under key part ↔ part = v.member? key :=
  ⟨fun h => h.member?_eq.symm, fun h => h ▸ under_member? v key⟩

lemma textUnder_iff : v.TextUnder key s ↔ s = (v.textAt? key).getD "" := by
  constructor
  · rintro (h | h)
    · rw [textAt?, h.member?_eq]
      rfl
    · unfold textAt?
      split
      · next s hs => exact absurd (under_iff.mpr hs.symm) (h s)
      · rfl
  · rintro rfl
    unfold textAt?
    split
    · next s hs => exact .written (under_iff.mpr hs.symm)
    · next hs => exact .unwritten fun s h => hs s h.member?_eq

lemma itemsUnder_iff : v.ItemsUnder key items ↔ items = v.itemsAt key := by
  constructor
  · rintro (h | h)
    · rw [itemsAt, h.member?_eq]
    · unfold itemsAt
      split
      · next items hitems => exact absurd (under_iff.mpr hitems.symm) (h items)
      · rfl
  · rintro rfl
    unfold itemsAt
    split
    · next items hitems => exact .listed (under_iff.mpr hitems.symm)
    · next hitems => exact .unlisted fun items h => hitems items h.member?_eq

end Json

namespace Shape

variable {fields : List (String × Shape)} {shape : Shape} {key : String} {v x : Json} {depth : ℕ}

lemma admits_of_admitsField (hfield : fields.lookup key = some shape) (hx : x ≠ .null)
    (h : admitsField depth fields key x) : shape.admits depth x := by
  induction fields with
  | nil => cases hfield
  | cons field fields ih =>
    obtain ⟨name, named⟩ := field
    by_cases hname : name = key
    · obtain rfl : named = shape := by simpa [List.lookup_cons, hname] using hfield
      cases x with
      | null => contradiction
      | _ => simpa [admitsField, admitsOrNull, hname] using h
    · have hkey : (key == name) = false := beq_false_of_ne (Ne.symm hname)
      exact ih (by simpa [List.lookup_cons, hkey] using hfield) (by simpa [admitsField, hname] using h)

lemma admits_of_under (hfield : fields.lookup key = some shape)
    (h : (object fields).admits depth v) (hpart : v.Under key (some x)) :
    shape.admits (depth + 1) x := by
  cases hpart with
  | part hv _ hx =>
    subst hv
    simp only [admits, List.all_eq_true] at h
    exact admits_of_admitsField hfield hx (h (key, x) (by simp))

end Shape

end WorkloadScaling
