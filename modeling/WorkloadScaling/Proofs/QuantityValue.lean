import Mathlib
import WorkloadScaling.Proofs.QuantityGrammar

/-!
# The value of a quantity

A literal denotes a rational number. It is read as a count of nano-units exactly when that count
is whole, and when neither the count nor any step on the way to it leaves 127 bits.
-/
namespace WorkloadScaling.Quantity

def Literal.coefficient (l : Literal) : ℕ := placeValue (l.whole ++ l.fraction)

def Multiplier.base : Multiplier → ℕ
  | .tenTo _ => 1
  | .twoTo k => 2 ^ k

def Multiplier.exponent : Multiplier → ℤ
  | .tenTo e => e
  | .twoTo _ => 0

/-- The power of ten that takes the coefficient to nano-units. -/
def Literal.shift (l : Literal) : ℤ := l.multiplier.exponent + 9 - l.fraction.length

def Literal.value (l : Literal) : ℚ :=
  (if l.negative then -1 else 1) * (l.coefficient / 10 ^ l.fraction.length) *
    (l.multiplier.base * 10 ^ l.multiplier.exponent)

/-- The steps that stand between a literal and its count keep within 127 bits. -/
structure Literal.Fits (l : Literal) : Prop where
  places : l.fraction.length ≤ 2 ^ 31 - 1
  coefficient : l.coefficient ≤ 2 ^ 127 - 1
  based : l.coefficient * l.multiplier.base ≤ 2 ^ 127 - 1
  least : -38 ≤ l.shift
  most : l.shift ≤ 38

structure Literal.Counts (l : Literal) (n : ℕ) : Prop where
  fits : l.Fits
  exact : (n : ℚ) = l.coefficient * l.multiplier.base * 10 ^ l.shift
  bounded : n ≤ 2 ^ 127 - 1

lemma bounded?_eq_some_iff {n m : ℕ} : bounded? n = some m ↔ n ≤ maxNanos ∧ n = m := by
  rw [bounded?, Option.ite_none_right_eq_some, Option.some.injEq]

lemma scale?_natCast {n m k : ℕ} :
    scale? n k = some m ↔ k ≤ 38 ∧ n * 10 ^ k ≤ maxNanos ∧ n * 10 ^ k = m := by
  unfold scale?
  rw [Int.natAbs_natCast]
  by_cases hk : 38 < k
  · simp [hk, Nat.not_le.mpr hk]
  · simp [hk, Nat.not_lt.mp hk, bounded?_eq_some_iff]

lemma scale?_neg_natCast {n m k : ℕ} (hk : 0 < k) :
    scale? n (-k) = some m ↔ k ≤ 38 ∧ m * 10 ^ k = n := by
  unfold scale?
  have hneg : ¬(0 : ℤ) ≤ -k := by omega
  have hpow : 0 < 10 ^ k := by positivity
  rw [Int.natAbs_neg, Int.natAbs_natCast]
  by_cases hlarge : 38 < k
  · simp [hlarge, Nat.not_le.mpr hlarge]
  · rw [if_neg hlarge, if_neg hneg, Option.ite_none_right_eq_some, Option.some.injEq]
    constructor
    · rintro ⟨hmod, rfl⟩
      exact ⟨Nat.not_lt.mp hlarge, Nat.div_mul_cancel (Nat.dvd_of_mod_eq_zero hmod)⟩
    · rintro ⟨-, rfl⟩
      exact ⟨Nat.mul_mod_left _ _, Nat.mul_div_cancel _ hpow⟩

/-- The scale finds the exact product or nothing; it never rounds. -/
theorem scale?_eq_some_iff {n m : ℕ} {x : ℤ} (hn : n ≤ maxNanos) :
    scale? n x = some m ↔
      -38 ≤ x ∧ x ≤ 38 ∧ m ≤ maxNanos ∧ (m : ℚ) = n * 10 ^ x := by
  have hten : (10 : ℚ) ≠ 0 := by norm_num
  rcases lt_or_ge x 0 with hx | hx
  · obtain ⟨k, rfl⟩ := Int.exists_eq_neg_ofNat hx.le
    have hk : 0 < k := by omega
    have hexact : (m : ℚ) = n * 10 ^ (-(k : ℤ)) ↔ m * 10 ^ k = n := by
      rw [zpow_neg, zpow_natCast, ← div_eq_mul_inv, eq_div_iff (pow_ne_zero k hten)]
      exact_mod_cast Iff.rfl
    rw [scale?_neg_natCast hk, hexact]
    constructor
    · rintro ⟨hlarge, rfl⟩
      exact ⟨by omega, by omega, le_trans (Nat.le_mul_of_pos_right m (by positivity)) hn, rfl⟩
    · rintro ⟨hleast, -, -, rfl⟩
      exact ⟨by omega, rfl⟩
  · obtain ⟨k, rfl⟩ := Int.eq_ofNat_of_zero_le hx
    have hexact : (m : ℚ) = n * 10 ^ (k : ℤ) ↔ n * 10 ^ k = m := by
      rw [zpow_natCast, eq_comm]
      exact_mod_cast Iff.rfl
    rw [scale?_natCast, hexact]
    constructor
    · rintro ⟨hlarge, hbound, rfl⟩
      exact ⟨by omega, by omega, hbound, rfl⟩
    · rintro ⟨-, hlarge, hbound, rfl⟩
      exact ⟨by omega, hbound, rfl⟩

lemma magnitude?_eq_scale? {l : Literal} {suffix : List Char} {n : ℕ}
    (hsome : ¬(l.whole = [] ∧ l.fraction = [])) (hpoint : '.' ∉ l.fraction)
    (hsuffix : Multiplier.ofSuffix? suffix = some l.multiplier) :
    Written.magnitude? ⟨l.negative, l.whole, l.fraction, suffix⟩ = some n ↔
      l.fraction.length ≤ maxPlaces ∧ l.coefficient ≤ maxNanos ∧
        l.coefficient * l.multiplier.base ≤ maxNanos ∧
          scale? (l.coefficient * l.multiplier.base) l.shift = some n := by
  simp only [Written.magnitude?, if_neg hsome, if_neg hpoint, hsuffix, digitsValue_eq,
    Option.bind_eq_bind, Option.bind_some, Option.bind_eq_some_iff, bounded?_eq_some_iff]
  by_cases hplaces : maxPlaces < l.fraction.length
  · simp [hplaces, Nat.not_le.mpr hplaces]
  · obtain ⟨negative, whole, fraction, m⟩ := l
    have hfew : fraction.length ≤ maxPlaces := Nat.not_lt.mp hplaces
    cases m with
    | tenTo e =>
      simp [hplaces, hfew, Literal.coefficient, Literal.shift, Multiplier.base,
        Multiplier.exponent]
    | twoTo k =>
      simp [hplaces, hfew, Literal.coefficient, Literal.shift, Multiplier.base,
        Multiplier.exponent, Option.bind_eq_some_iff, bounded?_eq_some_iff]

lemma magnitude?_eq_some_iff {l : Literal} {suffix : List Char} {n : ℕ}
    (hsome : ¬(l.whole = [] ∧ l.fraction = [])) (hpoint : '.' ∉ l.fraction)
    (hsuffix : Multiplier.ofSuffix? suffix = some l.multiplier) :
    Written.magnitude? ⟨l.negative, l.whole, l.fraction, suffix⟩ = some n ↔ l.Counts n := by
  rw [magnitude?_eq_scale? hsome hpoint hsuffix]
  constructor
  · rintro ⟨hplaces, hcoefficient, hbased, hscale⟩
    obtain ⟨hleast, hmost, hbound, hexact⟩ := (scale?_eq_some_iff hbased).mp hscale
    rw [Nat.cast_mul] at hexact
    exact ⟨⟨hplaces, hcoefficient, hbased, hleast, hmost⟩, hexact, hbound⟩
  · rintro ⟨⟨hplaces, hcoefficient, hbased, hleast, hmost⟩, hexact, hbound⟩
    rw [← Nat.cast_mul] at hexact
    exact ⟨hplaces, hcoefficient, hbased,
      (scale?_eq_some_iff hbased).mpr ⟨hleast, hmost, hbound, hexact⟩⟩

lemma Literal.ten_pow_shift (l : Literal) :
    (10 : ℚ) ^ l.shift = 10 ^ l.multiplier.exponent * 10 ^ 9 / 10 ^ l.fraction.length := by
  have hten : (10 : ℚ) ≠ 0 := by norm_num
  rw [shift, zpow_sub₀ hten, zpow_add₀ hten, zpow_natCast]
  norm_num

def Literal.magnitude (l : Literal) : ℚ := l.coefficient * l.multiplier.base * 10 ^ l.shift

lemma Literal.value_eq_magnitude (l : Literal) :
    l.value * 10 ^ 9 = if l.negative then -l.magnitude else l.magnitude := by
  rw [value, magnitude, l.ten_pow_shift]
  split <;> ring

lemma signed_cast (negative : Bool) (n : ℕ) :
    (signed negative n : ℚ) = if negative then -(n : ℚ) else n := by
  rw [signed, apply_ite Int.cast, Int.cast_neg, Int.cast_natCast]

lemma Literal.Counts.value_eq {l : Literal} {n : ℕ} (h : l.Counts n) :
    (signed l.negative n : ℚ) = l.value * 10 ^ 9 := by
  have hexact : (n : ℚ) = l.magnitude := h.exact
  rw [signed_cast, hexact, l.value_eq_magnitude]

lemma value?_eq_some_iff {w : Written} {n : ℤ} :
    w.value? = some ⟨n⟩ ↔ ∃ m : ℕ, w.magnitude? = some m ∧ n = signed w.negative m := by
  simp only [Written.value?, Option.map_eq_some_iff, Option.bind_eq_bind, Option.bind_eq_some_iff,
    Option.pure_def, Option.some.injEq, signed, Quantity.mk.injEq]
  constructor
  · rintro ⟨_, ⟨m, hm, rfl⟩, rfl⟩
    exact ⟨m, hm, rfl⟩
  · rintro ⟨m, hm, rfl⟩
    exact ⟨m, ⟨m, hm, rfl⟩, rfl⟩

lemma exists_literal_of_magnitude? {w : Written} {n : ℕ} (h : w.magnitude? = some n) :
    ∃ l : Literal, w = ⟨l.negative, l.whole, l.fraction, w.suffix⟩ ∧
      ¬(l.whole = [] ∧ l.fraction = []) ∧ '.' ∉ l.fraction ∧
        Multiplier.ofSuffix? w.suffix = some l.multiplier := by
  obtain ⟨negative, whole, fraction, suffix⟩ := w
  have hsome : ¬(whole = [] ∧ fraction = []) := by
    intro hnone
    simp [Written.magnitude?, hnone] at h
  have hpoint : '.' ∉ fraction := by
    intro hpoint
    simp [Written.magnitude?, hpoint] at h
  rcases hsuffix : Multiplier.ofSuffix? suffix with _ | m
  · simp [Written.magnitude?, hsuffix] at h
  · exact ⟨⟨negative, whole, fraction, m⟩, rfl, hsome, hpoint, rfl⟩

/-- The reader accepts the literals whose count fits, and gives the very number written. -/
theorem parse?_eq_some_iff (s : String) (n : ℤ) :
    (parse? s = some ⟨n⟩ ↔
      ∃ t l m, Text.Trimmed s.toList t ∧ Spells t l ∧ l.Counts m ∧ n = signed l.negative m) ∧
    (parse? s = some ⟨n⟩ →
      ∀ t l, Text.Trimmed s.toList t → Spells t l → (n : ℚ) = l.value * 10 ^ 9) := by
  have haccepted : parse? s = some ⟨n⟩ ↔
      ∃ t l m, Text.Trimmed s.toList t ∧ Spells t l ∧ l.Counts m ∧ n = signed l.negative m := by
    simp only [parse?, Option.bind_eq_some_iff, value?_eq_some_iff]
    constructor
    · rintro ⟨w, hread, m, hm, rfl⟩
      obtain ⟨l, hw, hsome, hpoint, hsuffix⟩ := exists_literal_of_magnitude? hm
      rw [hw] at hread hm ⊢
      obtain ⟨t, ht, hl⟩ := exists_spells_iff.mpr ⟨w.suffix, hread, hsome, hpoint, hsuffix⟩
      exact ⟨t, l, m, ht, hl, (magnitude?_eq_some_iff hsome hpoint hsuffix).mp hm, rfl⟩
    · rintro ⟨t, l, m, ht, hl, hcounts, rfl⟩
      obtain ⟨suffix, hread, hsome, hpoint, hsuffix⟩ := exists_spells_iff.mp ⟨t, ht, hl⟩
      exact ⟨_, hread, m, (magnitude?_eq_some_iff hsome hpoint hsuffix).mpr hcounts, rfl⟩
  refine ⟨haccepted, fun hparse t l ht hl => ?_⟩
  obtain ⟨t', l', m, ht', hl', hcounts, rfl⟩ := haccepted.mp hparse
  rw [spells_unique ht hl ht' hl', hcounts.value_eq]

example : [parse? "1E", parse? "1E3", parse? "1Ei", parse? "1e"] =
    [some ⟨10 ^ 27⟩, some ⟨10 ^ 12⟩, some ⟨2 ^ 60 * 10 ^ 9⟩, none] := by decide +kernel

end WorkloadScaling.Quantity
