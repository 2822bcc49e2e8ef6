import Mathlib
import WorkloadScaling.Proofs.QuantityValue

/-!
# Values that can be held

A value can be held if it is a whole number of nano-units within 127 bits. It is read if the way
it is written does not leave 127 bits either. A count other than zero that is written with no digit
finer than a nano-unit always is.
-/
namespace WorkloadScaling.Quantity

/-- A literal denotes a count of nano-units that can be held. -/
structure Literal.Denotes (l : Literal) (n : ℤ) : Prop where
  exact : l.value * 10 ^ 9 = n
  bounded : n.natAbs ≤ 2 ^ 127 - 1

lemma Literal.magnitude_nonneg (l : Literal) : 0 ≤ l.magnitude := by
  unfold magnitude
  positivity

lemma Multiplier.base_pos (m : Multiplier) : 0 < m.base := by
  cases m with
  | tenTo e => exact Nat.one_pos
  | twoTo k => exact Nat.two_pow_pos k

namespace Literal.Denotes

variable {l : Literal} {n : ℤ}

lemma natAbs_eq (h : l.Denotes n) : (n.natAbs : ℚ) = l.magnitude := by
  have hexact := h.exact
  have hnonneg := l.magnitude_nonneg
  rw [l.value_eq_magnitude] at hexact
  rw [Nat.cast_natAbs, Int.cast_abs, ← hexact]
  split
  · rw [abs_neg, abs_of_nonneg hnonneg]
  · exact abs_of_nonneg hnonneg

lemma signed_natAbs (h : l.Denotes n) : n = signed l.negative n.natAbs := by
  have hexact := h.exact
  rw [l.value_eq_magnitude, ← h.natAbs_eq] at hexact
  have hcast : (n : ℚ) = signed l.negative n.natAbs := by
    rw [signed_cast, hexact]
  exact_mod_cast hcast

lemma counts_iff_fits (h : l.Denotes n) : l.Counts n.natAbs ↔ l.Fits :=
  ⟨Counts.fits, fun hfits => ⟨hfits, h.natAbs_eq, h.bounded⟩⟩

lemma coefficient_eq_zero_iff (h : l.Denotes n) : l.coefficient = 0 ↔ n = 0 := by
  have hbase : (l.multiplier.base : ℚ) ≠ 0 := by exact_mod_cast l.multiplier.base_pos.ne'
  have hpower : (10 : ℚ) ^ l.shift ≠ 0 := zpow_ne_zero _ (by norm_num)
  have hmagnitude := h.natAbs_eq
  rw [Literal.magnitude] at hmagnitude
  rw [← Int.natAbs_eq_zero, ← Nat.cast_eq_zero (R := ℚ), ← Nat.cast_eq_zero (R := ℚ), hmagnitude]
  simp [hbase, hpower]

lemma fits_iff_of_zero (h : l.Denotes 0) :
    l.Fits ↔ l.fraction.length ≤ 2 ^ 31 - 1 ∧ -38 ≤ l.shift ∧ l.shift ≤ 38 := by
  have hzero := h.coefficient_eq_zero_iff.mpr rfl
  constructor
  · intro hfits
    exact ⟨hfits.places, hfits.least, hfits.most⟩
  · rintro ⟨hplaces, hleast, hmost⟩
    exact ⟨hplaces, by simp [hzero], by simp [hzero], hleast, hmost⟩

/-- Nothing on the way to a count exceeds it, if no digit is finer than a nano-unit. -/
lemma fits_of_coarse (h : l.Denotes n) (hne : n ≠ 0) (hshift : 0 ≤ l.shift)
    (hexponent : l.multiplier.exponent ≤ 2147483638) : l.Fits := by
  obtain ⟨k, hk⟩ := Int.eq_ofNat_of_zero_le hshift
  have hmagnitude : n.natAbs = l.coefficient * l.multiplier.base * 10 ^ k := by
    have hcast := h.natAbs_eq
    rw [Literal.magnitude, hk, zpow_natCast] at hcast
    exact_mod_cast hcast
  have hbound := h.bounded
  have hcoefficient : 0 < l.coefficient :=
    Nat.pos_of_ne_zero fun hzero => hne (h.coefficient_eq_zero_iff.mp hzero)
  have hbased : 0 < l.coefficient * l.multiplier.base :=
    Nat.mul_pos hcoefficient l.multiplier.base_pos
  have hle : l.coefficient * l.multiplier.base ≤ n.natAbs :=
    hmagnitude ▸ Nat.le_mul_of_pos_right _ (by positivity)
  have hpower : 10 ^ k ≤ n.natAbs := hmagnitude ▸ Nat.le_mul_of_pos_left _ hbased
  have hfew : k ≤ 38 := by
    by_contra hlarge
    have hleast : 10 ^ 39 ≤ 10 ^ k := Nat.pow_le_pow_right (by norm_num) (by omega)
    omega
  have hplaces : l.fraction.length ≤ 2 ^ 31 - 1 := by
    unfold Literal.shift at hshift
    omega
  refine ⟨hplaces, ?_, hle.trans hbound, by omega, by omega⟩
  exact (Nat.le_mul_of_pos_right _ l.multiplier.base_pos).trans (hle.trans hbound)

end Literal.Denotes

def Literal.pad (l : Literal) (k : ℕ) : Literal :=
  { l with fraction := l.fraction ++ List.replicate k '0' }

namespace Literal

variable (l : Literal) (k : ℕ)

lemma pad_shift : (l.pad k).shift = l.shift - k := by
  simp only [shift, pad, List.length_append, List.length_replicate, Nat.cast_add]
  omega

lemma pad_coefficient : (l.pad k).coefficient = l.coefficient * 10 ^ k := by
  have hzeros : ∀ ds : List Char,
      placeValue (ds ++ List.replicate k '0') = placeValue ds * 10 ^ k := by
    intro ds
    simp [placeValue, Nat.ofDigits_append, Nat.ofDigits_replicate_zero, Nat.mul_comm]
  rw [coefficient, pad, ← List.append_assoc, hzeros, coefficient]

lemma pad_value : (l.pad k).value = l.value := by
  have hten : (10 : ℚ) ^ k ≠ 0 := by positivity
  have hlength : (l.pad k).fraction.length = l.fraction.length + k := by
    simp [pad]
  rw [value, pad_coefficient, hlength, Nat.cast_mul, Nat.cast_pow, Nat.cast_ofNat, pow_add,
    mul_div_mul_right _ _ hten, value]
  rfl

lemma exists_pad_not_fits : ∃ k, ¬(l.pad k).Fits := by
  refine ⟨l.shift.toNat + 39, fun hfits => ?_⟩
  have hleast := hfits.least
  rw [pad_shift] at hleast
  omega

end Literal

lemma Literal.Denotes.pad {l : Literal} {n : ℤ} (h : l.Denotes n) (k : ℕ) : (l.pad k).Denotes n :=
  ⟨l.pad_value k ▸ h.exact, h.bounded⟩

lemma parse?_eq_some_iff_fits {s : String} {t : List Char} {l : Literal} {n : ℤ}
    (ht : Text.Trimmed s.toList t) (hl : Spells t l) (hn : l.Denotes n) :
    parse? s = some ⟨n⟩ ↔ l.Fits := by
  rw [(parse?_eq_some_iff s n).1]
  constructor
  · rintro ⟨t', l', m, ht', hl', hcounts, -⟩
    exact spells_unique ht hl ht' hl' ▸ hcounts.fits
  · intro hfits
    exact ⟨t, l, n.natAbs, ht, hl, hn.counts_iff_fits.mpr hfits, hn.signed_natAbs⟩

lemma parse?_eq_none_iff {s : String} {t : List Char} {l : Literal} {n : ℤ}
    (ht : Text.Trimmed s.toList t) (hl : Spells t l) (hn : l.Denotes n) :
    parse? s = none ↔ ¬l.Fits := by
  rw [← parse?_eq_some_iff_fits ht hl hn]
  constructor
  · intro hnone hsome
    simp [hnone] at hsome
  · intro hother
    by_contra hread
    obtain ⟨⟨m⟩, hm⟩ := Option.ne_none_iff_exists'.mp hread
    have hvalue := (parse?_eq_some_iff s m).2 hm t l ht hl
    rw [hn.exact] at hvalue
    have hsame : m = n := by exact_mod_cast hvalue
    exact hother (hsame ▸ hm)

/-- A value that can be held is read in the spellings that fit, and no other. A value that is not
zero fits in every spelling without a digit finer than a nano-unit; zero fits if its power of ten
does. The spelling decides nothing else, and every value has spellings that do not fit. -/
theorem parse?_of_denotes {s : String} {t : List Char} {l : Literal} {n : ℤ}
    (ht : Text.Trimmed s.toList t) (hl : Spells t l) (hn : l.Denotes n) :
    (parse? s = some ⟨n⟩ ↔ l.Fits) ∧ (parse? s = none ↔ ¬l.Fits) ∧
      (n ≠ 0 → 0 ≤ l.shift → l.multiplier.exponent ≤ 2147483638 → parse? s = some ⟨n⟩) ∧
      (n = 0 → (parse? s = some ⟨n⟩ ↔
        l.fraction.length ≤ 2 ^ 31 - 1 ∧ -38 ≤ l.shift ∧ l.shift ≤ 38)) ∧
      (∀ s' t' l', Text.Trimmed (String.toList s') t' → Spells t' l' → l'.value = l.value →
        (parse? s' = parse? s ↔ (l'.Fits ↔ l.Fits))) ∧
      ∃ k, (l.pad k).Denotes n ∧ ¬(l.pad k).Fits := by
  have hsome := parse?_eq_some_iff_fits ht hl hn
  have hnone := parse?_eq_none_iff ht hl hn
  refine ⟨hsome, hnone, ?_, ?_, ?_, ?_⟩
  · intro hne hshift hexponent
    exact hsome.mpr (hn.fits_of_coarse hne hshift hexponent)
  · rintro rfl
    rw [hsome, hn.fits_iff_of_zero]
  · intro s' t' l' ht' hl' hvalue
    have hn' : l'.Denotes n := ⟨hvalue ▸ hn.exact, hn.bounded⟩
    have hsome' := parse?_eq_some_iff_fits ht' hl' hn'
    have hnone' := parse?_eq_none_iff ht' hl' hn'
    by_cases hfits : l.Fits
    · rw [hsome.mpr hfits, hsome']
      exact ⟨fun hfits' => iff_of_true hfits' hfits, fun hiff => hiff.mpr hfits⟩
    · rw [hnone.mpr hfits, hnone']
      exact ⟨fun hfits' => iff_of_false hfits' hfits, fun hiff => mt hiff.mp hfits⟩
  · obtain ⟨k, hk⟩ := l.exists_pad_not_fits
    exact ⟨k, hn.pad k, hk⟩

/-- Half a kibibyte is read when it is written with one place. -/
theorem parse?_halfKi :
    let l : Literal := ⟨false, ['0'], ['5'], .twoTo 10⟩
    Text.Trimmed "0.5Ki".toList "0.5Ki".toList ∧ Spells "0.5Ki".toList l ∧
      l.Denotes (512 * 10 ^ 9) ∧ parse? "0.5Ki" = some ⟨512 * 10 ^ 9⟩ := by
  intro l
  have ht : Text.Trimmed "0.5Ki".toList "0.5Ki".toList := Text.trimmed_iff.mpr (by decide +kernel)
  have hnumeral : Numeral ['0', '.', '5'] ['0'] ['5'] :=
    .pointed (by simp [Digits] : Digits ['0']) (by simp [Digits]) (by simp)
  have hsuffix : Suffix ['K', 'i'] (.twoTo 10) := .binary (by decide)
  have hl : Spells "0.5Ki".toList l := .intro .absent hnumeral hsuffix
  have hn : l.Denotes (512 * 10 ^ 9) := by
    have hcoefficient : l.coefficient = 5 := rfl
    refine ⟨?_, by decide⟩
    norm_num [Literal.value, hcoefficient, l, Multiplier.base, Multiplier.exponent]
  exact ⟨ht, hl, hn, (parse?_of_denotes ht hl hn).2.2.1 (by decide) (by decide) (by decide)⟩

/-- Zero is refused behind a power of ten that leaves 127 bits. -/
theorem parse?_zero_scaled :
    ∃ l : Literal, Text.Trimmed "0e30".toList "0e30".toList ∧ Spells "0e30".toList l ∧
      l.Denotes 0 ∧ parse? "0e30" = none := by
  have ht : Text.Trimmed "0e30".toList "0e30".toList := Text.trimmed_iff.mpr (by decide +kernel)
  have hnumeral : Numeral ['0'] ['0'] [] := .plain (by simp [Digits]) (by simp)
  have hexponent : Exponent ['3', '0'] 30 :=
    .intro .absent (by simp [Digits] : Digits ['3', '0']) (by simp) (by decide) (by decide)
  have hsuffix : Suffix ['e', '3', '0'] (.tenTo 30) := .exponent (.inl rfl) hexponent
  refine ⟨⟨false, ['0'], [], .tenTo 30⟩, ht, .intro .absent hnumeral hsuffix, ⟨?_, by decide⟩,
    by decide +kernel⟩
  have hcoefficient : Literal.coefficient ⟨false, ['0'], [], .tenTo 30⟩ = 0 := rfl
  simp [Literal.value, hcoefficient]

end WorkloadScaling.Quantity
