import Mathlib
import WorkloadScaling.Proofs.QuantityValue

/-!
# Reading in words

Some steps of reading a quantity are checked for their range, and others are not. Reading is written
out here step by step, for words of 32 and of 128 bits, with the unchecked results left to an
arithmetic. As long as the exponent leaves room for the places of the fraction, every arithmetic comes
to what the reader does: no unchecked result leaves its word.
-/
namespace WorkloadScaling.Quantity

def Holds (bits : ℕ) (n : ℤ) : Prop := -2 ^ (bits - 1) ≤ n ∧ n < 2 ^ (bits - 1)

instance (bits : ℕ) (n : ℤ) : Decidable (Holds bits n) := inferInstanceAs (Decidable (_ ∧ _))

inductive Stop where
  | refused
  /-- An unchecked result has left its word, or a divisor is zero. -/
  | fault
  deriving DecidableEq, Repr

/-- What becomes of a result that is not checked: it is kept, it is cut down to its word, or it must
fit there. -/
inductive Arithmetic where
  | unbounded
  | wrapping
  | trapping
  deriving DecidableEq, Repr

def checked (bits : ℕ) (n : ℤ) : Except Stop ℤ :=
  if Holds bits n then .ok n else .error .refused

namespace Arithmetic

def word (a : Arithmetic) (bits : ℕ) (n : ℤ) : Except Stop ℤ :=
  match a with
  | unbounded => .ok n
  | wrapping => .ok (BitVec.ofInt bits n).toInt
  | trapping => if Holds bits n then .ok n else .error .fault

def quotient (a : Arithmetic) (n divisor : ℤ) : Except Stop ℤ :=
  if divisor = 0 then .error .fault else a.word 128 (n.tdiv divisor)

def remainder (a : Arithmetic) (n divisor : ℤ) : Except Stop ℤ :=
  if divisor = 0 then .error .fault else a.word 128 (n.tmod divisor)

def addDigit (a : Arithmetic) (sum : ℤ) (c : Char) : Except Stop ℤ := do
  let tenfold ← checked 128 (sum * 10)
  if c.isDigit then
    let digit ← a.word 128 (c.toNat - '0'.toNat)
    checked 128 (tenfold + digit)
  else .error .refused

def scale (a : Arithmetic) (n exponent : ℤ) : Except Stop ℤ := do
  if 0 ≤ exponent then
    let power ← checked 128 (10 ^ exponent.toNat)
    checked 128 (n * power)
  else
    let opposite ← a.word 32 (-exponent)
    if opposite < 0 then .error .refused
    else
      let divisor ← checked 128 (10 ^ opposite.toNat)
      let left ← a.remainder n divisor
      if left = 0 then a.quotient n divisor else .error .refused

def apply (a : Arithmetic) (value places : ℤ) : Multiplier → Except Stop ℤ
  | .tenTo e => do
    let nanos ← a.word 32 (e + 9)
    let shift ← a.word 32 (nanos - places)
    a.scale value shift
  | .twoTo k => do
    let power ← checked 128 (2 ^ k)
    let based ← checked 128 (value * power)
    let shift ← a.word 32 (9 - places)
    a.scale based shift

def magnitude (a : Arithmetic) (w : Written) : Except Stop ℤ := do
  if w.whole = [] ∧ w.fraction = [] then .error .refused
  else if '.' ∈ w.fraction then .error .refused
  else
    let value ← (w.whole ++ w.fraction).foldlM a.addDigit 0
    let places ← checked 32 w.fraction.length
    match Multiplier.ofSuffix? w.suffix with
    | none => .error .refused
    | some m => a.apply value places m

def read (a : Arithmetic) (s : String) : Except Stop ℤ :=
  match Written.ofText? s.toList with
  | none => .error .refused
  | some w => do
    let n ← a.magnitude w
    if w.negative then a.word 128 (-n) else .ok n

def wholeUnits (a : Arithmetic) (n : ℤ) : Except Stop (Option ℤ) := do
  let left ← a.remainder n nanosPerUnit
  if left = 0 then some <$> a.quotient n nanosPerUnit else .ok none

end Arithmetic

def answer : Option ℕ → Except Stop ℤ
  | some n => .ok n
  | none => .error .refused

variable {α : Type}

@[simp] lemma ok_bind (n : ℤ) (f : ℤ → Except Stop α) : (Except.ok n >>= f) = f n := rfl

@[simp] lemma answer_some_bind (n : ℕ) (f : ℤ → Except Stop α) :
    (answer (some n) >>= f) = f n := rfl

@[simp] lemma answer_none_bind (f : ℤ → Except Stop α) :
    (answer none >>= f) = .error .refused := rfl

variable {a : Arithmetic}

lemma word_of_holds {bits : ℕ} {n : ℤ} (hbits : 0 < bits) (h : Holds bits n) :
    a.word bits n = .ok n := by
  cases a with
  | unbounded => rfl
  | wrapping => exact congrArg Except.ok (BitVec.toInt_ofInt_eq_self hbits h.1 h.2)
  | trapping => exact if_pos h

lemma holds_natCast {n : ℕ} : Holds 128 n ↔ n ≤ maxNanos := by
  have hmax : maxNanos = 2 ^ 127 - 1 := rfl
  unfold Holds
  omega

lemma checked_natCast (n : ℕ) : checked 128 n = answer (bounded? n) := by
  unfold checked bounded?
  by_cases h : n ≤ maxNanos
  · rw [if_pos (holds_natCast.mpr h), if_pos h]
    rfl
  · rw [if_neg (mt holds_natCast.mp h), if_neg h]
    rfl

lemma bounded?_of_le {n : ℕ} (h : n ≤ maxNanos) : bounded? n = some n := if_pos h

lemma bounded?_of_lt {n : ℕ} (h : maxNanos < n) : bounded? n = none := if_neg (Nat.not_le.mpr h)

lemma addDigit_natCast {c : Char} (hc : c.isDigit = true) (sum : ℕ) :
    a.addDigit sum c = answer (bounded? (10 * sum + (c.toNat - '0'.toNat))) := by
  have hbounds : '0'.toNat ≤ c.toNat ∧ c.toNat ≤ '9'.toNat := by
    simp only [Char.isDigit, Bool.and_eq_true, decide_eq_true_eq] at hc
    exact hc
  obtain ⟨d, hd⟩ := Nat.exists_eq_add_of_le hbounds.1
  have hsmall : d ≤ maxNanos := by
    have hnine : d ≤ 9 := by
      have hspan : '9'.toNat = '0'.toNat + 9 := rfl
      omega
    exact hnine.trans (by decide)
  have hdigit : (c.toNat : ℤ) - '0'.toNat = d := by omega
  have hword : a.word 128 (d : ℤ) = .ok (d : ℤ) :=
    word_of_holds (by decide) (holds_natCast.mpr hsmall)
  have htenfold : (sum : ℤ) * 10 = (10 * sum : ℕ) := by
    push_cast
    ring
  rw [Arithmetic.addDigit, htenfold, checked_natCast, hdigit, hword, hd, Nat.add_sub_cancel_left]
  rcases Nat.lt_or_ge maxNanos (10 * sum) with hover | hfits
  · rw [bounded?_of_lt hover, bounded?_of_lt (by omega), answer_none_bind]
    rfl
  · have hsum : ((10 * sum : ℕ) : ℤ) + d = (10 * sum + d : ℕ) := by push_cast; rfl
    rw [bounded?_of_le hfits, answer_some_bind, if_pos hc, ok_bind, hsum, checked_natCast]

lemma le_ofDigitChars (ds : List Char) (sum : ℕ) : sum ≤ Nat.ofDigitChars 10 ds sum := by
  induction ds generalizing sum with
  | nil => exact le_of_eq Nat.ofDigitChars_nil.symm
  | cons c ds ih =>
    rw [Nat.ofDigitChars_cons]
    exact le_trans (by omega) (ih _)

/-- A sum that cannot be held any more only grows, so the last sum decides about all of them. -/
lemma foldlM_addDigit {ds : List Char} (hds : Digits ds) {sum : ℕ} (hsum : sum ≤ maxNanos) :
    ds.foldlM a.addDigit (sum : ℤ) = answer (bounded? (Nat.ofDigitChars 10 ds sum)) := by
  induction ds generalizing sum with
  | nil =>
    rw [Nat.ofDigitChars_nil, bounded?_of_le hsum]
    rfl
  | cons c ds ih =>
    obtain ⟨hc, hrest⟩ := List.forall_mem_cons.mp hds
    rw [List.foldlM_cons, addDigit_natCast hc, Nat.ofDigitChars_cons]
    rcases Nat.lt_or_ge maxNanos (10 * sum + (c.toNat - '0'.toNat)) with hover | hfits
    · have hlast := le_ofDigitChars ds (10 * sum + (c.toNat - '0'.toNat))
      rw [bounded?_of_lt hover, bounded?_of_lt (hover.trans_le hlast), answer_none_bind]
      rfl
    · rw [bounded?_of_le hfits, answer_some_bind]
      exact ih hrest hfits

lemma ten_pow_le_iff {k : ℕ} : 10 ^ k ≤ maxNanos ↔ k ≤ 38 := by
  constructor
  · intro h
    by_contra hlarge
    have hleast : 10 ^ 39 ≤ 10 ^ k := Nat.pow_le_pow_right (by norm_num) (by omega)
    have hmax : maxNanos < 10 ^ 39 := by norm_num [maxNanos]
    omega
  · intro h
    have hmost : 10 ^ k ≤ 10 ^ 38 := Nat.pow_le_pow_right (by norm_num) h
    exact hmost.trans (by norm_num [maxNanos])

lemma bounded?_ten_pow (k : ℕ) : bounded? (10 ^ k) = if k ≤ 38 then some (10 ^ k) else none := by
  simp only [bounded?, ten_pow_le_iff]

lemma scale_natCast (n k : ℕ) : a.scale n k = answer (scale? n k) := by
  have hpower : (10 : ℤ) ^ k = (10 ^ k : ℕ) := by push_cast; rfl
  have hpow : Nat.pow 10 k = 10 ^ k := rfl
  rw [Arithmetic.scale, if_pos (Int.natCast_nonneg k), Int.toNat_natCast, hpower, checked_natCast,
    bounded?_ten_pow, scale?, Int.natAbs_natCast, if_pos (Int.natCast_nonneg k), hpow]
  by_cases hk : k ≤ 38
  · rw [if_pos hk, if_neg (Nat.not_lt.mpr hk), answer_some_bind, ← Nat.cast_mul, checked_natCast]
  · rw [if_neg hk, if_pos (Nat.lt_of_not_le hk), answer_none_bind]
    rfl

lemma scale_neg {n k : ℕ} (hn : n ≤ maxNanos) (hk : 0 < k) (hword : k < 2 ^ 31) :
    a.scale n (-k) = answer (scale? n (-k)) := by
  have hneg : ¬(0 : ℤ) ≤ -k := by omega
  have hopposite : a.word 32 (-(-(k : ℤ))) = .ok (k : ℤ) := by
    rw [neg_neg]
    exact word_of_holds (by decide) ⟨by omega, by omega⟩
  have hnonneg : ¬(k : ℤ) < 0 := by omega
  have hpower : (10 : ℤ) ^ k = (10 ^ k : ℕ) := by push_cast; rfl
  have hpow : Nat.pow 10 k = 10 ^ k := rfl
  rw [Arithmetic.scale, if_neg hneg, hopposite, ok_bind, if_neg hnonneg, Int.toNat_natCast, hpower,
    checked_natCast, bounded?_ten_pow, scale?, Int.natAbs_neg, Int.natAbs_natCast, if_neg hneg, hpow]
  by_cases hk : k ≤ 38
  · have hdivisor : ((10 ^ k : ℕ) : ℤ) ≠ 0 := by positivity
    have hleft : a.word 128 ((n : ℤ).tmod (10 ^ k : ℕ)) = .ok ((n % 10 ^ k : ℕ) : ℤ) :=
      word_of_holds (by decide) (holds_natCast.mpr ((Nat.mod_le _ _).trans hn))
    have hquotient : a.word 128 ((n : ℤ).tdiv (10 ^ k : ℕ)) = .ok ((n / 10 ^ k : ℕ) : ℤ) :=
      word_of_holds (by decide) (holds_natCast.mpr ((Nat.div_le_self _ _).trans hn))
    rw [if_pos hk, if_neg (Nat.not_lt.mpr hk), answer_some_bind, Arithmetic.remainder,
      if_neg hdivisor, hleft, ok_bind, Arithmetic.quotient, if_neg hdivisor, hquotient]
    simp only [Nat.cast_eq_zero]
    split_ifs <;> rfl
  · rw [if_neg hk, if_pos (Nat.lt_of_not_le hk), answer_none_bind]
    rfl

lemma scale_eq {n : ℕ} (hn : n ≤ maxNanos) {x : ℤ} (hx : -2147483647 ≤ x) :
    a.scale n x = answer (scale? n x) := by
  rcases lt_or_ge x 0 with hneg | hnonneg
  · obtain ⟨k, rfl⟩ := Int.exists_eq_neg_ofNat hneg.le
    exact scale_neg hn (by omega) (by omega)
  · obtain ⟨k, rfl⟩ := Int.eq_ofNat_of_zero_le hnonneg
    exact scale_natCast n k

/-- The exponent leaves room for nine places, and for those of the fraction, in a word of 32 bits. -/
def Written.HasRoom (w : Written) : Prop :=
  w.fraction.length ≤ 2 ^ 31 - 1 → ∀ e, Multiplier.ofSuffix? w.suffix = some (.tenTo e) →
    e ≤ 2147483638 ∧ -2147483647 ≤ e + 9 - w.fraction.length

lemma checked_places (f : ℕ) :
    checked 32 f = if f ≤ maxPlaces then .ok (f : ℤ) else .error .refused := by
  have hmax : maxPlaces = 2 ^ 31 - 1 := rfl
  have hholds : Holds 32 f ↔ f ≤ maxPlaces := by
    unfold Holds
    omega
  rw [checked]
  simp only [hholds]

lemma digits_of_numeral {number whole fraction : List Char} (h : Numeral number whole fraction) :
    Digits (whole ++ fraction) := by
  cases h with
  | plain digits _ => simpa [Digits] using digits
  | pointed wholeDigits fractionDigits _ =>
    exact fun c hc => (List.mem_append.mp hc).elim (wholeDigits c) (fractionDigits c)

lemma digits_of_ofText? {s : List Char} {w : Written} (h : Written.ofText? s = some w)
    (hsome : ¬(w.whole = [] ∧ w.fraction = [])) (hpoint : '.' ∉ w.fraction) :
    Digits (w.whole ++ w.fraction) := by
  obtain ⟨sign, rest, -, -, hw⟩ := exists_sign_of_ofText? h
  rw [hw] at hsome hpoint ⊢
  exact digits_of_numeral
    (numeral_of_run (fun c hc => List.mem_takeWhile_imp hc) rfl rfl hsome hpoint)

lemma twoTo_le {s : List Char} {k : ℕ} (h : Multiplier.ofSuffix? s = some (.twoTo k)) :
    k ≤ 60 := by
  have hall : ∀ p ∈ binarySuffixes, p.2 ≤ 60 := by decide
  cases suffix_of_ofSuffix? h with
  | binary listed => exact hall _ listed

lemma le_tenTo {s : List Char} {e : ℤ} (h : Multiplier.ofSuffix? s = some (.tenTo e)) :
    -2 ^ 31 ≤ e := by
  have hall : ∀ p ∈ decimalSuffixes, -2 ^ 31 ≤ p.2 := by decide
  cases suffix_of_ofSuffix? h with
  | decimal listed => exact hall _ listed
  | exponent _ written =>
    obtain ⟨-, -, -, hleast, -⟩ := written
    exact hleast

lemma apply_tenTo {value places : ℕ} (hvalue : value ≤ maxNanos) {e : ℤ} (hleast : -2 ^ 31 ≤ e)
    (hmost : e ≤ 2147483638) (hroom : -2147483647 ≤ e + 9 - places) :
    a.apply value places (.tenTo e) = answer (scale? value (e + 9 - places)) := by
  have hnanos : a.word 32 (e + 9) = .ok (e + 9) :=
    word_of_holds (by decide) ⟨by omega, by omega⟩
  have hshift : a.word 32 (e + 9 - places) = .ok (e + 9 - places) :=
    word_of_holds (by decide) ⟨by omega, by omega⟩
  rw [Arithmetic.apply, hnanos, ok_bind, hshift, ok_bind, scale_eq hvalue hroom]

lemma apply_twoTo {value places : ℕ} (hplaces : places ≤ maxPlaces) {k : ℕ} (hk : k ≤ 60) :
    a.apply value places (.twoTo k) =
      answer ((bounded? (value * 2 ^ k)).bind fun based => scale? based (9 - places)) := by
  have hmax : maxPlaces = 2 ^ 31 - 1 := rfl
  have hpower : (2 : ℤ) ^ k = (2 ^ k : ℕ) := by push_cast; rfl
  have hfits : 2 ^ k ≤ maxNanos :=
    (Nat.pow_le_pow_right (by norm_num) hk).trans (by norm_num [maxNanos])
  have hshift : a.word 32 (9 - places) = .ok (9 - (places : ℤ)) :=
    word_of_holds (by decide) ⟨by omega, by omega⟩
  rw [Arithmetic.apply, hpower, checked_natCast, bounded?_of_le hfits, answer_some_bind,
    ← Nat.cast_mul, checked_natCast]
  rcases Nat.lt_or_ge maxNanos (value * 2 ^ k) with hover | hbased
  · rw [bounded?_of_lt hover, answer_none_bind]
    rfl
  · rw [bounded?_of_le hbased, answer_some_bind, hshift, ok_bind, scale_eq hbased (by omega)]
    rfl

lemma magnitude_eq {s : List Char} {w : Written} (h : Written.ofText? s = some w)
    (hroom : w.HasRoom) : a.magnitude w = answer w.magnitude? := by
  by_cases hsome : w.whole = [] ∧ w.fraction = []
  · simp [Arithmetic.magnitude, Written.magnitude?, hsome, answer]
  · by_cases hpoint : '.' ∈ w.fraction
    · simp [Arithmetic.magnitude, Written.magnitude?, hsome, hpoint, answer]
    · have hvalue : (w.whole ++ w.fraction).foldlM a.addDigit 0 =
          answer (bounded? (Text.digitsValue (w.whole ++ w.fraction))) :=
        foldlM_addDigit (digits_of_ofText? h hsome hpoint) (Nat.zero_le maxNanos)
      rw [Arithmetic.magnitude, Written.magnitude?, if_neg hsome, if_neg hpoint, hvalue,
        checked_places, if_neg hsome, if_neg hpoint]
      rcases Nat.lt_or_ge maxNanos (Text.digitsValue (w.whole ++ w.fraction)) with hover | hfits
      · rw [bounded?_of_lt hover, answer_none_bind]
        rfl
      · rw [bounded?_of_le hfits, answer_some_bind]
        rcases Nat.lt_or_ge maxPlaces w.fraction.length with hmany | hfew
        · rw [if_neg (Nat.not_le.mpr hmany)]
          simp only [Option.bind_eq_bind, Option.bind_some, if_pos hmany]
          rfl
        · have hshort : ¬maxPlaces < w.fraction.length := Nat.not_lt.mpr hfew
          rw [if_pos hfew, ok_bind]
          simp only [Option.bind_eq_bind, Option.bind_some, if_neg hshort]
          rcases hsuffix : Multiplier.ofSuffix? w.suffix with _ | e | k
          · rfl
          · obtain ⟨hmost, hleast⟩ := hroom hfew e hsuffix
            exact apply_tenTo hfits (le_tenTo hsuffix) hmost hleast
          · exact apply_twoTo hfew (twoTo_le hsuffix)

lemma hasRoom_of_unmarked {w : Written}
    (h : ∀ mark s e, w.suffix = mark :: s → mark = 'e' ∨ mark = 'E' → ¬Exponent s e) :
    w.HasRoom := by
  intro hplaces e hsuffix
  have hall : ∀ p ∈ decimalSuffixes, p.2 ≤ 18 ∧ -9 ≤ p.2 := by decide
  generalize hs : w.suffix = suffix at hsuffix
  cases suffix_of_ofSuffix? hsuffix with
  | decimal listed =>
    have hbounds := hall _ listed
    exact ⟨by omega, by omega⟩
  | exponent marked written => exact absurd written (h _ _ _ hs marked)

lemma hasRoom_of_ofText? {s : List Char} {w : Written} {e : ℤ} (h : Written.ofText? s = some w)
    (hsuffix : Multiplier.ofSuffix? w.suffix = some (.tenTo e))
    (hroom : e ≤ 2147483638 ∧ -2147483647 ≤ e + 9 - w.fraction.length) :
    ∀ w', Written.ofText? s = some w' → w'.HasRoom := by
  intro w' hw' hplaces e' he'
  obtain rfl : w = w' := Option.some.inj (h.symm.trans hw')
  rw [hsuffix, Option.some.injEq, Multiplier.tenTo.injEq] at he'
  exact he' ▸ hroom

lemma magnitude?_le {w : Written} {n : ℕ} (h : w.magnitude? = some n) : n ≤ maxNanos := by
  obtain ⟨l, hw, hsome, hpoint, hsuffix⟩ := exists_literal_of_magnitude? h
  rw [hw] at h
  exact ((magnitude?_eq_some_iff hsome hpoint hsuffix).mp h).bounded

lemma holds_of_value? {w : Written} {q : Quantity} (h : w.value? = some q) :
    -2 ^ 127 < q.nanos ∧ q.nanos < 2 ^ 127 := by
  have hmax : maxNanos = 2 ^ 127 - 1 := rfl
  obtain ⟨n⟩ := q
  obtain ⟨m, hm, rfl⟩ := value?_eq_some_iff.mp h
  have hle := magnitude?_le hm
  dsimp only
  unfold signed
  split_ifs <;> constructor <;> omega

def told : Option Quantity → Except Stop ℤ
  | some q => .ok q.nanos
  | none => .error .refused

lemma read_eq {s : String} (h : ∀ w, Written.ofText? s.toList = some w → w.HasRoom) :
    a.read s = told (parse? s) := by
  rw [Arithmetic.read, parse?]
  cases hw : Written.ofText? s.toList with
  | none => rfl
  | some w =>
    rw [Option.bind_some, Written.value?]
    dsimp only
    rw [magnitude_eq hw (h w hw)]
    cases hn : w.magnitude? with
    | none => rfl
    | some n =>
      have hle := magnitude?_le hn
      have hopposite : a.word 128 (-(n : ℤ)) = .ok (-(n : ℤ)) := by
        have hmax : maxNanos = 2 ^ 127 - 1 := rfl
        exact word_of_holds (by decide) ⟨by omega, by omega⟩
      rw [answer_some_bind, hopposite]
      cases w.negative <;> rfl

lemma wholeUnits_eq {q : Quantity} (h : Holds 128 q.nanos) :
    a.wholeUnits q.nanos = .ok q.wholeUnits? := by
  obtain ⟨n⟩ := q
  obtain ⟨hleast, hmost⟩ := h
  dsimp only at hleast hmost ⊢
  have hunit : (nanosPerUnit : ℤ) = 1000000000 := rfl
  have hdvd : n.tmod nanosPerUnit = 0 ↔ n % nanosPerUnit = 0 := by
    rw [← Int.dvd_iff_tmod_eq_zero, Int.dvd_iff_emod_eq_zero]
  have hpos : (0 : ℤ) < nanosPerUnit := by
    rw [hunit]
    norm_num
  have hdivisor : (nanosPerUnit : ℤ) ≠ 0 := hpos.ne'
  have hlow := Int.lt_tmod_of_pos n hpos
  have hhigh := Int.tmod_lt_of_pos n hpos
  have hleft : a.word 128 (n.tmod nanosPerUnit) = .ok (n.tmod nanosPerUnit) :=
    word_of_holds (by decide) ⟨by omega, by omega⟩
  rw [Arithmetic.wholeUnits, Arithmetic.remainder, if_neg hdivisor, hleft, ok_bind, wholeUnits?]
  dsimp only
  by_cases hwhole : n % nanosPerUnit = 0
  · have hexact : n.tdiv nanosPerUnit = n / nanosPerUnit :=
      Int.tdiv_eq_ediv_of_dvd (Int.dvd_of_emod_eq_zero hwhole)
    have hquotient : a.word 128 (n / nanosPerUnit) = .ok (n / nanosPerUnit) := by
      rw [hunit]
      exact word_of_holds (by decide) ⟨by omega, by omega⟩
    rw [if_pos (hdvd.mpr hwhole), if_pos hwhole, Arithmetic.quotient, if_neg hdivisor, hexact,
      hquotient]
    rfl
  · rw [if_neg (mt hdvd.mp hwhole), if_neg hwhole]

/-- If the exponent leaves room, no unchecked step of reading leaves its word or divides by zero, so
words tell the same as numbers without bounds. Only an exponent that is written out can leave no
room. Whole units of any count in a word are told in words too, and no count that is read is the
least of its word. -/
theorem words_suffice :
    (∀ s, (∀ w, Written.ofText? (String.toList s) = some w → w.HasRoom) →
      ∀ a : Arithmetic, a.read s = told (parse? s)) ∧
    (∀ w : Written,
      (∀ mark s e, w.suffix = mark :: s → mark = 'e' ∨ mark = 'E' → ¬Exponent s e) → w.HasRoom) ∧
    (∀ (a : Arithmetic) (q : Quantity), Holds 128 q.nanos →
      a.wholeUnits q.nanos = .ok q.wholeUnits?) ∧
    ∀ s q, parse? s = some q → -2 ^ 127 < q.nanos ∧ q.nanos < 2 ^ 127 := by
  refine ⟨fun s h a => read_eq h, fun w => hasRoom_of_unmarked, fun a q => wholeUnits_eq,
    fun s q h => ?_⟩
  obtain ⟨w, -, hvalue⟩ := Option.bind_eq_some_iff.mp h
  exact holds_of_value? hvalue

/-- The greatest and the least exponent that leave room, and one that is read. -/
theorem words_suffice_edges :
    (∀ s ∈ ["1.5e2147483638", "0.12345678e-2147483648", "-1.5e2"], ∀ w,
      Written.ofText? (String.toList s) = some w → w.HasRoom) ∧
    Holds 128 (-150 * 10 ^ 9) ∧
    ∀ a : Arithmetic, a.read "1.5e2147483638" = .error .refused ∧
      a.read "0.12345678e-2147483648" = .error .refused ∧
      a.read "-1.5e2" = .ok (-150 * 10 ^ 9) ∧ a.wholeUnits (-150 * 10 ^ 9) = .ok (some (-150)) := by
  have hgreatest : ∀ w, Written.ofText? "1.5e2147483638".toList = some w → w.HasRoom :=
    hasRoom_of_ofText? (w := ⟨false, ['1'], ['5'], "e2147483638".toList⟩) (e := 2147483638)
      (by decide +kernel) (by decide +kernel) (by decide)
  have hleast : ∀ w, Written.ofText? "0.12345678e-2147483648".toList = some w → w.HasRoom :=
    hasRoom_of_ofText? (w := ⟨false, ['0'], "12345678".toList, "e-2147483648".toList⟩)
      (e := -2147483648) (by decide +kernel) (by decide +kernel) (by decide +kernel)
  have hread : ∀ w, Written.ofText? "-1.5e2".toList = some w → w.HasRoom :=
    hasRoom_of_ofText? (w := ⟨true, ['1'], ['5'], "e2".toList⟩) (e := 2)
      (by decide +kernel) (by decide +kernel) (by decide)
  have hword : Holds 128 (-150 * 10 ^ 9) := by decide
  refine ⟨by simpa using ⟨hgreatest, hleast, hread⟩, hword, fun a => ⟨?_, ?_, ?_, ?_⟩⟩
  · rw [words_suffice.1 _ hgreatest]
    decide +kernel
  · rw [words_suffice.1 _ hleast]
    decide +kernel
  · rw [words_suffice.1 _ hread]
    decide +kernel
  · exact words_suffice.2.2.1 a ⟨-150 * 10 ^ 9⟩ hword

example : Arithmetic.trapping.read "1e2147483639" = .error .fault := by decide +kernel

end WorkloadScaling.Quantity
