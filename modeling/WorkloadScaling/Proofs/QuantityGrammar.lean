import Mathlib
import WorkloadScaling.Quantity

/-!
# The grammar of quantities

What a well-formed quantity is, said without the reader: blanks around a sign, a numeral and a
suffix. A text has at most one reading, and the reader's cut into parts finds it.
-/
namespace WorkloadScaling.Text

inductive Trimmed : List Char → List Char → Prop
  | intro {before t after : List Char}
      (leading : ∀ c ∈ before, isBlank c = true)
      (trailing : ∀ c ∈ after, isBlank c = true)
      (first : ∀ c ∈ t.head?, isBlank c = false)
      (last : ∀ c ∈ t.getLast?, isBlank c = false) :
      Trimmed (before ++ t ++ after) t

lemma trimEnd_eq (s : List Char) : trimEnd s = s.rdropWhile isBlank := rfl

lemma trimEnd_append {t after : List Char} (hb : ∀ c ∈ after, isBlank c = true)
    (ht : ∀ c ∈ t.getLast?, isBlank c = false) : trimEnd (t ++ after) = t := by
  rw [trimEnd_eq]
  induction after using List.reverseRecOn with
  | nil =>
    rw [List.append_nil, List.rdropWhile_eq_self_iff]
    intro hne
    simp [ht _ (List.getLast?_eq_getLast_of_ne_nil hne)]
  | append_singleton after c ih =>
    rw [← List.append_assoc, List.rdropWhile_concat_pos _ _ _ (hb c (by simp))]
    exact ih fun d hd => hb d (by simp [hd])

lemma trimStart_append {before t : List Char} (hb : ∀ c ∈ before, isBlank c = true)
    (ht : ∀ c ∈ t.head?, isBlank c = false) : trimStart (before ++ t) = t := by
  rw [trimStart, List.dropWhile_append_of_pos hb]
  cases t with
  | nil => rfl
  | cons c t => simp [ht c (by simp)]

theorem trimmed_iff {s t : List Char} : Trimmed s t ↔ t = trim s := by
  constructor
  · rintro (@⟨before, _, after, hleading, htrailing, hfirst, hlast⟩)
    rw [trim, List.append_assoc]
    cases t with
    | nil =>
      have hall : ∀ c ∈ before ++ after, isBlank c = true := by
        intro c hc
        rcases List.mem_append.mp hc with hc | hc
        · exact hleading c hc
        · exact htrailing c hc
      have hstart := trimStart_append (t := []) hall (by simp)
      rw [List.append_nil] at hstart
      rw [List.nil_append, hstart]
      rfl
    | cons c t =>
      rw [trimStart_append hleading (by simpa using hfirst), trimEnd_append htrailing hlast]
  · rintro rfl
    have hs : s = s.takeWhile isBlank ++ trim s ++ (trimStart s).rtakeWhile isBlank := by
      rw [trim, trimEnd_eq, List.append_assoc, List.rdropWhile_append_rtakeWhile]
      exact (List.takeWhile_append_dropWhile).symm
    have hfirst : ∀ c ∈ (trim s).head?, isBlank c = false := by
      intro c hc
      obtain ⟨rest, hrest⟩ := List.rdropWhile_prefix isBlank (l := trimStart s)
      obtain ⟨u, hu⟩ := List.head?_eq_some_iff.mp hc
      have hstart : trimStart s = c :: (u ++ rest) := by
        rw [← hrest, ← trimEnd_eq, ← trim, hu, List.cons_append]
      exact isBlank_of_trimStart hstart
    have hlast : ∀ c ∈ (trim s).getLast?, isBlank c = false := by
      intro c hc
      obtain ⟨hne, rfl⟩ := List.mem_getLast?_eq_getLast hc
      exact Bool.eq_false_of_not_eq_true (List.rdropWhile_last_not isBlank (trimStart s) hne)
    conv_lhs => rw [hs]
    exact ⟨fun c hc => List.mem_takeWhile_imp hc, fun c hc => List.mem_rtakeWhile_imp hc,
      hfirst, hlast⟩

end WorkloadScaling.Text

namespace WorkloadScaling.Quantity

inductive Sign : List Char → Bool → Prop
  | absent : Sign [] false
  | plus : Sign ['+'] false
  | minus : Sign ['-'] true

def Digits (ds : List Char) : Prop := ∀ c ∈ ds, c.isDigit = true

/-- The number that digits spell by their places, the last of which counts ones. -/
def placeValue (ds : List Char) : ℕ :=
  Nat.ofDigits 10 (ds.map fun c => c.toNat - '0'.toNat).reverse

/-- Digits with at most one point among them, cut at the point. -/
inductive Numeral : List Char → List Char → List Char → Prop
  | plain {whole : List Char} (digits : Digits whole) (some : whole ≠ []) : Numeral whole whole []
  | pointed {whole fraction : List Char} (wholeDigits : Digits whole)
      (fractionDigits : Digits fraction) (some : whole ++ fraction ≠ []) :
      Numeral (whole ++ '.' :: fraction) whole fraction

def signed (negative : Bool) (n : ℕ) : ℤ := if negative then -(n : ℤ) else n

inductive Exponent : List Char → ℤ → Prop
  | intro {sign ds : List Char} {negative : Bool} (led : Sign sign negative)
      (digits : Digits ds) (some : ds ≠ [])
      (least : -2 ^ 31 ≤ signed negative (placeValue ds))
      (most : signed negative (placeValue ds) < 2 ^ 31) :
      Exponent (sign ++ ds) (signed negative (placeValue ds))

def decimalSuffixes : List (List Char × ℤ) :=
  [([], 0), (['n'], -9), (['u'], -6), (['m'], -3), (['k'], 3), (['M'], 6), (['G'], 9), (['T'], 12),
    (['P'], 15), (['E'], 18)]

def binarySuffixes : List (List Char × ℕ) :=
  [(['K', 'i'], 10), (['M', 'i'], 20), (['G', 'i'], 30), (['T', 'i'], 40), (['P', 'i'], 50),
    (['E', 'i'], 60)]

/-- What a suffix stands for. A lone `E` is a suffix of its own and marks no exponent. -/
inductive Suffix : List Char → Multiplier → Prop
  | decimal {s : List Char} {e : ℤ} (listed : (s, e) ∈ decimalSuffixes) : Suffix s (.tenTo e)
  | binary {s : List Char} {k : ℕ} (listed : (s, k) ∈ binarySuffixes) : Suffix s (.twoTo k)
  | exponent {mark : Char} {s : List Char} {e : ℤ} (marked : mark = 'e' ∨ mark = 'E')
      (written : Exponent s e) : Suffix (mark :: s) (.tenTo e)

structure Literal where
  negative : Bool
  whole : List Char
  fraction : List Char
  multiplier : Multiplier
  deriving DecidableEq, Repr

inductive Spells : List Char → Literal → Prop
  | intro {sign number suffix whole fraction : List Char} {negative : Bool} {m : Multiplier}
      (led : Sign sign negative) (numeral : Numeral number whole fraction)
      (scaled : Suffix suffix m) :
      Spells (sign ++ number ++ suffix) ⟨negative, whole, fraction, m⟩

lemma digitsValue_eq (ds : List Char) : Text.digitsValue ds = placeValue ds := by
  induction ds with
  | nil => rfl
  | cons c ds ih =>
    rw [Text.digitsValue, Nat.ofDigitChars_cons, Nat.ofDigitChars_eq_ofDigitChars_zero,
      ← Text.digitsValue, ih]
    simp only [placeValue, List.map_cons, Nat.ofDigits_reverse_cons, List.length_map]
    ring

lemma natural?_eq_some_iff {s : List Char} {n : ℕ} :
    Text.natural? s = some n ↔ s ≠ [] ∧ Digits s ∧ placeValue s = n := by
  rw [Text.natural?, Option.ite_none_right_eq_some, List.all_eq_true, Option.some.injEq,
    digitsValue_eq, and_assoc, Digits]

lemma digits_head {c : Char} {ds : List Char} (h : Digits (c :: ds)) : c.isDigit = true :=
  h c (by simp)

lemma integer?_eq_some_iff {s : List Char} {e : ℤ} :
    Text.integer? s = some e ↔ ∃ sign ds negative, Sign sign negative ∧ Digits ds ∧ ds ≠ [] ∧
      s = sign ++ ds ∧ e = signed negative (placeValue ds) := by
  constructor
  · intro h
    unfold Text.integer? at h
    split at h
    all_goals
      simp only [Option.map_eq_some_iff, Option.bind_eq_bind, Option.bind_eq_some_iff,
        Option.pure_def, Option.some.injEq] at h
      obtain ⟨_, ⟨n, hn, rfl⟩, rfl⟩ := h
      obtain ⟨hne, hd, rfl⟩ := natural?_eq_some_iff.mp hn
    · exact ⟨_, _, _, .minus, hd, hne, rfl, rfl⟩
    · exact ⟨_, _, _, .plus, hd, hne, rfl, rfl⟩
    · exact ⟨_, _, _, .absent, hd, hne, rfl, rfl⟩
  · rintro ⟨sign, ds, negative, hs, hd, hne, rfl, rfl⟩
    have hn : Text.natural? ds = some (placeValue ds) := natural?_eq_some_iff.mpr ⟨hne, hd, rfl⟩
    cases hs with
    | minus => simp [Text.integer?, hn, signed]
    | plus => simp [Text.integer?, hn, signed]
    | absent =>
      rw [List.nil_append]
      unfold Text.integer?
      split
      · exact absurd (digits_head hd) (by decide)
      · exact absurd (digits_head hd) (by decide)
      · simp [hn, signed]

lemma exponent?_eq_some_iff {s : List Char} {e : ℤ} :
    exponent? s = some e ↔ Exponent s e := by
  simp only [exponent?, Option.filter_eq_some_iff, integer?_eq_some_iff, Bool.and_eq_true,
    decide_eq_true_eq]
  constructor
  · rintro ⟨⟨sign, ds, negative, hs, hd, hne, rfl, rfl⟩, hleast, hmost⟩
    exact .intro hs hd hne hleast hmost
  · rintro ⟨hs, hd, hne, hleast, hmost⟩
    exact ⟨⟨_, _, _, hs, hd, hne, rfl, rfl⟩, hleast, hmost⟩

lemma suffix_of_ofSuffix? {s : List Char} {m : Multiplier} (h : Multiplier.ofSuffix? s = some m) :
    Suffix s m := by
  unfold Multiplier.ofSuffix? at h
  split at h
  case h_17 s =>
    obtain ⟨e, he, rfl⟩ := Option.map_eq_some_iff.mp h
    exact .exponent (.inl rfl) (exponent?_eq_some_iff.mp he)
  case h_18 s _ _ =>
    obtain ⟨e, he, rfl⟩ := Option.map_eq_some_iff.mp h
    exact .exponent (.inr rfl) (exponent?_eq_some_iff.mp he)
  case h_19 => contradiction
  all_goals
    obtain rfl := Option.some.inj h
    first
      | exact .decimal (by decide)
      | exact .binary (by decide)

lemma exponent_ne {s : List Char} {e : ℤ} (h : Exponent s e) : s ≠ [] ∧ s ≠ ['i'] := by
  obtain ⟨hs, hd, hne, -, -⟩ := h
  refine ⟨by simp [hne], fun hi => ?_⟩
  rcases List.append_eq_singleton_iff.mp hi with ⟨-, rfl⟩ | ⟨-, rfl⟩
  · exact absurd (digits_head hd) (by decide)
  · exact hne rfl

lemma ofSuffix?_of_suffix {s : List Char} {m : Multiplier} (h : Suffix s m) :
    Multiplier.ofSuffix? s = some m := by
  cases h with
  | decimal listed =>
    have hall : ∀ p ∈ decimalSuffixes, Multiplier.ofSuffix? p.1 = some (.tenTo p.2) := by decide
    exact hall _ listed
  | binary listed =>
    have hall : ∀ p ∈ binarySuffixes, Multiplier.ofSuffix? p.1 = some (.twoTo p.2) := by decide
    exact hall _ listed
  | exponent marked written =>
    obtain ⟨hne, hi⟩ := exponent_ne written
    have he := exponent?_eq_some_iff.mpr written
    rcases marked with rfl | rfl
    · simp [Multiplier.ofSuffix?, he]
    · simp [Multiplier.ofSuffix?, he]

theorem ofSuffix?_eq_some_iff {s : List Char} {m : Multiplier} :
    Multiplier.ofSuffix? s = some m ↔ Suffix s m :=
  ⟨suffix_of_ofSuffix?, ofSuffix?_of_suffix⟩

lemma isNumeral_of_isDigit {c : Char} (h : c.isDigit = true) : isNumeral c = true := by
  simp [isNumeral, h]

lemma ne_point_of_isDigit {c : Char} (h : c.isDigit = true) : c ≠ '.' := by
  rintro rfl
  exact absurd h (by decide)

lemma suffix_takeWhile {s : List Char} {m : Multiplier} (h : Suffix s m) :
    s.takeWhile isNumeral = [] := by
  cases h with
  | decimal listed =>
    have hall : ∀ p ∈ decimalSuffixes, p.1.takeWhile isNumeral = [] := by decide
    exact hall _ listed
  | binary listed =>
    have hall : ∀ p ∈ binarySuffixes, p.1.takeWhile isNumeral = [] := by decide
    exact hall _ listed
  | exponent marked _ => rcases marked with rfl | rfl <;> rfl

lemma suffix_dropWhile {s : List Char} {m : Multiplier} (h : Suffix s m) :
    s.dropWhile isNumeral = s := by
  have hcut := List.takeWhile_append_dropWhile (p := isNumeral) (l := s)
  rwa [suffix_takeWhile h, List.nil_append] at hcut

lemma numeral_isNumeral {number whole fraction : List Char} (h : Numeral number whole fraction) :
    ∀ c ∈ number, isNumeral c = true := by
  cases h with
  | plain digits _ => exact fun c hc => isNumeral_of_isDigit (digits c hc)
  | pointed wholeDigits fractionDigits _ =>
    intro c hc
    rcases List.mem_append.mp hc with hc | hc
    · exact isNumeral_of_isDigit (wholeDigits c hc)
    · rcases List.mem_cons.mp hc with rfl | hc
      · decide
      · exact isNumeral_of_isDigit (fractionDigits c hc)

lemma takeWhile_digits {ds : List Char} (h : Digits ds) (rest : List Char) :
    (ds ++ rest).takeWhile (· ≠ '.') = ds ++ rest.takeWhile (· ≠ '.') :=
  List.takeWhile_append_of_pos fun c hc => decide_eq_true (ne_point_of_isDigit (h c hc))

lemma dropWhile_digits {ds : List Char} (h : Digits ds) (rest : List Char) :
    (ds ++ rest).dropWhile (· ≠ '.') = rest.dropWhile (· ≠ '.') :=
  List.dropWhile_append_of_pos fun c hc => decide_eq_true (ne_point_of_isDigit (h c hc))

lemma numeral_cut {number whole fraction : List Char} (h : Numeral number whole fraction) :
    number.takeWhile (· ≠ '.') = whole ∧ (number.dropWhile (· ≠ '.')).drop 1 = fraction := by
  cases h with
  | plain digits _ =>
    have htake := takeWhile_digits digits []
    have hdrop := dropWhile_digits digits []
    rw [List.append_nil] at htake hdrop
    rw [htake, hdrop]
    simp
  | pointed wholeDigits _ _ =>
    rw [takeWhile_digits wholeDigits, dropWhile_digits wholeDigits]
    simp

lemma ofUnsigned_eq {number suffix whole fraction : List Char} {m : Multiplier} (negative : Bool)
    (hn : Numeral number whole fraction) (hs : Suffix suffix m) :
    Written.ofUnsigned negative (number ++ suffix) = ⟨negative, whole, fraction, suffix⟩ := by
  have hpos := numeral_isNumeral hn
  obtain ⟨hwhole, hfraction⟩ := numeral_cut hn
  rw [Written.ofUnsigned, List.takeWhile_append_of_pos hpos, List.dropWhile_append_of_pos hpos,
    suffix_takeWhile hs, suffix_dropWhile hs, List.append_nil, hwhole, hfraction]

lemma isDigit_of_isNumeral {c : Char} (h : isNumeral c = true) (hp : c ≠ '.') :
    c.isDigit = true := by
  simpa [isNumeral, hp] using h

lemma numeral_of_run {number whole fraction : List Char}
    (hrun : ∀ c ∈ number, isNumeral c = true) (hwhole : number.takeWhile (· ≠ '.') = whole)
    (hfraction : (number.dropWhile (· ≠ '.')).drop 1 = fraction)
    (hsome : ¬(whole = [] ∧ fraction = [])) (hpoint : '.' ∉ fraction) :
    Numeral number whole fraction := by
  have hcut := List.takeWhile_append_dropWhile (p := (· ≠ '.')) (l := number)
  rw [hwhole] at hcut
  have hd : Digits whole := by
    intro c hc
    have hmem : c ∈ number.takeWhile (· ≠ '.') := hwhole.symm ▸ hc
    have hne : c ≠ '.' := by simpa using List.mem_takeWhile_imp hmem
    exact isDigit_of_isNumeral (hrun c (hcut ▸ List.mem_append_left _ hc)) hne
  cases hrest : number.dropWhile (· ≠ '.') with
  | nil =>
    rw [hrest] at hcut hfraction
    obtain rfl : [] = fraction := hfraction
    rw [List.append_nil] at hcut
    subst hcut
    exact .plain hd fun hn => hsome ⟨hn, rfl⟩
  | cons c rest =>
    have hc : c = '.' := by
      have hhead := List.head?_dropWhile_not (· ≠ '.') number
      rw [hrest] at hhead
      simpa using hhead
    rw [hrest, hc] at hcut
    obtain rfl : rest = fraction := by rw [← hfraction, hrest, List.drop_one, List.tail_cons]
    subst hcut
    refine .pointed hd (fun d hdm => ?_) fun hn => hsome (List.append_eq_nil_iff.mp hn)
    exact isDigit_of_isNumeral (hrun d (by simp [hdm])) fun he => hpoint (he ▸ hdm)

/-- A literal has a first digit or point, so the reader takes its sign for a sign only. -/
lemma ofText?_eq_of_trim {s sign rest : List Char} {negative : Bool} (hs : Sign sign negative)
    (ht : Text.trim s = sign ++ rest) (hr : ∃ c r, rest = c :: r ∧ isNumeral c = true) :
    Written.ofText? s = some (.ofUnsigned negative rest) := by
  obtain ⟨c, r, rfl, hc⟩ := hr
  unfold Written.ofText?
  rw [ht]
  cases hs with
  | plus => rfl
  | minus => rfl
  | absent =>
    rw [List.nil_append]
    split
    · contradiction
    · next h => exact absurd (List.cons.inj h).1 (by rintro rfl; exact absurd hc (by decide))
    · next h => exact absurd (List.cons.inj h).1 (by rintro rfl; exact absurd hc (by decide))
    · rfl

lemma exists_sign_of_ofText? {s : List Char} {w : Written} (h : Written.ofText? s = some w) :
    ∃ sign rest, Sign sign w.negative ∧ Text.trim s = sign ++ rest ∧
      w = .ofUnsigned w.negative rest := by
  unfold Written.ofText? at h
  split at h
  · contradiction
  · next ht => exact Option.some.inj h ▸ ⟨_, _, .minus, ht, rfl⟩
  · next ht => exact Option.some.inj h ▸ ⟨_, _, .plus, ht, rfl⟩
  · exact Option.some.inj h ▸ ⟨_, _, .absent, rfl, rfl⟩

lemma numeral_ne_nil {number whole fraction : List Char} (h : Numeral number whole fraction) :
    number ≠ [] ∧ ¬(whole = [] ∧ fraction = []) ∧ '.' ∉ fraction := by
  cases h with
  | plain _ some => exact ⟨some, fun hn => some hn.1, List.not_mem_nil⟩
  | pointed _ fractionDigits some =>
    exact ⟨by simp, fun hn => some (by simp [hn]),
      fun hm => ne_point_of_isDigit (fractionDigits _ hm) rfl⟩

theorem exists_spells_iff {s : List Char} {l : Literal} :
    (∃ t, Text.Trimmed s t ∧ Spells t l) ↔
      ∃ suffix, Written.ofText? s = some ⟨l.negative, l.whole, l.fraction, suffix⟩ ∧
        ¬(l.whole = [] ∧ l.fraction = []) ∧ '.' ∉ l.fraction ∧
          Multiplier.ofSuffix? suffix = some l.multiplier := by
  constructor
  · rintro ⟨t, htrim, hspells⟩
    obtain ⟨hsign, hnumeral, hsuffix⟩ := hspells
    rename_i sign number suffix whole fraction negative m
    have ht := (Text.trimmed_iff.mp htrim).symm
    rw [List.append_assoc] at ht
    obtain ⟨hne, hsome, hpoint⟩ := numeral_ne_nil hnumeral
    obtain ⟨c, r, hcons⟩ := List.exists_cons_of_ne_nil hne
    have hc : isNumeral c = true := numeral_isNumeral hnumeral c (by simp [hcons])
    have hread := ofText?_eq_of_trim hsign ht ⟨c, r ++ suffix, by simp [hcons], hc⟩
    rw [ofUnsigned_eq negative hnumeral hsuffix] at hread
    exact ⟨suffix, hread, hsome, hpoint, ofSuffix?_eq_some_iff.mpr hsuffix⟩
  · rintro ⟨suffix, hread, hsome, hpoint, hsuffix⟩
    obtain ⟨sign, rest, hsign, ht, hw⟩ := exists_sign_of_ofText? hread
    simp only [Written.ofUnsigned, Written.mk.injEq, true_and] at hw
    obtain ⟨hwhole, hfraction, hrest⟩ := hw
    refine ⟨Text.trim s, Text.trimmed_iff.mpr rfl, ?_⟩
    have hnumeral := numeral_of_run (fun c hc => List.mem_takeWhile_imp hc) hwhole.symm
      hfraction.symm hsome hpoint
    have hspells := Spells.intro hsign hnumeral (ofSuffix?_eq_some_iff.mp hsuffix)
    rwa [List.append_assoc, hrest, List.takeWhile_append_dropWhile, ← ht] at hspells

theorem spells_unique {s t t' : List Char} {l l' : Literal} (ht : Text.Trimmed s t)
    (hl : Spells t l) (ht' : Text.Trimmed s t') (hl' : Spells t' l') : l = l' := by
  obtain ⟨suffix, hread, -, -, hsuffix⟩ := exists_spells_iff.mp ⟨t, ht, hl⟩
  obtain ⟨suffix', hread', -, -, hsuffix'⟩ := exists_spells_iff.mp ⟨t', ht', hl'⟩
  rw [hread, Option.some.injEq, Written.mk.injEq] at hread'
  obtain ⟨hnegative, hwhole, hfraction, rfl⟩ := hread'
  rw [hsuffix, Option.some.injEq] at hsuffix'
  cases l
  cases l'
  simp_all

end WorkloadScaling.Quantity
