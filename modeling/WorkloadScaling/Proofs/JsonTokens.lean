import Mathlib
import WorkloadScaling.Json.Parser
import WorkloadScaling.Json.Printer

/-!
# Reading strings and numbers

A string is read up to the quote that closes it as it was, whatever it holds. A number shows no end
of its own: it ends where something stands that no number goes on with.
-/
namespace WorkloadScaling.Json

lemma hexDigits?_control : ∀ n < 32,
    Text.hexDigits? ['0', '0', hexDigit (n / 16), hexDigit n] = some n := by
  decide

lemma ofUnit_control {c : Char} (h : c.toNat < 0x20) : Piece.ofUnit c.toNat = .char c := by
  rw [Piece.ofUnit, if_neg (by omega), Char.ofNat_toNat]

lemma readPieces_short {c e : Char} (h : unescape? e = some c) (s : List Char) :
    readPieces ('\\' :: e :: s) =
      (readPieces s).map fun (pieces, rest) => (.char c :: pieces, rest) := by
  have he : e ≠ 'u' := by
    rintro rfl
    cases h
  simp [readPieces, he, h, Option.map_eq_bind]

lemma readPieces_control {c : Char} (h : c.toNat < 0x20) (s : List Char) :
    readPieces ('\\' :: 'u' :: '0' :: '0' :: hexDigit (c.toNat / 16) :: hexDigit c.toNat :: s) =
      (readPieces s).map fun (pieces, rest) => (.char c :: pieces, rest) := by
  have hunit := hexDigits?_control c.toNat h
  simp [readPieces, hunit, ofUnit_control h, Option.map_eq_bind]

lemma readPieces_plain {c : Char} (hquote : c ≠ '"') (hslash : c ≠ '\\')
    (hcontrol : ¬c.toNat < 0x20) (s : List Char) :
    readPieces (c :: s) =
      (readPieces s).map fun (pieces, rest) => (.char c :: pieces, rest) := by
  simp [readPieces, hslash, hcontrol, Option.map_eq_bind]

lemma escapedChar_cases (c : Char) :
    (∃ e, unescape? e = some c ∧ escapedChar c = ['\\', e]) ∨
    (c.toNat < 0x20 ∧ escapedChar c =
      ['\\', 'u', '0', '0', hexDigit (c.toNat / 16), hexDigit c.toNat]) ∨
    ((c ≠ '"' ∧ c ≠ '\\' ∧ ¬c.toNat < 0x20) ∧ escapedChar c = [c]) := by
  unfold escapedChar
  split_ifs with hquote hslash hbackspace hfeed hnewline hreturn htab hcontrol
  · exact .inl ⟨'"', congrArg some hquote.symm, rfl⟩
  · exact .inl ⟨'\\', congrArg some hslash.symm, rfl⟩
  · exact .inl ⟨'b', congrArg some hbackspace.symm, rfl⟩
  · exact .inl ⟨'f', congrArg some hfeed.symm, rfl⟩
  · exact .inl ⟨'n', congrArg some hnewline.symm, rfl⟩
  · exact .inl ⟨'r', congrArg some hreturn.symm, rfl⟩
  · exact .inl ⟨'t', congrArg some htab.symm, rfl⟩
  · exact .inr (.inl ⟨hcontrol, rfl⟩)
  · exact .inr (.inr ⟨⟨hquote, hslash, hcontrol⟩, rfl⟩)

lemma readPieces_escapedChar (c : Char) (s : List Char) :
    readPieces (escapedChar c ++ s) =
      (readPieces s).map fun (pieces, rest) => (.char c :: pieces, rest) := by
  rcases escapedChar_cases c with
    ⟨e, hshort, hc⟩ | ⟨hcontrol, hc⟩ | ⟨⟨hquote, hslash, hcontrol⟩, hc⟩
  · rw [hc]
    exact readPieces_short hshort s
  · rw [hc]
    exact readPieces_control hcontrol s
  · rw [hc]
    exact readPieces_plain hquote hslash hcontrol s

lemma readPieces_escaped (s rest : List Char) :
    readPieces (s.flatMap escapedChar ++ '"' :: rest) = some (s.map .char, rest) := by
  induction s with
  | nil => rfl
  | cons c s ih =>
    rw [List.flatMap_cons, List.append_assoc, readPieces_escapedChar, ih]
    rfl

lemma joinPieces_char (s : List Char) : joinPieces (s.map .char) = some s := by
  induction s with
  | nil => rfl
  | cons c s ih => simp [joinPieces, ih]

lemma readString_escaped (s : String) (rest : List Char) :
    readString (s.toList.flatMap escapedChar ++ '"' :: rest) = some (some s, rest) := by
  simp [readString, readPieces_escaped, joinPieces_char]

/-- What follows is not part of a number. -/
def EndsNumber (rest : List Char) : Prop :=
  ∀ c ∈ rest.head?, c.isDigit = false ∧ c ≠ '.' ∧ c ≠ 'e' ∧ c ≠ 'E'

lemma readDigits_append {ds rest : List Char} (hne : ds ≠ [])
    (hall : ∀ c ∈ ds, c.isDigit = true) (hrest : ∀ c ∈ rest.head?, c.isDigit = false) :
    readDigits (ds ++ rest) = some (ds, rest) := by
  have hstop : rest.takeWhile Char.isDigit = [] ∧ rest.dropWhile Char.isDigit = rest := by
    cases rest with
    | nil => exact ⟨rfl, rfl⟩
    | cons c rest => simp [hrest c rfl]
  rw [readDigits, List.takeWhile_append_of_pos hall, List.dropWhile_append_of_pos hall, hstop.1,
    hstop.2, List.append_nil]
  simp [hne]

lemma readDigits_digits (n : ℕ) {rest : List Char} (hrest : ∀ c ∈ rest.head?, c.isDigit = false) :
    readDigits (Text.digits n ++ rest) = some (Text.digits n, rest) :=
  readDigits_append (Text.digits_ne_nil n) (fun _ => Text.isDigit_of_mem_digits) hrest

lemma head?_digits (n : ℕ) : (Text.digits n).head? = some '0' ↔ n = 0 := by
  unfold Text.digits
  induction n using Nat.strong_induction_on with
  | _ n ih =>
    rw [Nat.toDigits_eq_if (by decide)]
    split
    · next hlt => interval_cases n <;> simp [Nat.digitChar]
    · next hge =>
      have hne : Nat.toDigits 10 (n / 10) ≠ [] := Nat.toDigits_ne_nil
      rw [List.head?_append_of_ne_nil _ hne, ih (n / 10) (by omega)]
      omega

lemma digits_not_padded (n : ℕ) :
    ¬((Text.digits n).head? = some '0' ∧ Text.digits n ≠ ['0']) := by
  rintro ⟨hhead, hne⟩
  rw [head?_digits] at hhead
  subst hhead
  exact hne rfl

lemma readUnsigned_integer {rest : List Char} (negative : Bool) (n : ℕ)
    (hzero : ¬(negative = true ∧ n = 0)) (hrest : EndsNumber rest) :
    readUnsigned negative (Text.digits n ++ rest) =
      some (.integer (if negative then -(n : ℤ) else n), rest) := by
  have hdigits := readDigits_digits n fun c hc => (hrest c hc).1
  have hfraction : readFraction rest = some (none, rest) := by
    unfold readFraction
    split
    · exact absurd rfl (hrest _ rfl).2.1
    · rfl
  have hexponent : readExponent rest = some (none, rest) := by
    unfold readExponent
    split
    · exact absurd rfl (hrest _ rfl).2.2.1
    · exact absurd rfl (hrest _ rfl).2.2.2
    · rfl
  simp [readUnsigned, hdigits, hfraction, hexponent, digits_not_padded, Text.digitsValue_digits,
    hzero]

lemma exists_digits_eq_cons (n : ℕ) : ∃ c ds, Text.digits n = c :: ds ∧ c.isDigit = true := by
  obtain ⟨c, ds, hcut⟩ := List.exists_cons_of_ne_nil (Text.digits_ne_nil n)
  exact ⟨c, ds, hcut, Text.isDigit_of_mem_digits (hcut ▸ List.mem_cons_self)⟩

lemma ne_of_isDigit {c d : Char} (hc : c.isDigit = true) (hd : d.isDigit = false) : c ≠ d := by
  rintro rfl
  simp [hc] at hd

lemma readNumber_digits (n : ℕ) (rest : List Char) :
    readNumber (Text.digits n ++ rest) = readUnsigned false (Text.digits n ++ rest) := by
  obtain ⟨c, ds, hcut, hc⟩ := exists_digits_eq_cons n
  have hsign : c ≠ '-' := ne_of_isDigit hc rfl
  rw [hcut, List.cons_append]
  simp [readNumber, hsign]

lemma readNumber_integerDigits {rest : List Char} (n : ℤ) (hrest : EndsNumber rest) :
    readNumber (Text.integerDigits n ++ rest) = some (.integer n, rest) := by
  unfold Text.integerDigits
  split
  · next hneg =>
    have habs : -(n.natAbs : ℤ) = n := by omega
    have hread := readUnsigned_integer true n.natAbs (by omega) hrest
    rw [List.cons_append, readNumber, hread, if_pos rfl, habs]
  · next hnonneg =>
    have habs : (n.natAbs : ℤ) = n := by omega
    have hread := readUnsigned_integer false n.natAbs (by simp) hrest
    rw [readNumber_digits, hread, if_neg Bool.false_ne_true, habs]

lemma readExponentDigits_integerDigits {rest : List Char} (e : ℤ) (hrest : EndsNumber rest) :
    readExponentDigits (Text.integerDigits e ++ rest) = some (e, rest) := by
  have hdigits := readDigits_digits e.natAbs fun c hc => (hrest c hc).1
  unfold Text.integerDigits
  split
  · next hneg =>
    have habs : -(e.natAbs : ℤ) = e := by omega
    rw [List.cons_append, readExponentDigits, hdigits]
    simp only [Option.map_some, Text.digitsValue_digits, habs]
  · next hnonneg =>
    obtain ⟨c, ds, hcut, hc⟩ := exists_digits_eq_cons e.natAbs
    have hminus : c ≠ '-' := ne_of_isDigit hc rfl
    have hplus : c ≠ '+' := ne_of_isDigit hc rfl
    have habs : (e.natAbs : ℤ) = e := by omega
    have hvalue := Text.digitsValue_digits e.natAbs
    rw [hcut] at hdigits hvalue ⊢
    rw [List.cons_append] at hdigits ⊢
    simp [readExponentDigits, hminus, hplus, hdigits, hvalue, habs]

lemma readNumber_writeDecimal {rest : List Char} (d : Decimal) (hrest : EndsNumber rest) :
    readNumber (writeDecimal d ++ rest) = some (.decimal d, rest) := by
  obtain ⟨negative, coefficient, exponent⟩ := d
  have hread : ∀ negative, readUnsigned negative
      (Text.digits coefficient ++ 'e' :: (Text.integerDigits exponent ++ rest)) =
        some (.decimal ⟨negative, coefficient, exponent⟩, rest) := by
    intro negative
    have hexponent : ∀ c ∈ ('e' :: (Text.integerDigits exponent ++ rest)).head?,
        c.isDigit = false := by
      simp
    have hdigits := readDigits_digits coefficient hexponent
    simp [readUnsigned, hdigits, digits_not_padded, readFraction, readExponent,
      readExponentDigits_integerDigits exponent hrest, Text.digitsValue_digits]
  cases negative with
  | false =>
    have hplain := readNumber_digits coefficient ('e' :: (Text.integerDigits exponent ++ rest))
    simpa [writeDecimal] using hplain.trans (hread false)
  | true => simpa [writeDecimal, readNumber] using hread true

def StartsNumber (c : Char) : Prop := c = '-' ∨ c.isDigit = true

lemma exists_integerDigits_eq_cons (n : ℤ) :
    ∃ c s, Text.integerDigits n = c :: s ∧ StartsNumber c := by
  unfold Text.integerDigits
  split
  · exact ⟨_, _, rfl, .inl rfl⟩
  · obtain ⟨c, ds, hcut, hc⟩ := exists_digits_eq_cons n.natAbs
    exact ⟨c, ds, hcut, .inr hc⟩

lemma exists_writeDecimal_eq_cons (d : Decimal) :
    ∃ c s, writeDecimal d = c :: s ∧ StartsNumber c := by
  obtain ⟨negative, coefficient, exponent⟩ := d
  cases negative with
  | true => exact ⟨_, _, rfl, .inl rfl⟩
  | false =>
    obtain ⟨c, ds, hcut, hc⟩ := exists_digits_eq_cons coefficient
    exact ⟨c, ds ++ 'e' :: Text.integerDigits exponent, by simp [writeDecimal, hcut], .inr hc⟩

lemma StartsNumber.ne {c d : Char} (hc : StartsNumber c) (hminus : d ≠ '-')
    (hdigit : d.isDigit = false) : c ≠ d := by
  rcases hc with rfl | hc
  · exact hminus.symm
  · exact ne_of_isDigit hc hdigit

end WorkloadScaling.Json
