/-!
# Decimal digits

Reading and writing of whole numbers in ASCII decimal digits. A text is read back from the
digits that are written for a number.
-/
namespace WorkloadScaling.Text

def digits (n : Nat) : List Char := Nat.toDigits 10 n

/-- The number spelled by a run of digits; no digits spell zero. -/
def digitsValue (ds : List Char) : Nat := Nat.ofDigitChars 10 ds 0

def natural? (s : List Char) : Option Nat :=
  if s ≠ [] ∧ s.all Char.isDigit then some (digitsValue s) else none

def integer? : List Char → Option Int
  | '-' :: s => (natural? s).map fun n => -(n : Int)
  | '+' :: s => (natural? s).map fun n => (n : Int)
  | s => (natural? s).map fun n => (n : Int)

def integerDigits (n : Int) : List Char :=
  if n < 0 then '-' :: digits n.natAbs else digits n.natAbs

theorem digitsValue_digits (n : Nat) : digitsValue (digits n) = n :=
  Nat.ofDigitChars_toDigits (by decide) (by decide)

theorem isDigit_of_mem_digits {n : Nat} {c : Char} (h : c ∈ digits n) : c.isDigit = true :=
  Nat.isDigit_of_mem_toDigits (by decide) (by decide) h

theorem digits_ne_nil (n : Nat) : digits n ≠ [] := Nat.toDigits_ne_nil

end WorkloadScaling.Text
