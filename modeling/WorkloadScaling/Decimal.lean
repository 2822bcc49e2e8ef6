/-!
# Decimals and doubles

A number written in decimal digits, and the double next to it. A double is held by its magnitude
in steps of the least positive one, so that doubles are equal when they are equal numbers, and
rounding is arithmetic on whole numbers.
-/
namespace WorkloadScaling

/-- A number with a point, an exponent or a negative zero: ± `coefficient` · 10 ^ `exponent`. -/
structure Decimal where
  negative : Bool
  coefficient : Nat
  exponent : Int
  deriving DecidableEq, Repr

/-- A finite double: a sign, and the magnitude in steps of the least positive double. -/
structure Double where
  negative : Bool
  magnitude : Nat
  deriving DecidableEq, Repr

namespace Double

/-- The whole number nearest to a quotient; of two, the even one. -/
def roundDiv (num den : Nat) : Nat :=
  let quotient := num / den
  let twice := 2 * (num % den)
  if den < twice ∨ (twice = den ∧ quotient % 2 = 1) then quotient + 1 else quotient

def precision : Nat := 53

def round (num den : Nat) : Nat :=
  let unit := Nat.pow 2 ((num / den).log2 + 1 - precision)
  roundDiv num (den * unit) * unit

def stepsOfOne : Nat := Nat.pow 2 1074

def limit : Nat := Nat.pow 2 1024

def exponentBound : Nat := 308

/-- The greatest power of ten that a coefficient need be divided by: beyond it the quotient is
nearer to zero than to the first step. -/
def divisorBound (coefficient : Nat) : Nat := coefficient.log2 + 326

/-- The magnitude of the double nearest to a decimal, before it is compared with the limit. -/
def nearest? (coefficient : Nat) (exponent : Int) : Option Nat :=
  let power := exponent.natAbs
  if exponent < 0 then
    some (round (coefficient * stepsOfOne) (Nat.pow 10 (min power (divisorBound coefficient))))
  else if coefficient = 0 then some 0
  else if power ≤ exponentBound then some (round (coefficient * Nat.pow 10 power * stepsOfOne) 1)
  else none

/-- The double nearest to a decimal, unless that is too great for one. Zero has no sign. -/
def ofDecimal? (d : Decimal) : Option Double :=
  ((nearest? d.coefficient d.exponent).filter (· < limit * stepsOfOne)).map fun magnitude =>
    ⟨d.negative && magnitude != 0, magnitude⟩

end Double

namespace Decimal

def wordBound : Nat := Nat.pow 2 64

/-- Cuts digits off the end of a coefficient until it fits into a word, and counts them. -/
def leading (coefficient : Nat) : Nat × Nat :=
  if coefficient < wordBound then (coefficient, 0)
  else
    let (kept, cut) := leading (coefficient / 10)
    (kept, cut + 1)
termination_by coefficient
decreasing_by
  have : 0 < wordBound := by decide
  omega

/-- Whether a decimal is finite for a reader that takes the double next to the leading digits,
and multiplies it with the double next to the power of ten. -/
def isFinite (d : Decimal) : Bool :=
  let (kept, cut) := leading d.coefficient
  let exponent := d.exponent + cut
  if kept = 0 ∨ exponent < 0 then true
  else decide (exponent.natAbs ≤ Double.exponentBound) &&
    decide (Double.round (Double.round kept 1 * Double.round (Nat.pow 10 exponent.natAbs) 1) 1 <
      Double.limit)

end Decimal

end WorkloadScaling
