import WorkloadScaling.Text.Blank
import WorkloadScaling.Text.Digits

/-!
# Resource quantities

A quantity such as `3500m`, `1.5`, `2Ki` or `1e3` is held as a whole number of nano-units, so
that sums over many nodes are exact. Reading accepts a sign, digits with at most one point and
one suffix; it refuses what is finer than a nano-unit and what does not fit 128 bits on the way.
-/
namespace WorkloadScaling

/-- A quantity counted in nano-units: one core is 10⁹ of them. -/
structure Quantity where
  nanos : Int
  deriving DecidableEq, Repr, Inhabited

namespace Quantity

/-- The greatest magnitude that reading lets through, and the greatest count a sum may reach. -/
def maxNanos : Nat := Nat.pow 2 127 - 1

def minNanos : Int := -(Nat.pow 2 127 : Int)

def maxPlaces : Nat := Nat.pow 2 31 - 1

def nanosPerUnit : Nat := Nat.pow 10 9

def zero : Quantity := ⟨0⟩

inductive Multiplier where
  | tenTo (exponent : Int)
  | twoTo (exponent : Nat)
  deriving DecidableEq, Repr

/-- Exponents are written as integers of 32 bits. -/
def exponent? (s : List Char) : Option Int :=
  (Text.integer? s).filter fun e => decide (-(Nat.pow 2 31 : Int) ≤ e) && decide (e < Nat.pow 2 31)

def Multiplier.ofSuffix? : List Char → Option Multiplier
  | [] => some (.tenTo 0)
  | ['n'] => some (.tenTo (-9))
  | ['u'] => some (.tenTo (-6))
  | ['m'] => some (.tenTo (-3))
  | ['k'] => some (.tenTo 3)
  | ['M'] => some (.tenTo 6)
  | ['G'] => some (.tenTo 9)
  | ['T'] => some (.tenTo 12)
  | ['P'] => some (.tenTo 15)
  | ['E'] => some (.tenTo 18)
  | ['K', 'i'] => some (.twoTo 10)
  | ['M', 'i'] => some (.twoTo 20)
  | ['G', 'i'] => some (.twoTo 30)
  | ['T', 'i'] => some (.twoTo 40)
  | ['P', 'i'] => some (.twoTo 50)
  | ['E', 'i'] => some (.twoTo 60)
  | 'e' :: s => (exponent? s).map .tenTo
  | 'E' :: s => (exponent? s).map .tenTo
  | _ => none

structure Written where
  negative : Bool
  whole : List Char
  fraction : List Char
  suffix : List Char
  deriving DecidableEq, Repr

def isNumeral (c : Char) : Bool := c.isDigit || c == '.'

/-- The digits before and after the first point, and what follows the longest run of digits
and points. -/
def Written.ofUnsigned (negative : Bool) (s : List Char) : Written :=
  let number := s.takeWhile isNumeral
  { negative
    whole := number.takeWhile (· ≠ '.')
    fraction := (number.dropWhile (· ≠ '.')).drop 1
    suffix := s.dropWhile isNumeral }

/-- Blanks around a quantity do not count, and one sign may lead it. -/
def Written.ofText? (s : List Char) : Option Written :=
  match Text.trim s with
  | [] => none
  | '-' :: t => some (.ofUnsigned true t)
  | '+' :: t => some (.ofUnsigned false t)
  | t => some (.ofUnsigned false t)

def bounded? (n : Nat) : Option Nat := if n ≤ maxNanos then some n else none

/-- Multiplies by a power of ten, refusing to drop precision. Ten to the 38th is the greatest
power within 127 bits. -/
def scale? (n : Nat) (exponent : Int) : Option Nat :=
  let power := Nat.pow 10 exponent.natAbs
  if 38 < exponent.natAbs then none
  else if 0 ≤ exponent then bounded? (n * power)
  else if n % power = 0 then some (n / power) else none

/-- The count of nano-units that the parts spell, without the sign. -/
def Written.magnitude? (w : Written) : Option Nat := do
  if w.whole = [] ∧ w.fraction = [] then none
  if '.' ∈ w.fraction then none
  let value ← bounded? (Text.digitsValue (w.whole ++ w.fraction))
  let places := w.fraction.length
  if maxPlaces < places then none
  match ← Multiplier.ofSuffix? w.suffix with
  | .tenTo e => scale? value (e + 9 - places)
  | .twoTo k => scale? (← bounded? (value * Nat.pow 2 k)) (9 - places)

def Written.value? (w : Written) : Option Quantity :=
  w.magnitude?.map fun n => ⟨if w.negative then -(n : Int) else n⟩

def parse? (s : String) : Option Quantity :=
  (Written.ofText? s.toList).bind Written.value?

def isNegative (q : Quantity) : Bool := decide (q.nanos < 0)

def add? (a b : Quantity) : Option Quantity :=
  let sum := a.nanos + b.nanos
  if minNanos ≤ sum ∧ sum ≤ maxNanos then some ⟨sum⟩ else none

def wholeUnits? (q : Quantity) : Option Int :=
  if q.nanos % nanosPerUnit = 0 then some (q.nanos / nanosPerUnit) else none

instance : Ord Quantity := ⟨fun a b => compare a.nanos b.nanos⟩

theorem add?_eq_some_iff {a b c : Quantity} :
    a.add? b = some c ↔
      c.nanos = a.nanos + b.nanos ∧ minNanos ≤ c.nanos ∧ c.nanos ≤ maxNanos := by
  obtain ⟨n⟩ := c
  simp only [add?, Option.ite_none_right_eq_some, Option.some.injEq, mk.injEq]
  constructor
  · rintro ⟨⟨h, h'⟩, rfl⟩
    exact ⟨rfl, h, h'⟩
  · rintro ⟨rfl, h, h'⟩
    exact ⟨⟨h, h'⟩, rfl⟩

theorem wholeUnits?_eq_some_iff {q : Quantity} {n : Int} :
    q.wholeUnits? = some n ↔ q.nanos = n * nanosPerUnit := by
  simp only [wholeUnits?, nanosPerUnit]
  constructor
  · intro h
    split at h <;> simp_all
    omega
  · intro h
    simp [h]

end Quantity

end WorkloadScaling
