/-!
# Hexadecimal digits
-/
namespace WorkloadScaling.Text

def hexValue? (c : Char) : Option Nat :=
  if c.isDigit then some (c.toNat - '0'.toNat)
  else if 'a' ≤ c ∧ c ≤ 'f' then some (c.toNat - 'a'.toNat + 10)
  else if 'A' ≤ c ∧ c ≤ 'F' then some (c.toNat - 'A'.toNat + 10)
  else none

def hexDigits? (ds : List Char) : Option Nat :=
  ds.foldlM (fun value d => (hexValue? d).map (value * 16 + ·)) 0

end WorkloadScaling.Text
