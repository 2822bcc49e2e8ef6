/-!
# Base64

Bytes spelled by sixty-four characters: four characters for three bytes. The last four are
filled up with one or two equals signs, and the bits they do not need are zero.
-/
namespace WorkloadScaling.Text

def base64Value? (c : Char) : Option Nat :=
  if 'A' ≤ c ∧ c ≤ 'Z' then some (c.toNat - 'A'.toNat)
  else if 'a' ≤ c ∧ c ≤ 'z' then some (c.toNat - 'a'.toNat + 26)
  else if '0' ≤ c ∧ c ≤ '9' then some (c.toNat - '0'.toNat + 52)
  else if c = '+' then some 62
  else if c = '/' then some 63
  else none

def bytesOfFour (a b c d : Nat) : List UInt8 :=
  [.ofNat (a * 4 + b / 16), .ofNat (b % 16 * 16 + c / 4), .ofNat (c % 4 * 64 + d)]

/-- Reads bytes; nothing but their one spelling is accepted. -/
def base64Bytes? : List Char → Option (List UInt8)
  | [] => some []
  | [a, b, '=', '='] => do
    let a ← base64Value? a
    let b ← base64Value? b
    if b % 16 = 0 then some ((bytesOfFour a b 0 0).take 1) else none
  | [a, b, c, '='] => do
    let a ← base64Value? a
    let b ← base64Value? b
    let c ← base64Value? c
    if c % 4 = 0 then some ((bytesOfFour a b c 0).take 2) else none
  | a :: b :: c :: d :: rest => do
    let four := bytesOfFour (← base64Value? a) (← base64Value? b) (← base64Value? c)
      (← base64Value? d)
    some (four ++ (← base64Bytes? rest))
  | _ => none

end WorkloadScaling.Text
