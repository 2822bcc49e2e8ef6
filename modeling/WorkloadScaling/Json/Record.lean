import WorkloadScaling.Json.Parser

/-!
# Records in JSON

A record with fixed fields is written as an object, or as an array of all its fields in order.
In an object unknown keys are passed over, and no field may be given twice.
-/
namespace WorkloadScaling.Json

/-- The only value of a field, if it is given; no answer when it is given twice. -/
def field? (members : List (String × Json)) (name : String) : Option (Option Json) :=
  match members.filter fun m => m.1 == name with
  | [] => some none
  | [m] => some (some m.2)
  | _ => none

/-- The values of the fields of a record, in the order of their names. -/
def record? (names : List String) : Json → Option (List (Option Json))
  | .object members => names.mapM (field? members)
  | .array items => if items.length = names.length then some (items.map some) else none
  | _ => none

def string? : Json → Option String
  | .string s => some s
  | _ => none

def natural? (bound : Nat) : Json → Option Nat
  | .integer n => if 0 ≤ n ∧ n < bound then some n.toNat else none
  | _ => none

end WorkloadScaling.Json
