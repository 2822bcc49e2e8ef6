import WorkloadScaling.Decimal
import WorkloadScaling.NameMap

/-!
# JSON values

A JSON value as its text spells it: object members keep their order and their repetitions, and
a number written with a point or an exponent is told from an integer.
-/
namespace WorkloadScaling

/-- A JSON value. `unreadable` stands for a string, or an object with a key, that escapes half
of a surrogate pair: it is well formed, but only a reader that skips it can pass over it. -/
inductive Json where
  | null
  | bool (b : Bool)
  | integer (n : Int)
  | decimal (d : Decimal)
  | string (s : String)
  | unreadable
  | array (items : List Json)
  | object (members : List (String × Json))
  deriving Repr, Inhabited

namespace Json

mutual

def decEq : (a b : Json) → Decidable (a = b)
  | .null, b => by
    cases b with
    | null => exact isTrue rfl
    | _ => exact isFalse (by simp)
  | .bool x, b => by
    cases b with
    | bool y => exact decidable_of_iff (x = y) (by simp)
    | _ => exact isFalse (by simp)
  | .integer x, b => by
    cases b with
    | integer y => exact decidable_of_iff (x = y) (by simp)
    | _ => exact isFalse (by simp)
  | .decimal x, b => by
    cases b with
    | decimal y => exact decidable_of_iff (x = y) (by simp)
    | _ => exact isFalse (by simp)
  | .string x, b => by
    cases b with
    | string y => exact decidable_of_iff (x = y) (by simp)
    | _ => exact isFalse (by simp)
  | .unreadable, b => by
    cases b with
    | unreadable => exact isTrue rfl
    | _ => exact isFalse (by simp)
  | .array xs, b => by
    cases b with
    | array ys =>
      have := decEqItems xs ys
      exact decidable_of_iff (xs = ys) (by simp)
    | _ => exact isFalse (by simp)
  | .object xs, b => by
    cases b with
    | object ys =>
      have := decEqMembers xs ys
      exact decidable_of_iff (xs = ys) (by simp)
    | _ => exact isFalse (by simp)
termination_by structural a => a

def decEqItems : (xs ys : List Json) → Decidable (xs = ys)
  | [], [] => isTrue rfl
  | [], _ :: _ => isFalse (by simp)
  | _ :: _, [] => isFalse (by simp)
  | x :: xs, y :: ys =>
    have := decEq x y
    have := decEqItems xs ys
    decidable_of_iff (x = y ∧ xs = ys) (by simp)
termination_by structural xs => xs

def decEqMembers : (xs ys : List (String × Json)) → Decidable (xs = ys)
  | [], [] => isTrue rfl
  | [], _ :: _ => isFalse (by simp)
  | _ :: _, [] => isFalse (by simp)
  | x :: xs, y :: ys =>
    have := decEqMember x y
    have := decEqMembers xs ys
    decidable_of_iff (x = y ∧ xs = ys) (by simp)
termination_by structural xs => xs

def decEqMember : (x y : String × Json) → Decidable (x = y)
  | (j, a), (k, b) =>
    have := decEq a b
    decidable_of_iff (j = k ∧ a = b) (by simp)
termination_by structural x => x

end

instance : DecidableEq Json := decEq

def ofMembers (members : List (String × Option Json)) : Json :=
  .object (members.filterMap fun (key, value) => value.map fun v => (key, v))

/-- The value of a key; of a repeated key the last one counts. -/
def find? (members : List (String × Json)) (key : String) : Option Json :=
  (members.reverse.find? fun m => m.1 == key).map Prod.snd

def sortMembers (members : List (String × Json)) : List (String × Json) :=
  members.foldl (fun sorted (key, value) => NameMap.insertEntry key value sorted) []

mutual

/-- The same document with the members of every object sorted by key, the last of a repeated
key kept. -/
def canonical : Json → Json
  | .array items => .array (canonicalItems items)
  | .object members => .object (sortMembers (canonicalMembers members))
  | value => value
termination_by structural value => value

def canonicalItems : List Json → List Json
  | [] => []
  | item :: items => canonical item :: canonicalItems items
termination_by structural items => items

def canonicalMembers : List (String × Json) → List (String × Json)
  | [] => []
  | member :: members => canonicalMember member :: canonicalMembers members
termination_by structural members => members

def canonicalMember : String × Json → String × Json
  | (key, value) => (key, canonical value)
termination_by structural member => member

end

mutual

def depth : Json → Nat
  | .array items => depthItems items + 1
  | .object members => depthMembers members + 1
  | _ => 0
termination_by structural value => value

def depthItems : List Json → Nat
  | [] => 0
  | item :: items => max (depth item) (depthItems items)
termination_by structural items => items

def depthMembers : List (String × Json) → Nat
  | [] => 0
  | member :: members => max (depthMember member) (depthMembers members)
termination_by structural members => members

def depthMember : String × Json → Nat
  | (_, value) => depth value
termination_by structural member => member

end

mutual

/-- A value whose strings and numbers all denote something. -/
def isReadable : Json → Bool
  | .unreadable => false
  | .integer n => Decimal.isFinite ⟨decide (n < 0), n.natAbs, 0⟩
  | .decimal d => d.isFinite
  | .array items => isReadableItems items
  | .object members => isReadableMembers members
  | _ => true
termination_by structural value => value

def isReadableItems : List Json → Bool
  | [] => true
  | item :: items => isReadable item && isReadableItems items
termination_by structural items => items

def isReadableMembers : List (String × Json) → Bool
  | [] => true
  | member :: members => isReadableMember member && isReadableMembers members
termination_by structural members => members

def isReadableMember : String × Json → Bool
  | (_, value) => isReadable value
termination_by structural member => member

end

end Json

end WorkloadScaling
