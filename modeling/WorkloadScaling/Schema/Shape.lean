import WorkloadScaling.Json.Parser
import WorkloadScaling.Schema.Timestamp

/-!
# Shapes of cluster documents

The documents of a cluster are typed: a field that is known must have its own type or be null,
a field that is not known is passed over, and a document that names its version and kind must
name the right ones.
-/
namespace WorkloadScaling

/-- The type of a part of a document. -/
inductive Shape where
  | any
  | text
  | flag
  | int32
  | int64
  | int32OrText
  | timestamp
  /-- One text and no other, not even null. -/
  | exactly (s : String)
  | list (item : Shape)
  | map (value : Shape)
  | object (fields : List (String × Shape))
  deriving Repr, Inhabited

namespace Shape

def isSigned (bits : Nat) (n : Int) : Bool :=
  decide (-(Nat.pow 2 (bits - 1) : Int) ≤ n) && decide (n < Nat.pow 2 (bits - 1))

/-- Whether null stands for an absent part. -/
def allowsNull : Shape → Bool
  | exactly _ => false
  | _ => true

mutual

def admits (depth : Nat) : Shape → Json → Bool
  | any, v => v.isReadable && decide (depth + v.depth ≤ Json.maxDepth)
  | text, .string _ => true
  | flag, .bool _ => true
  | int32, .integer n => isSigned 32 n
  | int64, .integer n => isSigned 64 n
  | int32OrText, .integer n => isSigned 32 n
  | int32OrText, .string _ => true
  | timestamp, .string s => Timestamp.isTimestamp s
  | exactly t, .string s => s == t
  | list item, .array vs => vs.all fun v => admits (depth + 1) item v
  | map value, .object ms => ms.all fun m => admits (depth + 1) value m.2
  | object fields, .object ms => ms.all fun m => admitsField (depth + 1) fields m.1 m.2
  | _, _ => false
termination_by structural shape => shape

def admitsField (depth : Nat) : List (String × Shape) → String → Json → Bool
  | [], _, _ => true
  | field :: fields, key, v =>
    if field.1 = key then admitsOrNull depth field v else admitsField depth fields key v
termination_by structural fields => fields

def admitsOrNull (depth : Nat) : String × Shape → Json → Bool
  | (_, shape), v => (shape.allowsNull && v matches .null) || admits depth shape v
termination_by structural field => field

end

def accepts (shape : Shape) (v : Json) : Bool := admits 0 shape v

def texts (names : List String) : List (String × Shape) := names.map (·, text)

def flags (names : List String) : List (String × Shape) := names.map (·, flag)

def int32s (names : List String) : List (String × Shape) := names.map (·, int32)

def int64s (names : List String) : List (String × Shape) := names.map (·, int64)

def record (names : List String) : Shape := object (texts names)

def resource (apiVersion kind : String) (fields : List (String × Shape)) : Shape :=
  object (("apiVersion", exactly apiVersion) :: ("kind", exactly kind) :: fields)

end Shape

namespace Json

/-- The part under a key, unless it is absent or null. -/
def member? (key : String) : Json → Option Json
  | .object members =>
    match find? members key with
    | some .null => none
    | value => value
  | _ => none

def textAt? (key : String) (v : Json) : Option String :=
  match v.member? key with
  | some (.string s) => some s
  | _ => none

/-- The items under a key; none when there is no list. -/
def itemsAt (key : String) (v : Json) : List Json :=
  match v.member? key with
  | some (.array items) => items
  | _ => []

end Json

end WorkloadScaling
