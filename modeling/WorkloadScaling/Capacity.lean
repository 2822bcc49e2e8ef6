import WorkloadScaling.Failure
import WorkloadScaling.Log
import WorkloadScaling.Quantity
import WorkloadScaling.Schema.Node

/-!
# Cluster capacity

The size of a cluster: the number of its nodes and the whole cpu cores that they report
together. Every node counts, whether or not anything can be scheduled on it.
-/
namespace WorkloadScaling

structure Node where
  name : Option String
  cpu : Option String
  deriving DecidableEq, Repr

namespace Node

def ofJson? (depth : Nat) (v : Json) : Option Node :=
  if Shape.node.admits depth v then
    some {
      name := (v.member? "metadata").bind (·.textAt? "name")
      cpu := do ((← (← v.member? "status").member? "capacity").textAt? "cpu") }
  else none

def listOfJson? (depth : Nat) : Json → Option (List Node)
  | .array nodes => nodes.mapM (ofJson? (depth + 1))
  | _ => none

def label (node : Node) : String := node.name.getD "<unnamed>"

end Node

structure ClusterSize where
  nodes : Nat
  cores : Nat
  deriving DecidableEq, Repr

namespace ClusterSize

def maxCores : Nat := Nat.pow 2 64 - 1

/-- Adds the capacity of one node to a total. A node that reports none adds nothing. -/
def addNode (total : Quantity) (node : Node) : Except Failure Quantity :=
  match node.cpu with
  | none => .ok total
  | some text =>
    match (Quantity.parse? text).filter fun q => !q.isNegative with
    | none => .error (.invalidQuantity node.label text)
    | some q =>
      match total.add? q with
      | none => .error .capacityOverflow
      | some total => .ok total

def coresOfTotal (total : Quantity) : Except Failure Nat :=
  match total.wholeUnits? with
  | none => .error (.nonIntegralCores total.nanos)
  | some cores =>
    if 0 ≤ cores ∧ cores ≤ maxCores then .ok cores.toNat else .error (.coreTotalOutOfRange cores)

/-- The size of a cluster with these nodes, or the first thing that is wrong with them. -/
def ofNodes (nodes : List Node) : Except Failure ClusterSize := do
  let total ← nodes.foldlM addNode Quantity.zero
  let cores ← coresOfTotal total
  .ok ⟨nodes.length, cores⟩

def sumLog (total : Quantity) : List Node → List Log.Line
  | [] => []
  | node :: nodes =>
    let missing := match node.cpu with
      | none => [⟨.warn, "node " ++ node.label ++ " reports no cpu capacity", []⟩]
      | some _ => []
    match addNode total node with
    | .ok total => missing ++ sumLog total nodes
    | .error _ => missing

end ClusterSize

end WorkloadScaling
