import WorkloadScaling.Yaml.Node

/-!
# Aliases on the way of a reader

A reader follows an alias each time it comes across one in a part that it looks at, also inside
what an earlier alias stands for. A small document can make that many, so it is bounded: a
document is read only as long as the aliases are few in comparison with its events.
-/
namespace WorkloadScaling.Yaml

/-- Which parts of a value a reader looks at. -/
inductive Reach where
  | leaf
  | items (item : Reach)
  | entries (value : Reach)
  /-- The keys of a mapping, and the values under some of them. -/
  | fields (known : List (String × Reach))
  deriving Repr, Inhabited

namespace View

def aliasCount (v : View) : Nat :=
  match v.node with
  | some (.alias _) => 1
  | _ => 0

def itemViews (v : View) : List View :=
  match v.resolved with
  | some (.sequence _ items) => items.map v.sub
  | _ => []

def entryViews (v : View) : List (View × View) :=
  match v.resolved with
  | some (.mapping _ entries) => entries.map fun (key, value) => (v.sub key, v.sub value)
  | _ => []

end View

namespace Reach

mutual

def followed : Reach → View → Nat
  | leaf, v => v.aliasCount
  | items item, v => v.aliasCount + (v.itemViews.map fun i => followed item i).sum
  | entries value, v => v.aliasCount +
      (v.entryViews.map fun e => e.1.aliasCount + followed value e.2).sum
  | fields known, v => v.aliasCount +
      (v.entryViews.map fun e => e.1.aliasCount + followedIn known e.1.text? e.2).sum
termination_by structural reach => reach

def followedIn : List (String × Reach) → Option String → View → Nat
  | [], _, _ => 0
  | field :: known, key, v =>
    if key = some field.1 then followedField field v else followedIn known key v
termination_by structural known => known

def followedField : String × Reach → View → Nat
  | (_, reach), v => followed reach v
termination_by structural field => field

end

end Reach

def aliasesPerEvent : Nat := 100

def Tree.aliasLimit (t : Tree) : Nat := t.size * aliasesPerEvent

/-- Whether a document has no more aliases on the way of a reader than may be followed. -/
def Tree.isWithinReach (reach : Reach) (t : Tree) : Bool :=
  decide (reach.followed t.view ≤ t.aliasLimit)

end WorkloadScaling.Yaml
