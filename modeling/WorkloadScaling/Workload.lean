import WorkloadScaling.Failure
import WorkloadScaling.Text.Keyword

/-!
# Workload kinds

The kinds of workload whose pod template can be patched.
-/
namespace WorkloadScaling

inductive Workload where
  | deployment
  | daemonSet
  | replicaSet
  deriving DecidableEq, Repr

namespace Workload

def kind : Workload → String
  | deployment => "Deployment"
  | daemonSet => "DaemonSet"
  | replicaSet => "ReplicaSet"

/-- The name under which a cluster lists the kind among its resources. -/
def plural : Workload → String
  | deployment => "deployments"
  | daemonSet => "daemonsets"
  | replicaSet => "replicasets"

def vocabulary : List (String × Workload) :=
  [("deployment", deployment), ("daemonset", daemonSet), ("replicaset", replicaSet)]

def ofKind (s : String) : Except Failure Workload := Text.keyword .unsupportedKind vocabulary s

def ofKind? (s : String) : Option Workload := (ofKind s).toOption

theorem ofKind?_eq_some_iff {s : String} {w : Workload} :
    ofKind? s = some w ↔ ofKind s = .ok w := by
  unfold ofKind?
  cases ofKind s <;> simp [Except.toOption]

theorem ofKind?_eq_none_iff {s : String} :
    ofKind? s = none ↔ ofKind s = .error (.unsupportedKind s) := by
  constructor
  · intro h
    cases hread : ofKind s with
    | error e =>
      obtain ⟨rfl, -⟩ := Text.keyword_eq_error_iff.mp hread
      rfl
    | ok w => simp [ofKind?, hread, Except.toOption] at h
  · intro h
    simp [ofKind?, h, Except.toOption]

theorem ofKind?_kind (w : Workload) : ofKind? w.kind = some w := by
  cases w <;> decide +kernel

theorem slash_notMem_plural (w : Workload) : '/' ∉ w.plural.toList := by
  cases w <;> decide

end Workload

end WorkloadScaling
