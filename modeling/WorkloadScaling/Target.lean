import WorkloadScaling.Workload

/-!
# Targets

A target is the workload whose container resources are managed, pinned to the group and version
under which the cluster serves its kind. It is asked for as `<kind>/<name>`.
-/
namespace WorkloadScaling

/-- A workload of one cluster. The kind is spelled as the cluster spells it. -/
structure Target where
  kind : String
  groupVersion : String
  name : String
  nspace : String
  deriving DecidableEq, Repr

namespace Target

def workload? (t : Target) : Option Workload := Workload.ofKind? t.kind

def display (t : Target) : String :=
  t.groupVersion ++ "." ++ t.kind ++ " " ++ t.nspace ++ "/" ++ t.name

/-- The kind and the name of a target that is asked for: the halves around the only slash. -/
def halves? (s : String) : Option (String × String) :=
  let kind := s.toList.takeWhile (· ≠ '/')
  match s.toList.dropWhile (· ≠ '/') with
  | [] => none
  | _ :: name => if '/' ∈ name then none else some (String.ofList kind, String.ofList name)

end Target

end WorkloadScaling
