import WorkloadScaling.Requirements
import WorkloadScaling.Target

/-!
# Resource patches

The strategic merge patch that sets the resources of a workload's containers. Containers are
listed in ascending order of their names, and nothing else of the workload is mentioned.
-/
namespace WorkloadScaling

def containerPatch (name : String) (requirements : Requirements) : Json :=
  .object [("name", .string name), ("resources", requirements.toJson)]

/-- The document sent to a target, with its keys in ascending order. -/
def resourcePatch (target : Target) (resources : Resources) : Json :=
  .object [
    ("apiVersion", .string target.groupVersion),
    ("kind", .string target.kind),
    ("metadata", .object [("name", .string target.name)]),
    ("spec", .object [("template", .object [("spec", .object [
      ("containers", .array (resources.entries.map fun (name, requirements) =>
        containerPatch name requirements))])])])]

end WorkloadScaling
