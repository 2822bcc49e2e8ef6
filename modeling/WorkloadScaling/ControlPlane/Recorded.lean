import WorkloadScaling.ControlPlane

/-!
# Recorded control planes

A control plane that remembers the calls it receives, over any other that answers them.
-/
namespace WorkloadScaling

inductive Call where
  | catalog
  | nodes
  | patch (workload : Workload) (nspace name : String) (document : Json)
  deriving DecidableEq, Repr

structure Recorded (σ : Type) where
  inner : σ
  calls : List Call := []
  deriving DecidableEq, Repr

namespace ControlPlane

variable {σ α : Type}

def record (call : Call) (act : Run σ α) : Run (Recorded σ) α := fun w =>
  let (a, w') := act ⟨w.remote.inner, w.log⟩
  (a, ⟨⟨w'.remote, w.remote.calls ++ [call]⟩, w'.log⟩)

def recorded (api : ControlPlane σ) : ControlPlane (Recorded σ) where
  catalog := record .catalog api.catalog
  nodes := record .nodes api.nodes
  patch w nspace name document :=
    record (.patch w nspace name document) (api.patch w nspace name document)

end ControlPlane

end WorkloadScaling
