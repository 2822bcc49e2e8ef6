import WorkloadScaling.ControlPlane.Recorded

/-!
# Scripted control planes

A control plane whose answers are given beforehand. It shows how a client behaves without a
cluster.
-/
namespace WorkloadScaling

/-- The answers, and the calls that fail instead. -/
structure Script where
  catalog : Catalog := []
  nodes : List Node := []
  failing : List String := []
  deriving DecidableEq, Repr

namespace Script

def unavailable (call : String) : RemoteFailure :=
  .refused ⟨"Failure", call ++ " unavailable", "InternalError", 500⟩

def answer {α : Type} (call : String) (a : Script → α) (s : Script) : Except RemoteFailure α :=
  if call ∈ s.failing then .error (unavailable call) else .ok (a s)

def controlPlane : ControlPlane Script where
  catalog := Run.remote fun s => (s.answer "catalog" Script.catalog, s)
  nodes := Run.remote fun s => (s.answer "nodes" Script.nodes, s)
  patch _ _ _ _ := Run.remote fun s => (s.answer "patch" (fun _ => ()), s)

end Script

end WorkloadScaling
