import Mathlib
import WorkloadScaling.ControlPlane.Recorded
import WorkloadScaling.Proofs.ClientRun

/-!
# Recorded calls

A recorded control plane answers as the one inside it does, and each call is remembered once. So
what a computation comes to can be stated together with the calls that it made on the way.
-/
namespace WorkloadScaling

variable {σ α β : Type}

def World.inner (v : World (Recorded σ)) : World σ := ⟨v.remote.inner, v.log⟩

def World.calls (v : World (Recorded σ)) : List Call := v.remote.calls

namespace ControlPlane

variable (api : ControlPlane σ) (v : World (Recorded σ))

lemma recorded_catalog_calls : (api.recorded.catalog v).2.calls = v.calls ++ [.catalog] := rfl

lemma recorded_nodes_fst : (api.recorded.nodes v).1 = (api.nodes v.inner).1 := rfl

lemma recorded_nodes_calls : (api.recorded.nodes v).2.calls = v.calls ++ [.nodes] := rfl

end ControlPlane

namespace Attempt

structure Yields (x : Attempt (Recorded σ) α) (v : World (Recorded σ)) (calls : List Call)
    (result : Except Failure α) : Prop where
  result : (x.run v).1 = result
  calls : (x.run v).2.calls = v.calls ++ calls

variable {x : Attempt (Recorded σ) α} {v : World (Recorded σ)} {calls calls' : List Call}
  {result result' : Except Failure α}

lemma Yields.of_run {v' : World (Recorded σ)} (hrun : x.run v = (result, v'))
    (hcalls : v'.calls = v.calls ++ calls) : x.Yields v calls result :=
  ⟨congrArg Prod.fst hrun, (congrArg (·.2.calls) hrun).trans hcalls⟩

lemma Yields.of_quiet (hrun : x.run v = (result, v)) : x.Yields v [] result :=
  .of_run hrun (List.append_nil _).symm

lemma Yields.unique (h : x.Yields v calls result) (h' : x.Yields v calls' result') :
    calls = calls' ∧ result = result' :=
  ⟨List.append_cancel_left (h.calls.symm.trans h'.calls), h.result.symm.trans h'.result⟩

end Attempt

end WorkloadScaling
