import WorkloadScaling.Capacity
import WorkloadScaling.Catalog
import WorkloadScaling.Patch

/-!
# Control planes

The three calls that the client makes of a cluster, over any state of the other side. A call
may change that state and may write to the log.
-/
namespace WorkloadScaling

/-- The state of the other side, and the lines logged so far. -/
structure World (σ : Type) where
  remote : σ
  log : List Log.Line := []

abbrev Run (σ : Type) := StateM (World σ)

namespace Run

variable {σ : Type}

def logLines (lines : List Log.Line) : Run σ Unit :=
  modify fun w => { w with log := w.log ++ lines }

def log (level : Log.Level) (text : String) (fields : List (String × String)) : Run σ Unit :=
  logLines [⟨level, text, fields⟩]

def remote {α : Type} (act : σ → α × σ) : Run σ α :=
  modifyGet fun w =>
    let (a, remote) := act w.remote
    (a, { w with remote })

end Run

structure ControlPlane (σ : Type) where
  catalog : Run σ (Except RemoteFailure Catalog)
  nodes : Run σ (Except RemoteFailure (List Node))
  patch : Workload → (nspace name : String) → Json → Run σ (Except RemoteFailure Unit)

/-- A computation that may fail; what happened before the failure stays. -/
abbrev Attempt (σ : Type) := ExceptT Failure (Run σ)

namespace Attempt

variable {σ α : Type}

def call (context : RemoteFailure → Failure) (act : Run σ (Except RemoteFailure α)) :
    Attempt σ α :=
  ExceptT.mk (Except.mapError context <$> act)

def pure? (result : Except Failure α) : Attempt σ α := ExceptT.mk (pure result)

def logLines (lines : List Log.Line) : Attempt σ Unit := ExceptT.lift (Run.logLines lines)

def log (level : Log.Level) (text : String) : Attempt σ Unit := logLines [⟨level, text, []⟩]

end Attempt

namespace ControlPlane

variable {σ : Type} (api : ControlPlane σ)

/-- Where the kind that a text names is served. The text is looked at before the cluster is
asked. -/
def discover (hint : String) : Attempt σ Served := do
  let w ← Attempt.pure? (Workload.ofKind hint)
  let catalog ← Attempt.call (.discovery w.kind) api.catalog
  Attempt.logLines (catalog.searchLog w)
  match catalog.find? w with
  | some served => pure served
  | none => throw (.kindNotServed w.kind w.plural)

def resolve (asked nspace : String) : Attempt σ Target := do
  let some (hint, name) := Target.halves? asked | throw (.targetFormat asked)
  let served ← api.discover hint
  Attempt.log .debug
    ("discovered target " ++ asked ++ " = " ++ served.groupVersion ++ "." ++ served.kind)
  pure ⟨served.kind, served.groupVersion, name, nspace⟩

def readSize : Attempt σ ClusterSize := do
  let nodes ← Attempt.call .listNodes api.nodes
  Attempt.logLines (ClusterSize.sumLog .zero nodes)
  let size ← Attempt.pure? (ClusterSize.ofNodes nodes)
  Attempt.log .info
    ("cluster has " ++ toString size.nodes ++ " nodes and " ++ toString size.cores ++ " cores")
  pure size

def update (target : Target) (resources : Resources) : Attempt σ Unit := do
  let some w := target.workload? | throw (.unknownTargetKind target.kind)
  Attempt.call (.patch w.kind target.nspace target.name)
    (api.patch w target.nspace target.name (resourcePatch target resources))
  Attempt.log .info
    ("patched resources of " ++ toString resources.size ++ " container(s) in " ++ target.display)

end ControlPlane

end WorkloadScaling
