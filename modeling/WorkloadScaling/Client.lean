import WorkloadScaling.ControlPlane

/-!
# The scaling client

A client keeps the target it was built for and the size that was read last. The remembered size
is for diagnosis: every reading asks the cluster again.
-/
namespace WorkloadScaling

structure Client where
  target : Target
  lastSize : Option ClusterSize
  deriving DecidableEq, Repr

namespace Client

variable {σ : Type}

def connect (api : ControlPlane σ) (asked nspace : String) : Attempt σ Client := do
  let target ← api.resolve asked nspace
  Attempt.log .info ("scaling target is " ++ target.display)
  pure ⟨target, none⟩

/-- Reads the cluster's size; a reading that succeeds is remembered. -/
def readSize (api : ControlPlane σ) (c : Client) : Run σ (Except Failure ClusterSize × Client) := do
  match ← api.readSize.run with
  | .ok size => pure (.ok size, { c with lastSize := some size })
  | .error e => pure (.error e, c)

def preview (c : Client) (resources : Resources) : Json := resourcePatch c.target resources

def update (api : ControlPlane σ) (c : Client) (resources : Resources) :
    Run σ (Except Failure Unit) :=
  (api.update c.target resources).run

end Client

/-- What an autoscaler needs of a cluster, from a client of any type. -/
structure ScalingClient (σ κ : Type) where
  readSize : κ → Run σ (Except Failure ClusterSize × κ)
  update : κ → Resources → Run σ (Except Failure Unit)

def Client.scaling {σ : Type} (api : ControlPlane σ) : ScalingClient σ Client where
  readSize c := c.readSize api
  update c resources := c.update api resources

end WorkloadScaling
