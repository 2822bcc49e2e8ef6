import WorkloadScaling.RemoteFailure
import WorkloadScaling.Kubeconfig.Failure
import WorkloadScaling.Text.Quoted

/-!
# Failures of the client

One cause per class of failure. Failures while the client is built are final; those of a later
call concern that call alone.
-/
namespace WorkloadScaling

inductive Failure where
  | kubeconfig (path : String) (cause : KubeconfigFailure)
  | inCluster (cause : InClusterFailure)
  | connect (cause : RemoteFailure)
  | targetFormat (target : String)
  | unsupportedKind (kind : String)
  | discovery (kind : String) (cause : RemoteFailure)
  | kindNotServed (kind plural : String)
  | listNodes (cause : RemoteFailure)
  | invalidQuantity (node quantity : String)
  | nonIntegralCores (total : Int)
  | capacityOverflow
  | coreTotalOutOfRange (total : Int)
  | serialize
  | unknownTargetKind (kind : String)
  | patch (kind nspace name : String) (cause : RemoteFailure)
  deriving DecidableEq, Repr

namespace Failure

/-- Whether the failure belongs to the building of the client. -/
def isConstruction : Failure → Bool
  | kubeconfig _ _ | inCluster _ | connect _ | targetFormat _ | unsupportedKind _
  | discovery _ _ | kindNotServed _ _ => true
  | listNodes _ | invalidQuantity _ _ | nonIntegralCores _ | capacityOverflow
  | coreTotalOutOfRange _ | serialize | unknownTargetKind _ | patch _ _ _ _ => false

def remote? : Failure → Option RemoteFailure
  | connect cause | discovery _ cause | listNodes cause | patch _ _ _ cause => some cause
  | _ => none

def message : Failure → String
  | kubeconfig path _ => "failed to load kubeconfig " ++ path
  | inCluster _ => "failed to load in-cluster configuration"
  | connect _ => "failed to create Kubernetes client"
  | targetFormat target =>
    "target format error: " ++ Text.quoted target ++ " (expected <kind>/<name>)"
  | unsupportedKind kind =>
    "unsupported kind " ++ Text.quoted kind ++
      ": must be one of deployment, daemonset or replicaset"
  | discovery kind _ => "failed to discover apigroup for kind " ++ Text.quoted kind
  | kindNotServed kind plural =>
    "kind " ++ Text.quoted kind ++ " (" ++ plural ++ ") is not served by the cluster"
  | listNodes _ => "failed to list nodes"
  | invalidQuantity node quantity =>
    "invalid cpu quantity " ++ Text.quoted quantity ++ " on node " ++ Text.quoted node
  | nonIntegralCores total =>
    "unable to compute integer values of cores in the cluster (total " ++ toString total ++
      " nanocores)"
  | capacityOverflow => "cluster cpu capacity is too large to count"
  | coreTotalOutOfRange total =>
    "cluster core total " ++ toString total ++ " does not fit in a core count"
  | serialize => "can't marshal patch to JSON"
  | unknownTargetKind kind =>
    "unknown target kind " ++ Text.quoted kind ++
      ": must be one of deployment/*, daemonset/* or replicaset/* (not case sensitive)"
  | patch kind nspace name _ => "patch of " ++ kind ++ " " ++ nspace ++ "/" ++ name ++ " failed"

end Failure

end WorkloadScaling
