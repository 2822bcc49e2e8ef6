/-!
# What is wrong with access settings

Reasons why no connection settings can be made from a kubeconfig file, or from the environment
of a process inside the cluster.
-/
namespace WorkloadScaling

inductive KubeconfigFailure where
  | unreadable
  | malformed
  | structureMismatch
  | kindMismatch
  | versionMismatch
  | noCurrentContext
  | noContext
  | noCluster
  | noUser
  | noServer
  | serverAddress
  | proxyAddress
  | authority
  | certificates
  deriving DecidableEq, Repr

inductive InClusterFailure where
  | variable
  | port
  | address
  | certificateBundle
  | certificates
  | defaultNamespace
  deriving DecidableEq, Repr

end WorkloadScaling
