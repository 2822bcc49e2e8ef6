import WorkloadScaling.Schema.Pod
import WorkloadScaling.Workload

/-!
# The shapes of workloads
-/
namespace WorkloadScaling.Shape

def rollingUpdate : Shape :=
  object [("rollingUpdate", object [("maxSurge", int32OrText), ("maxUnavailable", int32OrText)]),
    ("type", text)]

def deploymentSpec : Shape :=
  object ([("paused", flag), ("selector", labelSelector), ("strategy", rollingUpdate),
      ("template", podTemplate)] ++
    int32s ["minReadySeconds", "progressDeadlineSeconds", "replicas", "revisionHistoryLimit"])

def deploymentStatus : Shape :=
  object ([("conditions", list (condition ["lastTransitionTime", "lastUpdateTime"])),
      ("observedGeneration", int64)] ++
    int32s ["availableReplicas", "collisionCount", "readyReplicas", "replicas",
      "unavailableReplicas", "updatedReplicas"])

def daemonSetSpec : Shape :=
  object ([("selector", labelSelector), ("template", podTemplate),
      ("updateStrategy", rollingUpdate)] ++ int32s ["minReadySeconds", "revisionHistoryLimit"])

def daemonSetStatus : Shape :=
  object ([("conditions", list (condition ["lastTransitionTime"])),
      ("observedGeneration", int64)] ++
    int32s ["collisionCount", "currentNumberScheduled", "desiredNumberScheduled",
      "numberAvailable", "numberMisscheduled", "numberReady", "numberUnavailable",
      "updatedNumberScheduled"])

def replicaSetSpec : Shape :=
  object ([("selector", labelSelector), ("template", podTemplate)] ++
    int32s ["minReadySeconds", "replicas"])

def replicaSetStatus : Shape :=
  object ([("conditions", list (condition ["lastTransitionTime"])),
      ("observedGeneration", int64)] ++
    int32s ["availableReplicas", "fullyLabeledReplicas", "readyReplicas", "replicas"])

def workload (w : Workload) : Shape :=
  let (spec, status) := match w with
    | .deployment => (deploymentSpec, deploymentStatus)
    | .daemonSet => (daemonSetSpec, daemonSetStatus)
    | .replicaSet => (replicaSetSpec, replicaSetStatus)
  resource "apps/v1" w.kind [("metadata", objectMetadata), ("spec", spec), ("status", status)]

end WorkloadScaling.Shape
