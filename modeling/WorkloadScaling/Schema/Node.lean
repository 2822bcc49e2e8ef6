import WorkloadScaling.Schema.Metadata

/-!
# The shape of a node
-/
namespace WorkloadScaling.Shape

def nodeConfigSource : Shape :=
  object [("configMap",
    record ["kubeletConfigKey", "name", "namespace", "resourceVersion", "uid"])]

def taint : Shape := object (("timeAdded", timestamp) :: texts ["effect", "key", "value"])

def nodeSpec : Shape :=
  object ([("configSource", nodeConfigSource), ("podCIDRs", textList), ("taints", list taint),
      ("unschedulable", flag)] ++ texts ["externalID", "podCIDR", "providerID"])

def nodeConfigStatus : Shape :=
  object [("active", nodeConfigSource), ("assigned", nodeConfigSource), ("error", text),
    ("lastKnownGood", nodeConfigSource)]

def nodeSystemInfo : Shape :=
  record ["architecture", "bootID", "containerRuntimeVersion", "kernelVersion",
    "kubeProxyVersion", "kubeletVersion", "machineID", "operatingSystem", "osImage", "systemUUID"]

def nodeStatus : Shape :=
  object [("addresses", list (record ["address", "type"])), ("allocatable", textMap),
    ("capacity", textMap),
    ("conditions", list (condition ["lastHeartbeatTime", "lastTransitionTime"])),
    ("config", nodeConfigStatus),
    ("daemonEndpoints", object [("kubeletEndpoint", object [("Port", int32)])]),
    ("images", list (object [("names", textList), ("sizeBytes", int64)])),
    ("nodeInfo", nodeSystemInfo), ("phase", text),
    ("volumesAttached", list (record ["devicePath", "name"])), ("volumesInUse", textList)]

def node : Shape :=
  resource "v1" "Node"
    [("metadata", objectMetadata), ("spec", nodeSpec), ("status", nodeStatus)]

end WorkloadScaling.Shape
