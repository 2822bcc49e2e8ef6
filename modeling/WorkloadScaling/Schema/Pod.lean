import WorkloadScaling.Schema.Volume

/-!
# The shape of a pod template
-/
namespace WorkloadScaling.Shape

def nodeSelectorTerm : Shape :=
  object [("matchExpressions", list selectorRequirement),
    ("matchFields", list selectorRequirement)]

def nodeAffinity : Shape :=
  object [("preferredDuringSchedulingIgnoredDuringExecution",
      list (object [("preference", nodeSelectorTerm), ("weight", int32)])),
    ("requiredDuringSchedulingIgnoredDuringExecution",
      object [("nodeSelectorTerms", list nodeSelectorTerm)])]

def podAffinityTerm : Shape :=
  object [("labelSelector", labelSelector), ("namespaceSelector", labelSelector),
    ("namespaces", textList), ("topologyKey", text)]

def podAffinity : Shape :=
  object [("preferredDuringSchedulingIgnoredDuringExecution",
      list (object [("podAffinityTerm", podAffinityTerm), ("weight", int32)])),
    ("requiredDuringSchedulingIgnoredDuringExecution", list podAffinityTerm)]

def affinity : Shape :=
  object [("nodeAffinity", nodeAffinity), ("podAffinity", podAffinity),
    ("podAntiAffinity", podAffinity)]

def podSecurityContext : Shape :=
  object ([("fsGroupChangePolicy", text), ("runAsNonRoot", flag),
      ("seLinuxOptions", seLinuxOptions), ("seccompProfile", seccompProfile),
      ("supplementalGroups", list int64), ("sysctls", list (record ["name", "value"])),
      ("windowsOptions", windowsOptions)] ++ int64s ["fsGroup", "runAsGroup", "runAsUser"])

def toleration : Shape :=
  object (("tolerationSeconds", int64) :: texts ["effect", "key", "operator", "value"])

def spreadConstraint : Shape :=
  object ([("labelSelector", labelSelector), ("matchLabelKeys", textList)] ++
    int32s ["maxSkew", "minDomains"] ++
    texts ["nodeAffinityPolicy", "nodeTaintsPolicy", "topologyKey", "whenUnsatisfiable"])

def nameResolution : Shape :=
  object [("nameservers", textList), ("options", list (record ["name", "value"])),
    ("searches", textList)]

def podSpec : Shape :=
  object ([("affinity", affinity), ("containers", list container),
      ("dnsConfig", nameResolution), ("ephemeralContainers", list ephemeralContainer),
      ("hostAliases", list (object [("hostnames", textList), ("ip", text)])),
      ("imagePullSecrets", list secretReference), ("initContainers", list container),
      ("nodeSelector", textMap), ("os", record ["name"]), ("overhead", textMap),
      ("priority", int32), ("readinessGates", list (record ["conditionType"])),
      ("resourceClaims", list (object [("name", text),
        ("source", record ["resourceClaimName", "resourceClaimTemplateName"])])),
      ("schedulingGates", list (record ["name"])), ("securityContext", podSecurityContext),
      ("tolerations", list toleration),
      ("topologySpreadConstraints", list spreadConstraint), ("volumes", list volume)] ++
    int64s ["activeDeadlineSeconds", "terminationGracePeriodSeconds"] ++
    flags ["automountServiceAccountToken", "enableServiceLinks", "hostIPC", "hostNetwork",
      "hostPID", "hostUsers", "setHostnameAsFQDN", "shareProcessNamespace"] ++
    texts ["dnsPolicy", "hostname", "nodeName", "preemptionPolicy", "priorityClassName",
      "restartPolicy", "runtimeClassName", "schedulerName", "serviceAccount",
      "serviceAccountName", "subdomain"])

def podTemplate : Shape := object [("metadata", objectMetadata), ("spec", podSpec)]

end WorkloadScaling.Shape
