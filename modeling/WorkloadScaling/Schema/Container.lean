import WorkloadScaling.Schema.Metadata

/-!
# The shapes of containers
-/
namespace WorkloadScaling.Shape

def resourceRequirements : Shape :=
  object [("claims", list (record ["name"])), ("limits", textMap), ("requests", textMap)]

def keySelector : Shape := object (("optional", flag) :: texts ["key", "name"])

def sourceReference : Shape := object [("name", text), ("optional", flag)]

def fieldReference : Shape := record ["apiVersion", "fieldPath"]

def resourceFieldReference : Shape := record ["containerName", "divisor", "resource"]

def environmentVariable : Shape :=
  object [("name", text), ("value", text),
    ("valueFrom", object [("configMapKeyRef", keySelector), ("fieldRef", fieldReference),
      ("resourceFieldRef", resourceFieldReference), ("secretKeyRef", keySelector)])]

def environmentSource : Shape :=
  object [("configMapRef", sourceReference), ("prefix", text), ("secretRef", sourceReference)]

def execAction : Shape := object [("command", textList)]

def httpAction : Shape :=
  object ([("httpHeaders", list (record ["name", "value"])), ("port", int32OrText)] ++
    texts ["host", "path", "scheme"])

def socketAction : Shape := object [("host", text), ("port", int32OrText)]

def lifecycleHandler : Shape :=
  object [("exec", execAction), ("httpGet", httpAction), ("tcpSocket", socketAction)]

def lifecycle : Shape := object [("postStart", lifecycleHandler), ("preStop", lifecycleHandler)]

def probe : Shape :=
  object ([("exec", execAction), ("grpc", object [("port", int32), ("service", text)]),
      ("httpGet", httpAction), ("tcpSocket", socketAction),
      ("terminationGracePeriodSeconds", int64)] ++
    int32s ["failureThreshold", "initialDelaySeconds", "periodSeconds", "successThreshold",
      "timeoutSeconds"])

def containerPort : Shape :=
  object (int32s ["containerPort", "hostPort"] ++ texts ["hostIP", "name", "protocol"])

def seLinuxOptions : Shape := record ["level", "role", "type", "user"]

def seccompProfile : Shape := record ["localhostProfile", "type"]

def windowsOptions : Shape :=
  object (("hostProcess", flag) ::
    texts ["gmsaCredentialSpec", "gmsaCredentialSpecName", "runAsUserName"])

def securityContext : Shape :=
  object ([("capabilities", object [("add", textList), ("drop", textList)]), ("procMount", text),
      ("seLinuxOptions", seLinuxOptions), ("seccompProfile", seccompProfile),
      ("windowsOptions", windowsOptions)] ++
    flags ["allowPrivilegeEscalation", "privileged", "readOnlyRootFilesystem", "runAsNonRoot"] ++
    int64s ["runAsGroup", "runAsUser"])

def volumeMount : Shape :=
  object (("readOnly", flag) ::
    texts ["mountPath", "mountPropagation", "name", "subPath", "subPathExpr"])

def container : Shape :=
  object ([("args", textList), ("command", textList), ("env", list environmentVariable),
      ("envFrom", list environmentSource), ("lifecycle", lifecycle), ("livenessProbe", probe),
      ("ports", list containerPort), ("readinessProbe", probe),
      ("resizePolicy", list (record ["resourceName", "restartPolicy"])),
      ("resources", resourceRequirements), ("securityContext", securityContext),
      ("startupProbe", probe), ("volumeDevices", list (record ["devicePath", "name"])),
      ("volumeMounts", list volumeMount)] ++
    flags ["stdin", "stdinOnce", "tty"] ++
    texts ["image", "imagePullPolicy", "name", "restartPolicy", "terminationMessagePath",
      "terminationMessagePolicy", "workingDir"])

def ephemeralContainer : Shape :=
  match container with
  | object fields => object (("targetContainerName", text) :: fields)
  | shape => shape

end WorkloadScaling.Shape
