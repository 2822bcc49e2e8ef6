import WorkloadScaling.Schema.Container

/-!
# The shapes of volumes
-/
namespace WorkloadScaling.Shape

def secretReference : Shape := record ["name"]

def keyToPath : Shape := object (("mode", int32) :: texts ["key", "path"])

def downwardFile : Shape :=
  object [("fieldRef", fieldReference), ("mode", int32), ("path", text),
    ("resourceFieldRef", resourceFieldReference)]

def projectedItems : Shape :=
  object [("items", list keyToPath), ("name", text), ("optional", flag)]

def claimSpec : Shape :=
  object ([("accessModes", textList), ("dataSource", record ["apiGroup", "kind", "name"]),
      ("dataSourceRef", record ["apiGroup", "kind", "name", "namespace"]),
      ("resources", resourceRequirements), ("selector", labelSelector)] ++
    texts ["storageClassName", "volumeMode", "volumeName"])

def securedSource (names : List String) (more : List (String × Shape)) : Shape :=
  object (("readOnly", flag) :: ("secretRef", secretReference) :: texts names ++ more)

def readOnlySource (names : List String) (more : List (String × Shape)) : Shape :=
  object (("readOnly", flag) :: texts names ++ more)

def projection : Shape :=
  object [("configMap", projectedItems), ("downwardAPI", object [("items", list downwardFile)]),
    ("secret", projectedItems),
    ("serviceAccountToken",
      object (("expirationSeconds", int64) :: texts ["audience", "path"]))]

def volume : Shape :=
  object [("name", text),
    ("awsElasticBlockStore", readOnlySource ["fsType", "volumeID"] [("partition", int32)]),
    ("azureDisk", readOnlySource ["cachingMode", "diskName", "diskURI", "fsType", "kind"] []),
    ("azureFile", readOnlySource ["secretName", "shareName"] []),
    ("cephfs", securedSource ["path", "secretFile", "user"] [("monitors", textList)]),
    ("cinder", securedSource ["fsType", "volumeID"] []),
    ("configMap", object [("defaultMode", int32), ("items", list keyToPath), ("name", text),
      ("optional", flag)]),
    ("csi", object [("driver", text), ("fsType", text),
      ("nodePublishSecretRef", secretReference), ("readOnly", flag),
      ("volumeAttributes", textMap)]),
    ("downwardAPI", object [("defaultMode", int32), ("items", list downwardFile)]),
    ("emptyDir", record ["medium", "sizeLimit"]),
    ("ephemeral", object [("volumeClaimTemplate",
      object [("metadata", objectMetadata), ("spec", claimSpec)])]),
    ("fc", readOnlySource ["fsType"]
      [("lun", int32), ("targetWWNs", textList), ("wwids", textList)]),
    ("flexVolume", securedSource ["driver", "fsType"] [("options", textMap)]),
    ("flocker", record ["datasetName", "datasetUUID"]),
    ("gcePersistentDisk", readOnlySource ["fsType", "pdName"] [("partition", int32)]),
    ("gitRepo", record ["directory", "repository", "revision"]),
    ("glusterfs", readOnlySource ["endpoints", "path"] []),
    ("hostPath", record ["path", "type"]),
    ("iscsi", securedSource ["fsType", "initiatorName", "iqn", "iscsiInterface", "targetPortal"]
      [("chapAuthDiscovery", flag), ("chapAuthSession", flag), ("lun", int32),
        ("portals", textList)]),
    ("nfs", readOnlySource ["path", "server"] []),
    ("persistentVolumeClaim", readOnlySource ["claimName"] []),
    ("photonPersistentDisk", record ["fsType", "pdID"]),
    ("portworxVolume", readOnlySource ["fsType", "volumeID"] []),
    ("projected", object [("defaultMode", int32), ("sources", list projection)]),
    ("quobyte", readOnlySource ["group", "registry", "tenant", "user", "volume"] []),
    ("rbd", securedSource ["fsType", "image", "keyring", "pool", "user"]
      [("monitors", textList)]),
    ("scaleIO", securedSource ["fsType", "gateway", "protectionDomain", "storageMode",
      "storagePool", "system", "volumeName"] [("sslEnabled", flag)]),
    ("secret", object [("defaultMode", int32), ("items", list keyToPath), ("optional", flag),
      ("secretName", text)]),
    ("storageos", securedSource ["fsType", "volumeName", "volumeNamespace"] []),
    ("vsphereVolume", record ["fsType", "storagePolicyID", "storagePolicyName", "volumePath"])]

end WorkloadScaling.Shape
