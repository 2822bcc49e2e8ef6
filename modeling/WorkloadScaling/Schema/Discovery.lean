import WorkloadScaling.Schema.Metadata

/-!
# The shapes of discovery answers
-/
namespace WorkloadScaling.Shape

def serverAddress : Shape := record ["clientCIDR", "serverAddress"]

def coreVersions : Shape :=
  resource "v1" "APIVersions"
    [("serverAddressByClientCIDRs", list serverAddress), ("versions", textList)]

def groupVersion : Shape := record ["groupVersion", "version"]

def group : Shape :=
  resource "v1" "APIGroup"
    [("name", text), ("preferredVersion", groupVersion),
      ("serverAddressByClientCIDRs", list serverAddress), ("versions", list groupVersion)]

def groupList : Shape := resource "v1" "APIGroupList" [("groups", list group)]

def resourceEntry : Shape :=
  object ([("categories", textList), ("namespaced", flag), ("shortNames", textList),
      ("verbs", textList)] ++
    texts ["group", "kind", "name", "singularName", "storageVersionHash", "version"])

def resourceList : Shape :=
  resource "v1" "APIResourceList" [("groupVersion", text), ("resources", list resourceEntry)]

end WorkloadScaling.Shape
