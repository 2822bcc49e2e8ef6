import WorkloadScaling.Schema.Shape

/-!
# Metadata of cluster documents
-/
namespace WorkloadScaling.Shape

def textMap : Shape := map text

def textList : Shape := list text

def listMetadata : Shape :=
  object (("remainingItemCount", int64) :: texts ["continue", "resourceVersion", "selfLink"])

def managedFields : Shape :=
  object ([("fieldsV1", any), ("time", timestamp)] ++
    texts ["apiVersion", "fieldsType", "manager", "operation", "subresource"])

def ownerReference : Shape :=
  object (flags ["blockOwnerDeletion", "controller"] ++
    texts ["apiVersion", "kind", "name", "uid"])

def objectMetadata : Shape :=
  object ([("annotations", textMap), ("creationTimestamp", timestamp),
      ("deletionTimestamp", timestamp), ("finalizers", textList), ("labels", textMap),
      ("managedFields", list managedFields), ("ownerReferences", list ownerReference)] ++
    int64s ["deletionGracePeriodSeconds", "generation"] ++
    texts ["generateName", "name", "namespace", "resourceVersion", "selfLink", "uid"])

def selectorRequirement : Shape :=
  object (("values", textList) :: texts ["key", "operator"])

def labelSelector : Shape :=
  object [("matchExpressions", list selectorRequirement), ("matchLabels", textMap)]

def condition (times : List String) : Shape :=
  object (times.map (·, timestamp) ++ texts ["message", "reason", "status", "type"])

end WorkloadScaling.Shape
