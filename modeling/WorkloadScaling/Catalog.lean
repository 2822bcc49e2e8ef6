import WorkloadScaling.Log
import WorkloadScaling.Schema.Discovery
import WorkloadScaling.Workload

/-!
# Catalogs

What a cluster serves: for each group and version the list of its resources. A workload kind is
served by the first list that has a resource of the kind's plural name.
-/
namespace WorkloadScaling

structure CatalogEntry where
  name : String
  kind : String
  isNamespaced : Bool
  deriving DecidableEq, Repr

structure ResourceList where
  groupVersion : String
  resources : List CatalogEntry
  deriving DecidableEq, Repr

abbrev Catalog := List ResourceList

/-- The kind of a resource as its cluster spells it, and where it is served. -/
structure Served where
  kind : String
  groupVersion : String
  deriving DecidableEq, Repr

namespace CatalogEntry

def ofJson (v : Json) : CatalogEntry where
  name := (v.textAt? "name").getD ""
  kind := (v.textAt? "kind").getD ""
  isNamespaced := v.member? "namespaced" == some (.bool true)

/-- Workloads are namespaced, and a name with a slash is that of a part of a resource. -/
def isWorkloadLike (e : CatalogEntry) : Bool := e.isNamespaced && !e.name.toList.contains '/'

end CatalogEntry

namespace ResourceList

def ofJson? (v : Json) : Option ResourceList :=
  if Shape.resourceList.accepts v then
    some {
      groupVersion := (v.textAt? "groupVersion").getD ""
      resources := (v.itemsAt "resources").map CatalogEntry.ofJson }
  else none

def namespacedOnly (list : ResourceList) : ResourceList :=
  { list with resources := list.resources.filter CatalogEntry.isWorkloadLike }

def find? (list : ResourceList) (name : String) : Option Served :=
  (list.resources.find? fun e => e.name == name).map fun e => ⟨e.kind, list.groupVersion⟩

end ResourceList

namespace Catalog

def ofJson? : Json → Option Catalog
  | .array lists => lists.mapM ResourceList.ofJson?
  | _ => none

/-- Where a workload kind is served: lists in order, in each the first of the right name. -/
def find? (catalog : Catalog) (w : Workload) : Option Served :=
  catalog.findSome? fun list => list.find? w.plural

def searchLog (w : Workload) : Catalog → List Log.Line
  | [] => []
  | list :: lists =>
    ⟨.trace, "scanning catalog entry", [("group_version", list.groupVersion)]⟩ ::
      match list.find? w.plural with
      | some served =>
        [⟨.debug, "resolved " ++ w.plural ++ " to " ++ served.groupVersion ++ "." ++ served.kind,
          []⟩]
      | none => searchLog w lists

end Catalog

end WorkloadScaling
