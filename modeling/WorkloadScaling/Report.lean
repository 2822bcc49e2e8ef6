import WorkloadScaling.Client
import WorkloadScaling.Json.Printer
import WorkloadScaling.Json.Record

/-!
# Reports

The three forms in which sizes, targets and patches are shown.
-/
namespace WorkloadScaling

namespace Report

inductive Format where
  | text
  | json
  | indentedJson
  deriving DecidableEq, Repr

namespace Format

def vocabulary : List (String × Format) :=
  [("text", text), ("table", text), ("json", json), ("json-pretty", indentedJson),
    ("jsonpretty", indentedJson)]

def ofName (s : String) : Except String Format :=
  Text.keyword ("Unknown output format: " ++ ·) vocabulary s

end Format

def layout : Format → Json.Layout
  | .indentedJson => .indented
  | .text | .json => .compact

end Report

namespace ClusterSize

/-- The document of a size; the nodes come first. -/
def toJson (size : ClusterSize) : Json :=
  .object [("nodes", .integer size.nodes), ("cores", .integer size.cores)]

def ofText? (s : String) : Option ClusterSize := do
  match ← Json.record? ["nodes", "cores"] (← Json.parse? s) with
  | [some nodes, some cores] =>
    some ⟨← Json.natural? (Nat.pow 2 64) nodes, ← Json.natural? (Nat.pow 2 64) cores⟩
  | _ => none

def report (format : Report.Format) (size : ClusterSize) : String :=
  match format with
  | .text => "nodes: " ++ toString size.nodes ++ "\ncores: " ++ toString size.cores
  | format => size.toJson.text (Report.layout format)

end ClusterSize

namespace Target

def toJson (t : Target) : Json :=
  .object [("groupVersion", .string t.groupVersion), ("kind", .string t.kind),
    ("name", .string t.name), ("namespace", .string t.nspace)]

def report (format : Report.Format) (t : Target) : String :=
  match format with
  | .text => "kind:         " ++ t.kind ++ "\ngroupVersion: " ++ t.groupVersion ++
      "\nname:         " ++ t.name ++ "\nnamespace:    " ++ t.nspace
  | format => t.toJson.text (Report.layout format)

end Target

/-- A patch is a document, so its text form is indented JSON. -/
def Report.patch (format : Report.Format) (document : Json) : String :=
  match format with
  | .json => document.compact
  | .text | .indentedJson => document.indented

end WorkloadScaling
