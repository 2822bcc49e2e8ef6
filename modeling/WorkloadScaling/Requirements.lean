import WorkloadScaling.Document

/-!
# Resource requirements

What a container asks for: limits and requests by resource name, and claims. An absent part is
told from an empty one, and quantities are kept as they are written.
-/
namespace WorkloadScaling

structure Requirements where
  claims : Option (List String) := none
  limits : Option (NameMap String) := none
  requests : Option (NameMap String) := none
  deriving DecidableEq, Repr

abbrev Resources := NameMap Requirements

namespace Requirements

open Document in
/-- The name of a claim; a claim without one has the empty name. -/
def claim? {δ : Type} [Document δ] (d : δ) : Option String := do
  let entries ← entries? d
  entries.foldlM (fun name (key, value) =>
    if key = "name" then (optional? text? value).map (·.getD "") else some name) ""

open Document in
/-- Reads requirements. Unknown keys are passed over; of a repeated key the last one counts. -/
def ofDocument? {δ : Type} [Document δ] (d : δ) : Option Requirements := do
  let entries ← entries? d
  entries.foldlM (fun r (key, value) =>
    match key with
    | "claims" => (optional? (list? claim?) value).map fun v => { r with claims := v }
    | "limits" => (optional? (map? text?) value).map fun v => { r with limits := v }
    | "requests" => (optional? (map? text?) value).map fun v => { r with requests := v }
    | _ => some r) {}

def quantitiesToJson (m : NameMap String) : Json :=
  .object (m.entries.map fun (name, quantity) => (name, .string quantity))

def claimToJson (name : String) : Json := .object [("name", .string name)]

def toJson (r : Requirements) : Json :=
  .ofMembers [
    ("claims", r.claims.map fun names => .array (names.map claimToJson)),
    ("limits", r.limits.map quantitiesToJson),
    ("requests", r.requests.map quantitiesToJson)]

end Requirements

namespace Resources

def ofDocument? {δ : Type} [Document δ] (d : δ) : Option Resources :=
  Document.map? Requirements.ofDocument? d

def toJson (r : Resources) : Json :=
  .object (r.entries.map fun (name, requirements) => (name, requirements.toJson))

end Resources

end WorkloadScaling
