import WorkloadScaling.ControlPlane
import WorkloadScaling.Http.Message
import WorkloadScaling.Json.Printer
import WorkloadScaling.Json.Record
import WorkloadScaling.Schema.Workload

/-!
# The control plane of a cluster over HTTP

Each call is one or more requests to the cluster's server. Names are put into addresses as they
are; a request without a valid address is not sent.
-/
namespace WorkloadScaling

structure Link (τ : Type) where
  server : τ
  requests : List Http.Request := []

namespace ControlPlane

open Http

variable {τ : Type}

def refusal? (body : String) : Option Refusal := do
  match ← Json.record? ["status", "message", "reason", "code"] (← Json.parse? body) with
  | [some status, message, reason, some code] =>
    some {
      status := ← Json.string? status
      message := ← Json.string? (message.getD (.string ""))
      reason := ← Json.string? (reason.getD (.string ""))
      code := ← Json.natural? (Nat.pow 2 16) code }
  | _ => none

def unexplained (status : Nat) (body : String) : Refusal where
  status := statusText status
  message := Text.quoted body
  reason := "Failed to parse error data"
  code := status

def interpret {α : Type} (read? : Json → Option α) : Outcome → Except RemoteFailure α
  | .failed message => .error (.unreachable message)
  | .answer status bytes =>
    match String.fromUTF8? bytes with
    | none => .error .notText
    | some body =>
      if isErrorStatus status then
        .error (.refused ((refusal? body).getD (unexplained status body)))
      else
        match (Json.parse? body).bind read? with
        | some a => .ok a
        | none => .error .undecodable

def send (serve : Server τ) (request : Request) : Run (Link τ) Outcome :=
  Run.remote fun link =>
    let (outcome, server) := serve request link.server
    (outcome, ⟨server, link.requests ++ [request]⟩)

/-- Gets a document. Without a valid address it fails as told. -/
def get {α : Type} (serve : Server τ) (unaddressed : RemoteFailure) (address : String)
    (read? : Json → Option α) : ExceptT RemoteFailure (Run (Link τ)) α :=
  match Address.ofText? address with
  | none => throw unaddressed
  | some address => ExceptT.mk (interpret read? <$> send serve { method := .get, address })

def coreVersions? (v : Json) : Option (List String) :=
  if Shape.coreVersions.accepts v then some ((v.itemsAt "versions").filterMap Json.string?)
  else none

/-- The version that discovery asks a group for: the preferred one, else the first. -/
def groupVersion? (group : Json) : Option String :=
  let version := match group.member? "preferredVersion" with
    | some v => some v
    | none => (group.itemsAt "versions").head?
  version.map fun v => (v.textAt? "groupVersion").getD ""

def groupVersions? (v : Json) : Option (List (Option String)) :=
  if Shape.groupList.accepts v then some ((v.itemsAt "groups").map groupVersion?) else none

def getResources (serve : Server τ) (address : String) :
    ExceptT RemoteFailure (Run (Link τ)) ResourceList :=
  ResourceList.namespacedOnly <$> get serve .unaddressable address ResourceList.ofJson?

def getCore (serve : Server τ) : ExceptT RemoteFailure (Run (Link τ)) Catalog := do
  match ← get serve .unaddressable "/api" coreVersions? with
  | [] => pure []
  | version :: _ => pure [← getResources serve ("/api/" ++ version)]

def getGroup (serve : Server τ) : Option String → ExceptT RemoteFailure (Run (Link τ)) Catalog
  | none => pure []
  | some groupVersion => do
    ExceptT.lift (Run.log .debug "listing group resources" [("group_version", groupVersion)])
    pure [← getResources serve ("/apis/" ++ groupVersion)]

/-- The catalog of a cluster: the core group, then the named groups in the order listed. -/
def getCatalog (serve : Server τ) : ExceptT RemoteFailure (Run (Link τ)) Catalog := do
  let core ← getCore serve
  let groups ← get serve .unaddressable "/apis" groupVersions?
  let named ← groups.mapM (getGroup serve)
  pure (core ++ named.flatten)

/-- Reads a list of nodes, which has metadata and items. Null stands for no items. -/
def nodeList? (v : Json) : Option (List Node) := do
  match ← Json.record? ["metadata", "items"] v with
  | [some metadata, some items] =>
    if Shape.listMetadata.admits 1 metadata then
      match items with
      | .null => some []
      | items => Node.listOfJson? 1 items
    else none
  | _ => none

def patchAddress (w : Workload) (nspace name : String) : String :=
  "/apis/apps/v1/namespaces/" ++ nspace ++ "/" ++ w.plural ++ "/" ++ name ++ "?"

def patchRequest (address : Address) (document : Json) : Request where
  method := .patch
  address := address
  accept := some "application/json"
  contentType := some "application/strategic-merge-patch+json"
  body := document.compact

/-- The answer to a patch is the workload as it is now. -/
def patched? (w : Workload) (v : Json) : Option Unit :=
  if (Shape.workload w).accepts v then some () else none

def sendPatch (serve : Server τ) (w : Workload) (nspace name : String) (document : Json) :
    ExceptT RemoteFailure (Run (Link τ)) Unit :=
  match Address.ofText? (patchAddress w nspace name) with
  | none => throw .unsendable
  | some address =>
    ExceptT.mk (interpret (patched? w) <$> send serve (patchRequest address document))

def ofServer (serve : Server τ) : ControlPlane (Link τ) where
  catalog := (getCatalog serve).run
  nodes := (get serve .unsendable "/api/v1/nodes?" nodeList?).run
  patch w nspace name document := (sendPatch serve w nspace name document).run

end ControlPlane

end WorkloadScaling
