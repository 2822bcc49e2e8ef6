import WorkloadScaling.Kubeconfig.Failure
import WorkloadScaling.Yaml.Value

/-!
# Kubeconfigs

What a kubeconfig file tells: clusters, users, and contexts that pair one with the other, by
name. All fields must read, also those that no connection needs.
-/
namespace WorkloadScaling

namespace Kubeconfig

structure Cluster where
  server : Option String := none
  authority : Option String := none
  authorityData : Option String := none
  proxy : Option String := none
  deriving DecidableEq, Repr

structure Provider where
  name : String
  config : NameMap String := .empty
  deriving DecidableEq, Repr

structure Helper where
  /-- Whether the program is told about the cluster. -/
  knowsCluster : Bool := false
  deriving DecidableEq, Repr

structure User where
  username : Option String := none
  password : Option String := none
  token : Option String := none
  tokenFile : Option String := none
  certificate : Option String := none
  certificateData : Option String := none
  key : Option String := none
  keyData : Option String := none
  /-- The user and the groups that the client acts for. -/
  onBehalfOf : List String := []
  provider : Option Provider := none
  helper : Option Helper := none
  deriving DecidableEq, Repr

structure Context where
  cluster : String
  user : String
  nspace : Option String := none
  deriving DecidableEq, Repr

abbrev Named (α : Type) := String × Option α

end Kubeconfig

open Kubeconfig in
structure Kubeconfig where
  kind : Option String := none
  version : Option String := none
  currentContext : Option String := none
  clusters : List (Named Cluster) := []
  users : List (Named User) := []
  contexts : List (Named Context) := []
  deriving DecidableEq, Repr

namespace Kubeconfig

open Document Yaml

abbrev Fields := List (String × Value)

/-- Data for other programs: a name and any value that can be written as JSON. -/
def extension? (v : Value) : Option Unit := do
  let fields ← entries? v
  let _ ← required? text? fields "name"
  required? (fun v => if v.isPortable then some () else none) fields "extension"

def extensions? (fields : Fields) : Option Unit :=
  (field? (list? extension?) fields "extensions").map fun _ => ()

/-- Passes over fields that must be texts. -/
def texts? (fields : Fields) (names : List String) : Option Unit :=
  (names.mapM (field? text? fields)).map fun _ => ()

def flag? (fields : Fields) (name : String) : Option (Option Bool) :=
  field? Value.toBool? fields name

def named? {α : Type} (read? : Value → Option α) (key : String) (v : Value) :
    Option (Named α) := do
  let fields ← entries? v
  some (← required? text? fields "name", ← field? read? fields key)

def Cluster.ofValue? (v : Value) : Option Cluster := do
  let fields ← entries? v
  let _ ← flag? fields "insecure-skip-tls-verify"
  texts? fields ["tls-server-name"]
  extensions? fields
  some {
    server := ← field? text? fields "server"
    authority := ← field? text? fields "certificate-authority"
    authorityData := ← field? text? fields "certificate-authority-data"
    proxy := ← field? text? fields "proxy-url" }

def Provider.ofValue? (v : Value) : Option Provider := do
  let fields ← entries? v
  let config ← match fields.filter fun f => f.1 == "config" with
    | [] => some .empty
    | _ => required? (map? text?) fields "config"
  some ⟨← required? text? fields "name", config⟩

/-- When a program may ask the user: a word, or a tag with nothing under it. -/
def interaction? (v : Value) : Option Unit :=
  let word := match v with
    | .text word | .tagged word .null => some word
    | _ => none
  match word with
  | some "Never" | some "IfAvailable" | some "Always" => some ()
  | _ => none

def Helper.ofValue? (v : Value) : Option Helper := do
  let fields ← entries? v
  texts? fields ["apiVersion", "command"]
  let _ ← field? (list? text?) fields "args"
  let _ ← field? (list? (map? text?)) fields "env"
  let _ ← field? interaction? fields "interactiveMode"
  let knowsCluster ← match fields.filter fun f => f.1 == "provideClusterInfo" with
    | [] => some false
    | _ => required? Value.toBool? fields "provideClusterInfo"
  some { knowsCluster }

def User.ofValue? (v : Value) : Option User := do
  let fields ← entries? v
  let user ← field? text? fields "as"
  let groups ← field? (list? text?) fields "as-groups"
  some {
    username := ← field? text? fields "username"
    password := ← field? text? fields "password"
    token := ← field? text? fields "token"
    tokenFile := ← field? text? fields "tokenFile"
    certificate := ← field? text? fields "client-certificate"
    certificateData := ← field? text? fields "client-certificate-data"
    key := ← field? text? fields "client-key"
    keyData := ← field? text? fields "client-key-data"
    onBehalfOf := user.toList ++ groups.getD []
    provider := ← field? Provider.ofValue? fields "auth-provider"
    helper := ← field? Helper.ofValue? fields "exec" }

def Context.ofValue? (v : Value) : Option Context := do
  let fields ← entries? v
  extensions? fields
  some {
    cluster := ← required? text? fields "cluster"
    user := ← required? text? fields "user"
    nspace := ← field? text? fields "namespace" }

def preferences? (v : Value) : Option Unit := do
  let fields ← entries? v
  let _ ← flag? fields "colors"
  extensions? fields

def all? {α : Type} (read? : Value → Option α) (key : String) (fields : Fields)
    (name : String) : Option (List (Named α)) :=
  (field? (list? (named? read? key)) fields name).map (·.getD [])

def ofValue? (v : Value) : Option Kubeconfig := do
  let fields ← entries? v
  let _ ← field? preferences? fields "preferences"
  extensions? fields
  some {
    kind := ← field? text? fields "kind"
    version := ← field? text? fields "apiVersion"
    currentContext := ← field? text? fields "current-context"
    clusters := ← all? Cluster.ofValue? "cluster" fields "clusters"
    users := ← all? User.ofValue? "user" fields "users"
    contexts := ← all? Context.ofValue? "context" fields "contexts" }

def disagree (a b : Option String) : Bool := a.isSome && b.isSome && a != b

def addNamed {α : Type} (known more : List (Named α)) : List (Named α) :=
  known ++ more.filter fun entry => !(known.map Prod.fst).contains entry.1

/-- Adds a document to those before it, which win. -/
def merge (a b : Kubeconfig) : Except KubeconfigFailure Kubeconfig :=
  if disagree a.kind b.kind then .error .kindMismatch
  else if disagree a.version b.version then .error .versionMismatch
  else .ok {
    kind := a.kind <|> b.kind
    version := a.version <|> b.version
    currentContext := a.currentContext <|> b.currentContext
    clusters := addNamed a.clusters b.clusters
    users := addNamed a.users b.users
    contexts := addNamed a.contexts b.contexts }

/-- What all documents tell together. No documents tell nothing. -/
def mergeAll : List Kubeconfig → Except KubeconfigFailure Kubeconfig
  | [] => .ok {}
  | first :: rest => rest.foldlM merge first

def ofDocument : Option Tree → Except KubeconfigFailure Kubeconfig
  | none => .error .malformed
  | some tree =>
    match tree.value? with
    | none => .error .malformed
    | some v =>
      match ofValue? v with
      | none => .error .structureMismatch
      | some config => .ok config

def ofText (s : String) : Except KubeconfigFailure Kubeconfig := do
  mergeAll (← (trees s).mapM ofDocument)

end Kubeconfig

end WorkloadScaling
