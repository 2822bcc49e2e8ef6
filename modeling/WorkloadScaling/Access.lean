import WorkloadScaling.Failure
import WorkloadScaling.Http.Endpoint
import WorkloadScaling.Http.IPv6
import WorkloadScaling.Kubeconfig.Basic
import WorkloadScaling.Schema.Timestamp
import WorkloadScaling.Surroundings
import WorkloadScaling.Text.Armor

/-!
# Access to a cluster

Where the server of a cluster is, what it is trusted by and who the client is, as a kubeconfig
file tells it, or as a process inside the cluster finds it. Nothing is sent to find out.
-/
namespace WorkloadScaling

structure Access where
  server : String
  authorities : Option (List Text.ArmorBlock) := none
  proxy : Option String := none
  user : Kubeconfig.User := {}
  deriving DecidableEq, Repr

namespace Kubeconfig

/-- What a name stands for. A name that is told twice means the first. -/
def lookup? {α : Type} (entries : List (Named α)) (name : String) : Option α :=
  (entries.find? fun entry => entry.1 == name).bind Prod.snd

def current (config : Kubeconfig) : Except KubeconfigFailure (Cluster × User) := do
  let some name := config.currentContext | throw .noCurrentContext
  let some context := lookup? config.contexts name | throw .noContext
  let some cluster := lookup? config.clusters context.cluster | throw .noCluster
  let some user := lookup? config.users context.user | throw .noUser
  pure (cluster, user)

/-- Bytes given in base64, or else by a file. Nothing comes of data that do not read, or of a
file that is not there. -/
def bytesOf? (files : Files) (path : String) (data file : Option String) : Option (List UInt8) :=
  match data with
  | some data => Text.base64Bytes? data.toList
  | none => file.bind fun file => (files (Files.beside path file)).map ByteArray.toList

def Cluster.authorityBytes (files : Files) (path : String) (c : Cluster) :
    Except KubeconfigFailure (Option (List UInt8)) :=
  if c.authorityData.isNone && c.authority.isNone then .ok none
  else match bytesOf? files path c.authorityData c.authority with
    | some bytes => .ok (some bytes)
    | none => .error .authority

def certificateLabel : String := "CERTIFICATE"

def Cluster.authorities (files : Files) (path : String) (c : Cluster) :
    Except KubeconfigFailure (Option (List Text.ArmorBlock)) := do
  match ← c.authorityBytes files path with
  | none => pure none
  | some bytes =>
    match Text.armorBlocks? bytes with
    | some blocks => pure (some (blocks.filter fun block => block.label == certificateLabel))
    | none => throw .certificates

def Cluster.usableProxy (c : Cluster) : Except KubeconfigFailure (Option String) :=
  match c.proxy.filter (· ≠ "") with
  | none => .ok none
  | some proxy => if Http.isEndpoint proxy then .ok (some proxy) else .error .proxyAddress

/-- Access to a cluster for a user. A program that is told about the cluster is told the
authorities before anything else is looked at. -/
def access (files : Files) (path : String) (cluster : Cluster) (user : User) :
    Except KubeconfigFailure Access := do
  if user.helper.any Helper.knowsCluster then
    let _ ← cluster.authorityBytes files path
  let some server := cluster.server | throw .noServer
  if !Http.isEndpoint server then throw .serverAddress
  let authorities ← cluster.authorities files path
  pure { server, authorities, proxy := ← cluster.usableProxy, user }

def read (files : Files) (path : String) : Except KubeconfigFailure Kubeconfig :=
  match files.text? path with
  | none => .error .unreadable
  | some text => ofText text

inductive Credential where
  | nothing
  | password
  | token (text : String)
  | renewed
  deriving DecidableEq, Repr

def minimalValidity : Int := 60

def Provider.stored? (now : Timestamp.Instant) (p : Provider) : Option Credential := do
  let _ ← p.config.find? "access-token"
  let expiry ← Timestamp.ofText? (← p.config.find? "expiry")
  if now + minimalValidity < expiry then some .renewed else none

/-- What the providers that are known have at hand. No program is run to get more. -/
def Provider.credential? (now : Timestamp.Instant) (p : Provider) : Option Credential :=
  let lasting := (p.config.find? "id-token").map Credential.token
  match p.name with
  | "oidc" => lasting
  | "gcp" => lasting <|> p.stored? now
  | _ => none

def User.credential? (now : Timestamp.Instant) (files : Files) (path : String) (u : User) :
    Option Credential :=
  match u.provider with
  | some provider => provider.credential? now
  | none =>
    if u.username.isSome && u.password.isSome then some .password
    else match u.token, u.tokenFile with
      | some token, _ => some (.token token)
      | none, some file => (files.text? (Files.beside path file)).map fun _ => .renewed
      | none, none => if u.helper.isNone then some .nothing else none

def isHeaderChar (c : Char) : Bool := c == '\t' || (decide (0x20 ≤ c.toNat) && c != '\x7f')

def isHeaderText (s : String) : Bool := s.toList.all isHeaderChar

def Credential.fitsHeader : Credential → Bool
  | token text => isHeaderText text
  | _ => true

/-- Whether bytes can be a certificate: a sequence of the distinguished encoding, which is longer
than a length of one byte tells. -/
def mayBeCertificate (bytes : List UInt8) : Bool :=
  match bytes with
  | 0x30 :: length :: _ => decide (0x80 < length)
  | _ => false

def keyLabels : List String := ["PRIVATE KEY", "RSA PRIVATE KEY", "EC PRIVATE KEY"]

/-- Whether a user who has both a key and a certificate can show them. A user who lacks one of
them shows nothing. -/
def User.canShowIdentity (files : Files) (path : String) (u : User) : Bool :=
  match bytesOf? files path u.certificateData u.certificate, bytesOf? files path u.keyData u.key with
  | some certificate, some key =>
    match Text.armorBlocks? (key ++ [0xA] ++ certificate) with
    | some blocks => blocks.any (fun b => keyLabels.contains b.label) &&
        blocks.any fun b => b.label == certificateLabel && mayBeCertificate b.contents
    | none => false
  | _, _ => true

end Kubeconfig

namespace InCluster

def hostVariable : String := "KUBERNETES_SERVICE_HOST"

def portVariable : String := "KUBERNETES_SERVICE_PORT"

def accountDirectory : String := "/var/run/secrets/kubernetes.io/serviceaccount/"

def namespaceFile : String := accountDirectory ++ "namespace"

def authorityFile : String := accountDirectory ++ "ca.crt"

def tokenFile : String := accountDirectory ++ "token"

def fileNames : List String := [namespaceFile, authorityFile, tokenFile]

def port? (s : String) : Option Nat :=
  let digits := match s.toList with
    | '+' :: digits => digits
    | digits => digits
  (Text.natural? digits).filter (· < Nat.pow 2 16)

def server (host : String) (port : Nat) : String :=
  let host := if Http.isIPv6 host.toList then "[" ++ host ++ "]" else host
  "https://" ++ host ++ (if port = 443 then "" else ":" ++ toString port)

def access (env : Environment) (files : Files) : Except InClusterFailure Access := do
  let some host := env.given? hostVariable | throw .variable
  let some portText := env.given? portVariable | throw .variable
  let some port := port? portText | throw .port
  let server := server host port
  if !Http.isEndpoint server then throw .address
  if (files.text? namespaceFile).isNone then throw .defaultNamespace
  let some bundle := files authorityFile | throw .certificateBundle
  let some blocks := Text.armorBlocks? bundle.toList | throw .certificates
  let authorities := some (blocks.filter fun block => block.label == Kubeconfig.certificateLabel)
  pure { server, authorities, user := { tokenFile := some InCluster.tokenFile } }

end InCluster

namespace Access

inductive Refusal where
  | failed (cause : Failure)
  /-- A token that every request should carry fits into none. Nothing is told of it: the program
  breaks off. -/
  | brokenOff
  deriving DecidableEq, Repr

/-- What stands against a connection, in the order in which it is met: credentials, encryption,
and the names that the user acts for. -/
def check (now : Timestamp.Instant) (files : Files) (path : String) (a : Access) :
    Except Refusal Unit := do
  let failed := fun (cause : RemoteFailure) => Refusal.failed (.connect cause)
  let some credential := a.user.credential? now files path | throw (failed .credentials)
  if !credential.fitsHeader then throw .brokenOff
  if !((a.authorities.getD []).all fun block => Kubeconfig.mayBeCertificate block.contents) ||
      !a.user.canShowIdentity files path then throw (failed .encryption)
  if !a.user.onBehalfOf.all Kubeconfig.isHeaderText then throw (failed .badHeader)

def told (env : Environment) (files : Files) (kubeconfig : Option String) :
    Except Failure Access :=
  match kubeconfig with
  | some path => Except.mapError (Failure.kubeconfig path) do
    let (cluster, user) ← (← Kubeconfig.read files path).current
    Kubeconfig.access files path cluster user
  | none => Except.mapError Failure.inCluster (InCluster.access env files)

def find (now : Timestamp.Instant) (env : Environment) (files : Files)
    (kubeconfig : Option String) : Except Refusal Access := do
  let access ← Except.mapError Refusal.failed (told env files kubeconfig)
  access.check now files (kubeconfig.getD "")
  pure access

def filesBeside (path : String) (config : Kubeconfig) : List String :=
  let clusters := config.clusters.filterMap Prod.snd
  let users := config.users.filterMap Prod.snd
  (clusters.filterMap Kubeconfig.Cluster.authority ++
    users.flatMap fun u => [u.tokenFile, u.certificate, u.key].filterMap id).map
      (Files.beside path)

end Access

end WorkloadScaling
