import WorkloadScaling.Json.Record
import WorkloadScaling.Surroundings

/-!
# Settings

What a client is built from: the namespace and the target, and the kubeconfig file unless the
client runs inside the cluster. A value given outright wins over the environment, and the
environment over the default.
-/
namespace WorkloadScaling

structure EnvironmentSettings where
  nspace : Option String := none
  target : Option String := none
  kubeconfig : Option String := none
  logLevel : Option String := none
  deriving DecidableEq, Repr

def EnvironmentSettings.load (env : Environment) : EnvironmentSettings where
  nspace := env.text? (Environment.settingName "NAMESPACE")
  target := env.text? (Environment.settingName "TARGET")
  kubeconfig := env.text? (Environment.settingName "KUBECONFIG")
  logLevel := env.text? (Environment.settingName "LOG_LEVEL")

structure Settings where
  nspace : String
  target : String
  kubeconfig : Option String
  deriving DecidableEq, Repr

namespace Settings

inductive Invalid where
  | emptyNamespace
  | noTarget
  deriving DecidableEq, Repr

def Invalid.message : Invalid → String
  | emptyNamespace => "Namespace must not be empty"
  | noTarget => "Target must be set (e.g. deployment/my-app)"

def defaultNamespace : String := "default"

def invalid? (s : Settings) : Option Invalid :=
  if s.nspace = "" then some .emptyNamespace
  else if s.target = "" then some .noTarget
  else none

def validate (s : Settings) : Except Invalid Settings :=
  match s.invalid? with
  | some e => .error e
  | none => .ok s

/-- The values in force, before they are validated. -/
def choose (env : EnvironmentSettings) (nspace target kubeconfig : Option String) : Settings where
  nspace := (nspace <|> env.nspace).getD defaultNamespace
  target := (target <|> env.target).getD ""
  kubeconfig := kubeconfig <|> env.kubeconfig

def resolve (env : EnvironmentSettings) (nspace target kubeconfig : Option String) :
    Except Invalid Settings :=
  (choose env nspace target kubeconfig).validate

/-- Reads settings from a JSON text; the kubeconfig may be missing or null. -/
def ofText? (s : String) : Option Settings := do
  match ← Json.record? ["namespace", "target", "kubeconfig"] (← Json.parse? s) with
  | [some nspace, some target, kubeconfig] =>
    let kubeconfig ← match kubeconfig with
      | none | some .null => some none
      | some v => (Json.string? v).map some
    some ⟨← Json.string? nspace, ← Json.string? target, kubeconfig⟩
  | _ => none

end Settings

end WorkloadScaling
