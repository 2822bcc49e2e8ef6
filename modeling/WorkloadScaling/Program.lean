import WorkloadScaling.Access
import WorkloadScaling.CommandLine.Help
import WorkloadScaling.CommandLine.Parser
import WorkloadScaling.Report
import WorkloadScaling.ResourcesFile
import WorkloadScaling.Settings

/-!
# The program

A run of the command line: what it prints, what it logs and how it ends. Whatever the command,
the settings are looked at first, then the access to the cluster, then the target, and only then
what the command alone needs.
-/
namespace WorkloadScaling.Program

inductive Trouble where
  | settings (e : Settings.Invalid)
  | client (e : Failure)
  | size (e : Failure)
  | update (target : Target) (e : Failure)
  | resources (path : String) (e : ResourcesFile.Failure)
  | format (told : String)
  deriving DecidableEq, Repr

namespace Trouble

def message : Trouble → String
  | settings e => e.message
  | client _ => "Failed to create scaling client"
  | size _ => "Failed to read cluster size"
  | update target _ => "Failed to update resources of " ++ target.display
  | resources path e => e.message path
  | format told => told

def cause? : Trouble → Option Failure
  | client e | size e | update _ e => some e
  | settings _ | resources _ _ | format _ => none

end Trouble

inductive Ending where
  | done
  | failed (trouble : Trouble)
  | refused (refusal : CommandLine.Refusal)
  /-- The access to the cluster cannot be set up, and nothing is told of it. -/
  | brokenOff
  deriving DecidableEq, Repr

def Ending.exitCode : Ending → Nat
  | done => 0
  | failed _ => 1
  | refused _ => 2
  | brokenOff => 101

def Ending.ofRefusal : Access.Refusal → Ending
  | .failed e => failed (.client e)
  | .brokenOff => brokenOff

structure Result where
  ending : Ending
  output : String := ""
  log : List Log.Line := []
  deriving DecidableEq, Repr

def filterVariable : String := "RUST_LOG"

/-- The filter in force: a variable of its own wins over the command line, and that over the
setting. -/
def logFilter (env : Environment) (verbosity : Nat) (setting : Option String) : Log.Filter :=
  match (env.given? filterVariable).bind Log.Filter.ofText? with
  | some filter => filter
  | none =>
    .upTo (if 0 < verbosity then .ofVerbosity verbosity
      else (setting.bind fun s => (Log.Level.ofName s).toOption).getD .info)

variable {σ : Type}

abbrev Attempt (σ : Type) := ExceptT Ending (Run σ)

def call {α : Type} (context : Failure → Trouble) (act : Run σ (Except Failure α)) :
    Attempt σ α :=
  ExceptT.mk (Except.mapError (fun e => .failed (context e)) <$> act)

def formatOf (name : String) : Attempt σ Report.Format :=
  match Report.Format.ofName name with
  | .ok format => pure format
  | .error told => throw (.failed (.format told))

def line (s : String) : String := s ++ "\n"

/-- Reads the size of the cluster and shows it. The size is read before the format is looked
at. -/
def showSize (api : ControlPlane σ) (client : Client) (format : String) : Attempt σ String := do
  let size ← call .size (Prod.fst <$> client.readSize api)
  pure (line (size.report (← formatOf format)))

def showTarget (client : Client) (format : String) : Attempt σ String := do
  pure (line (client.target.report (← formatOf format)))

def update (files : Files) (api : ControlPlane σ) (client : Client) (path : String)
    (dryRun : Bool) : Attempt σ String := do
  match ResourcesFile.load path (files path) with
  | .error e => throw (.failed (.resources path e))
  | .ok resources =>
    if dryRun then pure (line (Report.patch .text (client.preview resources)))
    else
      call (.update client.target) (client.update api resources)
      ExceptT.lift (Run.log .info ("Updated " ++ toString resources.size ++ " container(s)") [])
      pure ""

def connect (now : Timestamp.Instant) (env : Environment) (files : Files)
    (api : Access → ControlPlane σ) (settings : Settings) :
    Attempt σ (ControlPlane σ × Client) := do
  match Access.find now env files settings.kubeconfig with
  | .error refusal => throw (.ofRefusal refusal)
  | .ok access =>
    let client ← call .client (Client.connect (api access) settings.target settings.nspace).run
    pure (api access, client)

def carryOut (files : Files) (command : CommandLine.Command) (api : ControlPlane σ)
    (client : Client) : Attempt σ String :=
  match command with
  | .clusterSize format => showSize api client format
  | .target format => showTarget client format
  | .update path dryRun => update files api client path dryRun
  | .env => pure CommandLine.environmentHelp

def perform (now : Timestamp.Instant) (env : Environment) (files : Files)
    (api : Access → ControlPlane σ) (invocation : CommandLine.Invocation) :
    Attempt σ String := do
  match invocation.command with
  | .env => pure CommandLine.environmentHelp
  | command =>
    match Settings.resolve (EnvironmentSettings.load env) invocation.nspace invocation.target
        invocation.kubeconfig with
    | .error e => throw (.failed (.settings e))
    | .ok settings =>
      let (api, client) ← connect now env files api settings
      carryOut files command api client

def refuse : CommandLine.Refusal → Result
  | .help topic => { ending := .done, output := topic.text }
  | .version => { ending := .done, output := line CommandLine.versionLine }
  | refusal => { ending := .refused refusal }

def run (now : Timestamp.Instant) (env : Environment) (files : Files)
    (api : Access → ControlPlane σ) (words : List String) (remote : σ) : Result × σ :=
  match CommandLine.parse words with
  | .error refusal => (refuse refusal, remote)
  | .ok invocation =>
    let (result, world) := (perform now env files api invocation).run ⟨remote, []⟩
    let filter := logFilter env invocation.verbosity (EnvironmentSettings.load env).logLevel
    let log := world.log.filter filter.passes
    match result with
    | .ok output => ({ ending := .done, output, log }, world.remote)
    | .error ending => ({ ending, log }, world.remote)

def variableNames : List String :=
  [Environment.settingName "NAMESPACE", Environment.settingName "TARGET",
    Environment.settingName "KUBECONFIG", Environment.settingName "LOG_LEVEL", filterVariable,
    InCluster.hostVariable, InCluster.portVariable]

/-- The files that a run may read, as far as those that are known tell. -/
def filesNamed (env : Environment) (known : Files) (words : List String) : List String :=
  match CommandLine.parse words with
  | .error _ => []
  | .ok invocation =>
    let settings := Settings.choose (EnvironmentSettings.load env) invocation.nspace
      invocation.target invocation.kubeconfig
    let access := match settings.kubeconfig with
      | none => InCluster.fileNames
      | some path =>
        path :: match Kubeconfig.read known path with
          | .ok config => Access.filesBeside path config
          | .error _ => []
    match invocation.command with
    | .update path _ => path :: access
    | _ => access

end WorkloadScaling.Program
