/-!
# Invocations

What a command line can ask for, the options by which it asks, and the ways in which it can be
refused.
-/
namespace WorkloadScaling

namespace CommandLine

inductive Command where
  | clusterSize (format : String)
  | update (resources : String) (dryRun : Bool)
  | target (format : String)
  | env
  deriving DecidableEq, Repr

structure Invocation where
  command : Command
  nspace : Option String
  target : Option String
  kubeconfig : Option String
  verbosity : Nat
  deriving DecidableEq, Repr

/-- Where options are read: before the command, or after it. -/
inductive Level where
  | top
  | clusterSize
  | update
  | target
  | env
  deriving DecidableEq, Repr

inductive Topic where
  | level (l : Level)
  | help
  deriving DecidableEq, Repr

/-- Why there is no invocation. Asking for help or for the version is one of the reasons. -/
inductive Refusal where
  | help (topic : Topic)
  | version
  | nothingAsked
  | missingCommand
  | unknownCommand
  | unknownArgument
  | missingArgument
  | invalidValue
  | unexpectedValue
  | repeated
  deriving DecidableEq, Repr

inductive Setting where
  | nspace
  | target
  | kubeconfig
  | format
  | resources
  deriving DecidableEq, Repr

inductive Switch where
  | verbose
  | dryRun
  | help
  | version
  deriving DecidableEq, Repr

inductive Choice where
  | setting (s : Setting)
  | switch (s : Switch)
  deriving DecidableEq, Repr

/-- Paths must not be empty; names and texts may be. -/
def Setting.isPath : Setting → Bool
  | kubeconfig | resources => true
  | nspace | target | format => false

namespace Level

def ofCommandName? : String → Option Level
  | "cluster-size" => some clusterSize
  | "update" => some update
  | "target" => some target
  | "env" => some env
  | _ => none

def common : List (String × Option Char × Choice) :=
  [("namespace", some 'n', .setting .nspace), ("target", some 't', .setting .target),
    ("kubeconfig", none, .setting .kubeconfig), ("verbose", some 'v', .switch .verbose),
    ("help", some 'h', .switch .help)]

def own : Level → List (String × Option Char × Choice)
  | top => [("version", some 'V', .switch .version)]
  | clusterSize | target => [("format", some 'f', .setting .format)]
  | update => [("resources", some 'r', .setting .resources), ("dry-run", none, .switch .dryRun)]
  | env => []

def long? (level : Level) (name : List Char) : Option Choice :=
  ((level.own ++ common).find? fun o => o.1.toList == name).map fun o => o.2.2

def short? (level : Level) (c : Char) : Option Choice :=
  ((level.own ++ common).find? fun o => o.2.1 == some c).map fun o => o.2.2

end Level

end CommandLine

end WorkloadScaling
