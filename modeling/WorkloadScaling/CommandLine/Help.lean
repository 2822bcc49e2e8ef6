import WorkloadScaling.CommandLine.Basic

/-!
# Help

The texts that tell what can be asked for: usage, commands and options, one line each, and the
variables that settings are taken from.
-/
namespace WorkloadScaling.CommandLine

def programName : String := "k8s-scale-client"

def versionLine : String := programName ++ " 0.1.0"

abbrev Entry := String × String

def namespaceEntry : Entry :=
  ("-n, --namespace <NAMESPACE>", "Namespace of the scaled workload")

def targetEntry : Entry :=
  ("-t, --target <TARGET>",
    "Scaled workload as <kind>/<name> (deployment, daemonset or replicaset)")

def kubeconfigEntry : Entry :=
  ("    --kubeconfig <KUBECONFIG>",
    "Path to kubeconfig; in-cluster credentials are used when omitted")

def verboseEntry : Entry := ("-v, --verbose...", "Increase log verbosity (-v debug, -vv trace)")

def formatEntry : Entry :=
  ("-f, --format <FORMAT>", "Output format (text, json, json-pretty) [default: text]")

def resourcesEntry : Entry :=
  ("-r, --resources <RESOURCES>",
    "YAML or JSON file mapping container name to resource requirements")

def dryRunEntry : Entry := ("    --dry-run", "Print the patch instead of applying it")

def helpEntry : Entry := ("-h, --help", "Print help")

def versionEntry : Entry := ("-V, --version", "Print version")

def helpAbout : String := "Print this message or the help of the given subcommand(s)"

def commandEntries : List Entry :=
  [("cluster-size", "Show node count and total CPU cores"),
    ("update", "Update container resources of the target"),
    ("target", "Show the resolved target"),
    ("env", "Describe supported environment variables"),
    ("help", helpAbout)]

namespace Level

/-- The options of a level in the order in which help lists them, its own first. -/
def entries : Level → List Entry
  | top => [namespaceEntry, targetEntry, kubeconfigEntry, verboseEntry, helpEntry, versionEntry]
  | clusterSize | target => [formatEntry, namespaceEntry, targetEntry, kubeconfigEntry,
      verboseEntry, helpEntry]
  | update => [resourcesEntry, dryRunEntry, namespaceEntry, targetEntry, kubeconfigEntry,
      verboseEntry, helpEntry]
  | env => [namespaceEntry, targetEntry, kubeconfigEntry, verboseEntry, helpEntry]

def usage : Level → String
  | top => "[OPTIONS] <COMMAND>"
  | clusterSize => "cluster-size [OPTIONS]"
  | update => "update [OPTIONS] --resources <RESOURCES>"
  | target => "target [OPTIONS]"
  | env => "env [OPTIONS]"

def commandName : Level → String
  | top => ""
  | clusterSize => "cluster-size"
  | update => "update"
  | target => "target"
  | env => "env"

def about (level : Level) : String :=
  (commandEntries.lookup level.commandName).getD
    "Read cluster size and update workload container resources"

end Level

/-- Lines of two columns; the second begins two blanks behind the longest name. -/
def columns (entries : List Entry) : List String :=
  let width := entries.foldl (fun w (name, _) => max w name.length) 0
  entries.map fun (name, text) =>
    "  " ++ name ++ String.ofList (List.replicate (width + 2 - name.length) ' ') ++ text

def lines (ls : List String) : String := String.join (ls.map (· ++ "\n"))

def usageLine (rest : String) : String := "Usage: " ++ programName ++ " " ++ rest

namespace Topic

def text : Topic → String
  | level .top => lines ([Level.top.about, "", usageLine Level.top.usage, "", "Commands:"] ++
      columns commandEntries ++ ["", "Options:"] ++ columns Level.top.entries)
  | level l => lines ([l.about, "", usageLine l.usage, "", "Options:"] ++ columns l.entries)
  | help => lines ([helpAbout, "", usageLine "help [COMMAND]...", "", "Arguments:"] ++
      columns [("[COMMAND]...", "Print help for the subcommand(s)")])

end Topic

def environmentHelp : String :=
  lines [
    "Environment Variables:",
    "",
    "  SCALE_CLIENT_NAMESPACE   Namespace of the scaled workload",
    "  SCALE_CLIENT_TARGET      Scaled workload as <kind>/<name>",
    "  SCALE_CLIENT_KUBECONFIG  Path to kubeconfig (in-cluster config when unset)",
    "  SCALE_CLIENT_LOG_LEVEL   Log level (trace, debug, info, warn, error)",
    "",
    "Example:",
    "  export SCALE_CLIENT_TARGET=deployment/coredns",
    "  export SCALE_CLIENT_NAMESPACE=kube-system",
    "  k8s-scale-client cluster-size"]

end WorkloadScaling.CommandLine
