import WorkloadScaling.Json.Parser
import WorkloadScaling.Requirements
import WorkloadScaling.Text.Quoted
import WorkloadScaling.Yaml.Reach

/-!
# Resources files

Files that list the requirements of containers by name. The name of the file decides whether it
is read as YAML or as JSON, and a file must list a container and name each one.
-/
namespace WorkloadScaling.ResourcesFile

inductive Notation where
  | yaml
  | json
  deriving DecidableEq, Repr

inductive Failure where
  | unreadable
  | malformed (n : Notation)
  | empty
  | badName (name : String)
  deriving DecidableEq, Repr

def Notation.name : Notation → String
  | yaml => "YAML"
  | json => "JSON"

def Failure.message (path : String) : Failure → String
  | unreadable => "Failed to read resources file: " ++ path
  | malformed n => "Failed to parse " ++ n.name ++ " resources: " ++ path
  | empty => "No containers listed in " ++ path
  | badName name => "Invalid container name " ++ Text.quoted name ++ " in " ++ path

/-- The last part of a path: slashes at its end and parts that are a dot do not count. -/
def fileName (path : String) : List Char :=
  let parts := path.toList.splitOn '/'
  (((parts.filter (· ≠ [])).reverse.dropWhile (· = ['.'])).head?).getD []

/-- What follows the last dot of a name, unless the name begins with it or is two dots. -/
def extension? (name : List Char) : Option (List Char) :=
  if name = ['.', '.'] then none
  else
    let reversed := name.reverse
    match reversed.dropWhile (· ≠ '.') with
    | _ :: _ :: _ => some (reversed.takeWhile (· ≠ '.')).reverse
    | _ => none

def notationOf (path : String) : Notation :=
  match extension? (fileName path) with
  | some e => if e = "yaml".toList ∨ e = "yml".toList then .yaml else .json
  | none => .json

def reach : Yaml.Reach :=
  .entries (.fields [("claims", .items (.fields [("name", .leaf)])), ("limits", .entries .leaf),
    ("requests", .entries .leaf)])

def resources? (n : Notation) (text : String) : Option Resources :=
  match n with
  | .yaml => (Yaml.tree? text).bind fun tree =>
    if tree.isWithinReach reach then Resources.ofDocument? tree.view else none
  | .json => (Json.parse? text).bind Resources.ofDocument?

/-- Refuses a list without containers, or with one that has no name. -/
def check (resources : Resources) : Except Failure Resources :=
  if resources.isEmpty then .error .empty
  else match resources.names.find? (· = "") with
    | some name => .error (.badName name)
    | none => .ok resources

/-- The resources in a file with this path and content; without content there is no file. -/
def load (path : String) (content : Option ByteArray) : Except Failure Resources :=
  match content.bind String.fromUTF8? with
  | none => .error .unreadable
  | some text =>
    match resources? (notationOf path) text with
    | none => .error (.malformed (notationOf path))
    | some resources => check resources

end WorkloadScaling.ResourcesFile
