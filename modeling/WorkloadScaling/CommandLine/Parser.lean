import WorkloadScaling.CommandLine.Basic

/-!
# Reading a command line

Options stand before the command or after it, a command has one name, and no other word stands
alone. A value may follow its option as the next word, after an equals sign, or, for an option of
one letter, at once. A value that comes as the next word takes effect when the next option is
met, or at the end.
-/
namespace WorkloadScaling.CommandLine

structure Gathered where
  values : List (Setting × String) := []
  verbosity : Option Nat := none
  dryRun : Bool := false
  /-- An option that has not taken effect, with its value if that has been read. -/
  pending : Option (Setting × Option String) := none
  deriving DecidableEq, Repr

namespace Gathered

def value? (g : Gathered) (s : Setting) : Option String := g.values.lookup s

def isWaiting (g : Gathered) : Bool :=
  match g.pending with
  | some (_, none) => true
  | _ => false

def isEmpty (g : Gathered) : Bool := g.values.isEmpty && g.verbosity.isNone && !g.dryRun

/-- Gives an option its value, which it can be given once. -/
def assign (g : Gathered) (s : Setting) (value : String) : Except Refusal Gathered :=
  if (g.value? s).isSome then .error .repeated
  else if s.isPath ∧ value = "" then .error .invalidValue
  else .ok { g with values := (s, value) :: g.values }

def settle (g : Gathered) : Except Refusal Gathered :=
  match g.pending with
  | none => .ok g
  | some (_, none) => .error .invalidValue
  | some (s, some value) => { g with pending := none }.assign s value

def maxVerbosity : Nat := 255

def flip (level : Level) (g : Gathered) (s : Switch) : Except Refusal Gathered := do
  let g ← g.settle
  match s with
  | .verbose => .ok { g with verbosity := some (min maxVerbosity (g.verbosity.getD 0 + 1)) }
  | .dryRun => if g.dryRun then .error .repeated else .ok { g with dryRun := true }
  | .help => .error (.help (.level level))
  | .version => .error .version

def attach (g : Gathered) (s : Setting) (value : String) : Except Refusal Gathered := do
  (← g.settle).assign s value

def await (g : Gathered) (s : Setting) : Except Refusal Gathered := do
  .ok { ← g.settle with pending := some (s, none) }

def receive (g : Gathered) (value : String) : Gathered :=
  { g with pending := g.pending.map fun p => (p.1, some value) }

end Gathered

def readLong (level : Level) (g : Gathered) (word : List Char) : Except Refusal Gathered :=
  let name := word.takeWhile (· ≠ '=')
  let value := (word.dropWhile (· ≠ '=')).tail?.map String.ofList
  match level.long? name, value with
  | none, _ => .error .unknownArgument
  | some (.setting s), some value => g.attach s value
  | some (.setting s), none => g.await s
  | some (.switch _), some _ => .error .unexpectedValue
  | some (.switch s), none => g.flip level s

/-- Reads a run of one-letter options, without the dash. The first that takes a value takes the
rest of the word. -/
def readShorts (level : Level) (g : Gathered) : List Char → Except Refusal Gathered
  | [] => .ok g
  | c :: rest =>
    match level.short? c with
    | none => .error .unknownArgument
    | some (.switch s) => do readShorts level (← g.flip level s) rest
    | some (.setting s) =>
      match rest with
      | [] => g.await s
      | '=' :: value => g.attach s (String.ofList value)
      | value => g.attach s (String.ofList value)

def strayWord : Level → Refusal
  | .top => .unknownCommand
  | _ => .unknownArgument

def Topic.ofCommandName? (word : String) : Option Topic :=
  if word = "help" then some .help else (Level.ofCommandName? word).map .level

def helpFor : List String → Refusal
  | [] => .help (.level .top)
  | [word] => ((Topic.ofCommandName? word).map .help).getD .unknownCommand
  | _ => .unknownCommand

def strayAfterEnd (level : Level) (word : String) : Refusal :=
  if level = .top ∧ (Topic.ofCommandName? word).isSome then .unknownArgument else strayWord level

def readLevel (level : Level) (g : Gathered) :
    List String → Except Refusal (Gathered × Option (Level × List String))
  | [] => .ok (g, none)
  | word :: rest =>
    if level = .top ∧ ¬g.isWaiting ∧ word = "help" then .error (helpFor rest)
    else
      match if level = .top ∧ ¬g.isWaiting then Level.ofCommandName? word else none with
      | some command => .ok (g, some (command, rest))
      | none =>
        match word.toList with
        | ['-', '-'] =>
          match rest with
          | [] => .ok (g, none)
          | stray :: _ => .error (strayAfterEnd level stray)
        | '-' :: '-' :: long => do readLevel level (← readLong level g long) rest
        | '-' :: c :: shorts => do readLevel level (← readShorts level g (c :: shorts)) rest
        | _ => if g.isWaiting then readLevel level (g.receive word) rest
          else .error (strayWord level)

def defaultFormat : String := "text"

def commandOf (g : Gathered) : Level → Except Refusal Command
  | .top => .error .missingCommand
  | .env => .ok .env
  | .clusterSize => .ok (.clusterSize ((g.value? .format).getD defaultFormat))
  | .target => .ok (.target ((g.value? .format).getD defaultFormat))
  | .update =>
    match g.value? .resources with
    | some resources => .ok (.update resources g.dryRun)
    | none => .error .missingArgument

/-- An option after the command wins over the same option before it. -/
def invocation (before after : Gathered) (command : Command) : Invocation where
  command := command
  nspace := after.value? .nspace <|> before.value? .nspace
  target := after.value? .target <|> before.value? .target
  kubeconfig := after.value? .kubeconfig <|> before.value? .kubeconfig
  verbosity := (after.verbosity <|> before.verbosity).getD 0

/-- Reads a command line without the name of the program. The words after the command are
looked at before the last option in front of it takes effect. -/
def parse (words : List String) : Except Refusal Invocation := do
  match ← readLevel .top {} words with
  | (before, none) =>
    if (← before.settle).isEmpty then .error .nothingAsked else .error .missingCommand
  | (before, some (level, rest)) =>
    let (after, _) ← readLevel level {} rest
    let after ← after.settle
    let command ← commandOf after level
    .ok (invocation (← before.settle) after command)

end WorkloadScaling.CommandLine
