import WorkloadScaling.Text.Keyword

/-!
# Log lines

Levels of log lines, how a level is chosen, and which lines a filter lets through.
-/
namespace WorkloadScaling.Log

inductive Level where
  | error
  | warn
  | info
  | debug
  | trace
  deriving DecidableEq, Repr, Inhabited

namespace Level

def vocabulary : List (String × Level) :=
  [("trace", trace), ("debug", debug), ("info", info), ("warn", warn), ("warning", warn),
    ("error", error)]

def ofName (s : String) : Except String Level :=
  Text.keyword ("Unknown log level: " ++ ·) vocabulary s

def ofVerbosity : Nat → Level
  | 0 => info
  | 1 => debug
  | _ => trace

def label : Level → String
  | error => "ERROR"
  | warn => "WARN"
  | info => "INFO"
  | debug => "DEBUG"
  | trace => "TRACE"

def rank : Level → Nat
  | error => 0
  | warn => 1
  | info => 2
  | debug => 3
  | trace => 4

end Level

structure Line where
  level : Level
  text : String
  fields : List (String × String) := []
  deriving DecidableEq, Repr

def Line.display (line : Line) : String :=
  line.fields.foldl (fun s (name, value) => s ++ " " ++ name ++ "=" ++ value)
    (line.level.label ++ " " ++ line.text)

/-- Lines up to a level are let through, or none are. -/
inductive Filter where
  | off
  | upTo (level : Level)
  deriving DecidableEq, Repr

def Filter.passes : Filter → Line → Bool
  | off, _ => false
  | upTo level, line => decide (line.level.rank ≤ level.rank)

def source : String := "k8s_scale_client"

def Filter.ofName? (s : String) : Option Filter :=
  if Text.lower s.toList = "off".toList then some off else (Level.ofName s).toOption.map upTo

/-- Reads a filter, which may say that it is meant for this program. -/
def Filter.ofText? (s : String) : Option Filter :=
  if s.toList.take (source.length + 1) = (source ++ "=").toList then
    ofName? (String.ofList (s.toList.drop (source.length + 1)))
  else ofName? s

end WorkloadScaling.Log
