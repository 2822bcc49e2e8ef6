import WorkloadScaling.Text.Digits
import WorkloadScaling.Yaml.Tag

/-!
# Directives

Lines before a document that tell its version of YAML and the meaning of tag handles.
-/
namespace WorkloadScaling.Yaml

inductive Directive where
  | version (major minor : Nat)
  | tag (handle : String) (meaning : List UInt8)
  deriving DecidableEq, Repr

def maxVersionDigits : Nat := 9

def readVersionNumber (c : Cursor) : Option (Nat × Cursor) :=
  let ds := c.rest.takeWhile Char.isDigit
  if ds = [] ∨ maxVersionDigits < ds.length then none
  else some (Text.digitsValue ds, c.skip ds.length)

def readVersion (c : Cursor) : Option (Directive × Cursor) := do
  let (major, c) ← readVersionNumber c.skipBlanks
  match c.rest with
  | '.' :: _ =>
    let (minor, c) ← readVersionNumber (c.skip 1)
    some (.version major minor, c)
  | _ => none

/-- Reads what a handle means. The handle is the mark alone or closed by a second mark. -/
def readTagMeaning (c : Cursor) : Option (Directive × Cursor) := do
  let (handle, c) ← readHandle c.skipBlanks
  if handle ≠ ['!'] ∧ ¬isClosedHandle handle then none
  if ¬c.rest.head?.any isBlank then none
  let (meaning, c) ← readTagName true c.skipBlanks
  if meaning = [] ∨ ¬isGap c.rest then none
  some (.tag (String.ofList handle) (untilZero meaning), c)

def readDirective (c : Cursor) : Option (Directive × Cursor) := do
  let c := c.skip 1
  let name := c.rest.takeWhile isWordChar
  let c := c.skip name.length
  if ¬isGap c.rest then none
  let (directive, c) ← match String.ofList name with
    | "YAML" => readVersion c
    | "TAG" => readTagMeaning c
    | _ => none
  let c := c.skipBlanks.skipComment
  if isLineEnd c.rest then some (directive, c.skipBreak) else none

end WorkloadScaling.Yaml
