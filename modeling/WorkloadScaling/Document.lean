import WorkloadScaling.Json.Basic

/-!
# Documents

What a reader of settings needs to know of a document, whichever notation it is written in: is
a value absent, is it a text, a list, or a mapping from texts.
-/
namespace WorkloadScaling

class Document (δ : Type) where
  /-- No answer when the value contradicts itself. -/
  isAbsent? : δ → Option Bool
  text? : δ → Option String
  items? : δ → Option (List δ)
  entries? : δ → Option (List (String × δ))

namespace Document

variable {δ α : Type} [Document δ]

def optional? (read? : δ → Option α) (d : δ) : Option (Option α) :=
  (isAbsent? d).bind fun absent => if absent then some none else (read? d).map some

def list? (read? : δ → Option α) (d : δ) : Option (List α) :=
  (items? d).bind fun items => items.mapM read?

/-- Every entry must read, and of a repeated name the last one counts. -/
def map? (read? : δ → Option α) (d : δ) : Option (NameMap α) := do
  let entries ← entries? d
  let values ← entries.mapM fun (name, value) => (read? value).map fun v => (name, v)
  some (.ofList values)

/-- A field of a record that may be left out. It is given once at most, and reads if it is
there. -/
def field? (read? : δ → Option α) (fields : List (String × δ)) (name : String) :
    Option (Option α) :=
  match fields.filter fun f => f.1 == name with
  | [] => some none
  | [(_, d)] => optional? read? d
  | _ => none

def required? (read? : δ → Option α) (fields : List (String × δ)) (name : String) : Option α :=
  match fields.filter fun f => f.1 == name with
  | [(_, d)] => read? d
  | _ => none

instance : Document Json where
  isAbsent? d := match d with
    | .null => some true
    | _ => some false
  text? d := match d with
    | .string s => some s
    | _ => none
  items? d := match d with
    | .array items => some items
    | _ => none
  entries? d := match d with
    | .object members => some members
    | _ => none

end Document

end WorkloadScaling
