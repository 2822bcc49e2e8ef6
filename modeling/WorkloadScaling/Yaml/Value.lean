import WorkloadScaling.Yaml.Reach

/-!
# Values

A document with its aliases followed and its plain scalars understood. No mapping has a key
twice, nesting is bounded, and so is the number of aliases that are followed.
-/
namespace WorkloadScaling.Yaml

/-- A value; one with a tag of its own keeps the tag. -/
inductive Value where
  | null
  | bool (b : Bool)
  | number (n : Number)
  | text (s : String)
  | sequence (items : List Value)
  | mapping (entries : List (Value × Value))
  | tagged (tag : String) (content : Value)
  deriving Repr, Inhabited

namespace Value

mutual

/-- Whether two values are the same. The order of a mapping's entries does not matter. -/
def isSame : Value → Value → Bool
  | .null, .null => true
  | .bool a, .bool b => a == b
  | .number a, .number b => decide (a = b)
  | .text a, .text b => a == b
  | .sequence a, .sequence b => isSameItems a b
  | .mapping a, .mapping b => a.length == b.length && isSameEntries a b
  | .tagged s a, .tagged t b => s == t && isSame a b
  | _, _ => false
termination_by structural value => value

def isSameItems : List Value → List Value → Bool
  | [], [] => true
  | a :: as, b :: bs => isSame a b && isSameItems as bs
  | _, _ => false
termination_by structural items => items

def isSameEntries : List (Value × Value) → List (Value × Value) → Bool
  | [], _ => true
  | entry :: entries, others => isSameEntry entry others && isSameEntries entries others
termination_by structural entries => entries

def isSameEntry : Value × Value → List (Value × Value) → Bool
  | (key, value), others => others.any fun other => isSame key other.1 && isSame value other.2
termination_by structural entry => entry

end

def areDistinct : List Value → Bool
  | [] => true
  | key :: keys => !keys.any (isSame key ·) && areDistinct keys

def maxDepth : Nat := 128

/-- A reading that counts the aliases it may still follow. -/
abbrev Reading := StateT Nat Option

inductive Role where
  | bool
  | integer
  | decimal
  | null
  | text
  deriving DecidableEq, Repr

def Role.ofTag (tag : TagName) : Role :=
  if tag = .standard "bool" then bool
  else if tag = .standard "int" then integer
  else if tag = .standard "float" then decimal
  else if tag = nullTag then null
  else text

def ofPlain (s : String) : Plain → Value
  | .null => .null
  | .bool b => .bool b
  | .number n => .number n
  | .text => .text s

def ofUntagged? (s : String) (style : Style) : Option Value :=
  match style with
  | .plain => (plain? s).map (ofPlain s)
  | _ => some (.text s)

def ofInteger? (s : String) : Option Value :=
  match integer? s.toList with
  | some n => if widthOf n = .word then some (.number (.integer n)) else none
  | none => none

def withTag (tag : Option TagName) (v : Value) : Value :=
  match tag.bind TagName.own? with
  | some name => .tagged name v
  | none => v

/-- A scalar under a global tag. A standard tag decides how it is read, and it must read so. -/
def ofGlobal? (tag : TagName) (s : String) : Option Value :=
  match Role.ofTag tag with
  | .bool => (bool? s).map .bool
  | .integer => ofInteger? s
  | .decimal => (decimal? s.toList).map .number
  | .null => if isNull s then some .null else none
  | .text => some (.text s)

/-- A scalar. A tag of the document's own does not change how it is read. -/
def ofScalar? (tag : Option TagName) (s : String) (style : Style) : Option Value :=
  match tag with
  | some (.text name) =>
    if (TagName.text name).own?.isSome then (ofUntagged? s style).map (withTag tag)
    else ofGlobal? (.text name) s
  | some (.illegible false) => some (.text s)
  | some (.illegible true) | none => ofUntagged? s style

/-- Follows an alias, which uses up one of those that may be followed. -/
def follow (anchored : List (Nat × Node)) : Node → Reading Node
  | .alias id => do
    match ← get with
    | 0 => failure
    | left + 1 =>
      set left
      StateT.lift (anchored.lookup id)
  | node => pure node

def ofNode (anchored : List (Nat × Node)) : Nat → Node → Reading Value
  | depth, node => do
    match ← follow anchored node with
    | .alias _ => failure
    | .scalar tag s style => StateT.lift (ofScalar? tag s style)
    | .sequence tag items =>
      match depth with
      | 0 => failure
      | depth + 1 => return withTag tag (.sequence (← items.mapM (ofNode anchored depth)))
    | .mapping tag entries =>
      match depth with
      | 0 => failure
      | depth + 1 =>
        let entries ← entries.mapM fun (key, value) =>
          return (← ofNode anchored depth key, ← ofNode anchored depth value)
        if areDistinct (entries.map Prod.fst) then return withTag tag (.mapping entries)
        else failure

def untagged : Value → Value
  | .tagged _ v => untagged v
  | v => v

def text? (v : Value) : Option String :=
  match v.untagged with
  | .text s => some s
  | _ => none

def toBool? (v : Value) : Option Bool :=
  match v.untagged with
  | .bool b => some b
  | _ => none

def items? (v : Value) : Option (List Value) :=
  match v.untagged with
  | .sequence items => some items
  | .null => some []
  | _ => none

/-- The entries of a mapping whose keys are texts; nothing stands for an empty one. -/
def entries? (v : Value) : Option (List (String × Value)) :=
  match v.untagged with
  | .mapping entries => entries.mapM fun (key, value) => key.text?.map (·, value)
  | .null => some []
  | _ => none

instance : Document Value where
  isAbsent? v := match v with
    | .null => some true
    | _ => some false
  text? := text?
  items? := items?
  entries? := entries?

mutual

def isPortable : Value → Bool
  | .tagged _ _ => false
  | .sequence items => isPortableItems items
  | .mapping entries => isPortableEntries entries
  | _ => true
termination_by structural value => value

def isPortableItems : List Value → Bool
  | [] => true
  | item :: items => isPortable item && isPortableItems items
termination_by structural items => items

def isPortableEntries : List (Value × Value) → Bool
  | [] => true
  | entry :: entries => isPortableEntry entry && isPortableEntries entries
termination_by structural entries => entries

def isPortableEntry : Value × Value → Bool
  | (key, value) => (text? key).isSome && isPortable value
termination_by structural entry => entry

end

end Value

def Tree.value? (t : Tree) : Option Value :=
  match t.root with
  | none => some .null
  | some node =>
    ((Value.ofNode t.anchored Value.maxDepth node).run t.aliasLimit).map Prod.fst

end WorkloadScaling.Yaml
