import WorkloadScaling.Document
import WorkloadScaling.Yaml.Event
import WorkloadScaling.Yaml.Plain

/-!
# Nodes

A document as a tree of nodes in which an alias stays an alias: it refers to an anchored node of
the same document by a number, and is looked up when a reader gets to it. So a document may refer
to itself.
-/
namespace WorkloadScaling.Yaml

inductive Node where
  | scalar (tag : Option TagName) (text : String) (style : Style)
  | sequence (tag : Option TagName) (items : List Node)
  | mapping (tag : Option TagName) (entries : List (Node × Node))
  | alias (id : Nat)
  deriving Repr, Inhabited

structure Tree where
  root : Option Node
  anchored : List (Nat × Node) := []
  size : Nat := 0
  deriving Repr

structure Anchors where
  /-- The number of each name; of a repeated name the last one counts. -/
  ids : List (String × Nat) := []
  places : List (Nat × Nat) := []
  nodes : List (Nat × Node) := []

/-- Gives an anchor at a place the number of different names so far. -/
def Anchors.add (a : Anchors) (place : Nat) : Option String → Anchors
  | none => a
  | some name =>
    let id := a.ids.length
    { a with
      ids := (name, id) :: a.ids.filter (·.1 != name)
      places := (id, place) :: a.places }

def Anchors.keep (a : Anchors) (place : Nat) (anchor : Option String) (node : Node) : Anchors :=
  if anchor.isSome then { a with nodes := (place, node) :: a.nodes } else a

def Anchors.byId (a : Anchors) : List (Nat × Node) :=
  a.places.filterMap fun (id, place) => (a.nodes.lookup place).map (id, ·)

structure Reading where
  events : List Event
  place : Nat := 0
  anchors : Anchors := {}

def pairUp : List Node → List (Node × Node)
  | key :: value :: rest => (key, value) :: pairUp rest
  | _ => []

mutual

/-- Reads a node. An alias must name an anchor that came before it. -/
def readTree : Nat → Reading → Option (Node × Reading)
  | 0, _ => none
  | fuel + 1, r =>
    match r.events with
    | .alias name :: events => do
      let id ← r.anchors.ids.lookup name
      some (.alias id, { r with events, place := r.place + 1 })
    | .scalar p text style :: events =>
      let node := Node.scalar p.tag text style
      let anchors := (r.anchors.add r.place p.anchor).keep r.place p.anchor node
      some (node, { events, place := r.place + 1, anchors })
    | .sequenceStart p :: events => do
      let anchors := r.anchors.add r.place p.anchor
      let (items, rest) ← readTrees fuel { events, place := r.place + 1, anchors }
      let node := Node.sequence p.tag items
      some (node, { rest with anchors := rest.anchors.keep r.place p.anchor node })
    | .mappingStart p :: events => do
      let anchors := r.anchors.add r.place p.anchor
      let (parts, rest) ← readTrees fuel { events, place := r.place + 1, anchors }
      let node := Node.mapping p.tag (pairUp parts)
      some (node, { rest with anchors := rest.anchors.keep r.place p.anchor node })
    | _ => none

def readTrees : Nat → Reading → Option (List Node × Reading)
  | 0, _ => none
  | fuel + 1, r =>
    match r.events with
    | .sequenceEnd :: events | .mappingEnd :: events =>
      some ([], { r with events, place := r.place + 1 })
    | _ => do
      let (node, r) ← readTree fuel r
      let (nodes, r) ← readTrees fuel r
      some (node :: nodes, r)

end

def Tree.ofEvents? (events : List Event) : Option Tree := do
  let (root, r) ← readTree (2 * events.length + 2) { events }
  some ⟨some root, r.anchors.byId, events.length⟩

def trees (s : String) : List (Option Tree) :=
  (Event.documents (Token.ofText s)).map fun document => document.bind Tree.ofEvents?

/-- The only document of a text; a text without any has one without content. -/
def tree? (s : String) : Option Tree :=
  match trees s with
  | [] => some { root := none }
  | [tree] => tree
  | _ => none

def nullTag : TagName := .standard "null"

/-- A node in its document; none stands for a document without content. -/
structure View where
  anchored : List (Nat × Node)
  node : Option Node
  deriving Repr

namespace View

def resolved (v : View) : Option Node :=
  match v.node with
  | some (.alias id) => v.anchored.lookup id
  | node => node

def sub (v : View) (node : Node) : View := { v with node := some node }

/-- Whether a value is left out: nothing, or a plain scalar that is empty or stands for null.
A scalar that is tagged as null must stand for it. -/
def isAbsent? (v : View) : Option Bool :=
  match v.resolved with
  | none => some true
  | some (.scalar tag text .plain) =>
    if tag = some nullTag then (if isNull text then some true else none)
    else some (tag.isNone && (text == "" || isNull text))
  | some _ => some false

def isNothing (v : View) : Bool :=
  match v.resolved with
  | none => true
  | some (.scalar _ text .plain) => text == ""
  | some _ => false

def text? (v : View) : Option String :=
  match v.resolved with
  | some (.scalar _ text _) => some text
  | _ => none

def items? (v : View) : Option (List View) :=
  if v.isNothing then some []
  else match v.resolved with
    | some (.sequence _ items) => some (items.map v.sub)
    | _ => none

def entries? (v : View) : Option (List (String × View)) :=
  if v.isNothing then some []
  else match v.resolved with
    | some (.mapping _ entries) =>
      entries.mapM fun (key, value) => (v.sub key).text?.map (·, v.sub value)
    | _ => none

instance : Document View := ⟨isAbsent?, text?, items?, entries?⟩

end View

def Tree.view (t : Tree) : View := ⟨t.anchored, t.root⟩

end WorkloadScaling.Yaml
