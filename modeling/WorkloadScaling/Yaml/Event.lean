import WorkloadScaling.Yaml.Lexer

/-!
# Events

The structure that tokens spell: documents of nodes. A node is an alias, a scalar, or a
collection between its start and its end.
-/
namespace WorkloadScaling.Yaml

structure Properties where
  anchor : Option String := none
  tag : Option TagName := none
  deriving DecidableEq, Repr

inductive Event where
  | alias (name : String)
  | scalar (properties : Properties) (text : String) (style : Style)
  | sequenceStart (properties : Properties)
  | sequenceEnd
  | mappingStart (properties : Properties)
  | mappingEnd
  deriving DecidableEq, Repr

def Event.nothing : Event := .scalar {} "" .plain

abbrev Handles := List (String × List UInt8)

/-- The whole name of a tag. Without a handle the suffix is the name. -/
def Tag.name? (handles : Handles) (t : Tag) : Option TagName :=
  if t.handle = "" then some (.ofBytes t.suffix)
  else (handles.lookup t.handle).map fun meaning => .ofBytes (meaning ++ t.suffix)

def readProperties (handles : Handles) :
    List Token → Option (Properties × List Token)
  | .anchor a :: .tag t :: rest => do some (⟨some a, some (← t.name? handles)⟩, rest)
  | .tag t :: .anchor a :: rest => do some (⟨some a, some (← t.name? handles)⟩, rest)
  | .anchor a :: rest => some (⟨some a, none⟩, rest)
  | .tag t :: rest => do some (⟨none, some (← t.name? handles)⟩, rest)
  | rest => some ({}, rest)

/-- Where a node stands: in a block, as the key or value of a block mapping, or in a flow
collection. -/
inductive Place where
  | block
  | blockMember
  | flow
  deriving DecidableEq, Repr

abbrev Read := Option (List Event × List Token)

def isBlockMemberEnd : Token → Bool
  | .key | .value | .blockEnd => true
  | _ => false

mutual

/-- A node and what follows it. Each step takes a token or ends what a token began. -/
def readNode (handles : Handles) : Nat → Place → List Token → Read
  | 0, _, _ => none
  | fuel + 1, place, tokens =>
    match tokens with
    | .alias name :: rest => some ([.alias name], rest)
    | _ => do
      let (p, tokens) ← readProperties handles tokens
      match place, tokens with
      | .blockMember, .blockEntry :: _ => do
        let (items, rest) ← readLooseItems handles fuel tokens
        some (.sequenceStart p :: items, rest)
      | _, .scalar text style :: rest => some ([.scalar p text style], rest)
      | _, .flowSequenceStart :: rest => do
        let (items, rest) ← readFlowItems handles fuel true rest
        some (.sequenceStart p :: items, rest)
      | _, .flowMappingStart :: rest => do
        let (members, rest) ← readFlowMembers handles fuel true rest
        some (.mappingStart p :: members, rest)
      | .flow, _ => if p = {} then none else some ([.scalar p "" .plain], tokens)
      | _, .blockSequenceStart :: rest => do
        let (items, rest) ← readBlockItems handles fuel rest
        some (.sequenceStart p :: items, rest)
      | _, .blockMappingStart :: rest => do
        let (members, rest) ← readBlockMembers handles fuel rest
        some (.mappingStart p :: members, rest)
      | _, _ => if p = {} then none else some ([.scalar p "" .plain], tokens)

def readBlockItems (handles : Handles) : Nat → List Token → Read
  | 0, _ => none
  | fuel + 1, tokens =>
    match tokens with
    | .blockEntry :: rest => do
      let (item, rest) ← match rest with
        | .blockEntry :: _ | .blockEnd :: _ => some ([Event.nothing], rest)
        | _ => readNode handles fuel .block rest
      let (items, rest) ← readBlockItems handles fuel rest
      some (item ++ items, rest)
    | .blockEnd :: rest => some ([.sequenceEnd], rest)
    | _ => none

/-- The items of a sequence that is not indented more than the mapping around it. -/
def readLooseItems (handles : Handles) : Nat → List Token → Read
  | 0, _ => none
  | fuel + 1, tokens =>
    match tokens with
    | .blockEntry :: rest => do
      let (item, rest) ← match rest with
        | .blockEntry :: _ | .key :: _ | .value :: _ | .blockEnd :: _ =>
          some ([Event.nothing], rest)
        | _ => readNode handles fuel .block rest
      let (items, rest) ← readLooseItems handles fuel rest
      some (item ++ items, rest)
    | _ => some ([.sequenceEnd], tokens)

def readBlockMember (handles : Handles) : Nat → List Token → Read
  | 0, _ => none
  | fuel + 1, tokens =>
    match tokens with
    | t :: _ => if isBlockMemberEnd t then some ([Event.nothing], tokens)
      else readNode handles fuel .blockMember tokens
    | [] => none

def readBlockMembers (handles : Handles) : Nat → List Token → Read
  | 0, _ => none
  | fuel + 1, tokens =>
    match tokens with
    | .key :: rest => do
      let (key, rest) ← readBlockMember handles fuel rest
      let (value, rest) ← match rest with
        | .value :: rest => readBlockMember handles fuel rest
        | _ => some ([Event.nothing], rest)
      let (members, rest) ← readBlockMembers handles fuel rest
      some (key ++ value ++ members, rest)
    | .blockEnd :: rest => some ([.mappingEnd], rest)
    | _ => none

/-- The items of a flow sequence, up to its end. An item that is marked as a key is a mapping of
one member. -/
def readFlowItems (handles : Handles) : Nat → Bool → List Token → Read
  | 0, _, _ => none
  | fuel + 1, first, tokens =>
    match tokens with
    | .flowSequenceEnd :: rest => some ([.sequenceEnd], rest)
    | _ => do
      let tokens ← match first, tokens with
        | true, _ => some tokens
        | false, .flowEntry :: rest => some rest
        | false, _ => none
      match tokens with
      | .flowSequenceEnd :: rest => some ([.sequenceEnd], rest)
      | .key :: rest => do
        let (pair, rest) ← readFlowPair handles fuel rest
        let (items, rest) ← readFlowItems handles fuel false rest
        some (.mappingStart {} :: pair ++ items, rest)
      | _ => do
        let (item, rest) ← readNode handles fuel .flow tokens
        let (items, rest) ← readFlowItems handles fuel false rest
        some (item ++ items, rest)

/-- The one member of a mapping inside a flow sequence. After a key that is nothing, the token
that shows it is passed over. -/
def readFlowPair (handles : Handles) : Nat → List Token → Read
  | 0, _ => none
  | fuel + 1, tokens => do
    let (key, rest) ← match tokens with
      | .value :: rest | .flowEntry :: rest | .flowSequenceEnd :: rest =>
        some ([Event.nothing], rest)
      | _ => readNode handles fuel .flow tokens
    let (value, rest) ← match rest with
      | .value :: rest =>
        match rest with
        | .flowEntry :: _ | .flowSequenceEnd :: _ => some ([Event.nothing], rest)
        | _ => readNode handles fuel .flow rest
      | _ => some ([Event.nothing], rest)
    some (key ++ value ++ [.mappingEnd], rest)

/-- The members of a flow mapping, up to its end. A member that is not marked as a key has no
value. -/
def readFlowMembers (handles : Handles) : Nat → Bool → List Token → Read
  | 0, _, _ => none
  | fuel + 1, first, tokens =>
    match tokens with
    | .flowMappingEnd :: rest => some ([.mappingEnd], rest)
    | _ => do
      let tokens ← match first, tokens with
        | true, _ => some tokens
        | false, .flowEntry :: rest => some rest
        | false, _ => none
      match tokens with
      | .flowMappingEnd :: rest => some ([.mappingEnd], rest)
      | .key :: rest => do
        let (key, rest) ← match rest with
          | .value :: _ | .flowEntry :: _ | .flowMappingEnd :: _ => some ([Event.nothing], rest)
          | _ => readNode handles fuel .flow rest
        let (value, rest) ← match rest with
          | .value :: rest =>
            match rest with
            | .flowEntry :: _ | .flowMappingEnd :: _ => some ([Event.nothing], rest)
            | _ => readNode handles fuel .flow rest
          | _ => some ([Event.nothing], rest)
        let (members, rest) ← readFlowMembers handles fuel false rest
        some (key ++ value ++ members, rest)
      | _ => do
        let (key, rest) ← readNode handles fuel .flow tokens
        let (members, rest) ← readFlowMembers handles fuel false rest
        some (key ++ Event.nothing :: members, rest)

end

def standardHandles : Handles :=
  [("!", [ownMark]), ("!!", TagName.standardPart.toUTF8.toList)]

def isKnownVersion (major minor : Nat) : Bool := major == 1 && (minor == 1 || minor == 2)

/-- Reads directives: at most one version, which must be known, and one meaning a handle. -/
def readDirectives (versioned : Bool) (handles : Handles) :
    List Token → Option (Handles × List Token)
  | .directive (.version major minor) :: rest =>
    if versioned || !isKnownVersion major minor then none else readDirectives true handles rest
  | .directive (.tag handle meaning) :: rest =>
    if (handles.lookup handle).isSome then none
    else readDirectives versioned (handles ++ [(handle, meaning)]) rest
  | rest => some (handles ++ standardHandles, rest)

def readContent (handles : Handles) (fuel : Nat) (tokens : List Token) : Read :=
  match tokens with
  | .directive _ :: _ | .documentStart :: _ | .documentEnd :: _ | .streamEnd :: _ =>
    some ([Event.nothing], tokens)
  | _ => readNode handles fuel .block tokens

def isDocumentEnd : Token → Bool
  | .documentEnd => true
  | _ => false

def readMarked (fuel : Nat) (tokens : List Token) : Read := do
  match ← readDirectives false [] tokens with
  | (handles, .documentStart :: rest) => readContent handles fuel rest
  | _ => none

/-- A document is read when something stands behind it, if only the end of the text. -/
def completed (read : Read) : Read := read.filter fun (_, rest) => !rest.isEmpty

/-- The documents that follow a document. One that cannot be read is the last. -/
def readDocuments (fuel : Nat) : Nat → List Token → List (Option (List Event))
  | 0, _ => [none]
  | count + 1, tokens =>
    match tokens.dropWhile isDocumentEnd with
    | [.streamEnd] => []
    | tokens =>
      match completed (readMarked fuel tokens) with
      | some (document, rest) => some document :: readDocuments fuel count rest
      | none => [none]

/-- The documents of a text. The first needs no mark unless directives precede it. -/
def Event.documents (tokens : List Token) : List (Option (List Event)) :=
  let fuel := 2 * tokens.length + 2
  match tokens with
  | .directive _ :: _ | .documentStart :: _ | .streamEnd :: _ => readDocuments fuel fuel tokens
  | _ =>
    match completed (readNode standardHandles fuel .block tokens) with
    | some (document, rest) => some document :: readDocuments fuel fuel rest
    | none => [none]

end WorkloadScaling.Yaml
