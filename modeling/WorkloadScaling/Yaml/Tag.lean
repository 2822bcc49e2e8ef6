import WorkloadScaling.Text.Hex
import WorkloadScaling.Yaml.Cursor

/-!
# Tags and anchors

The properties of a node: an anchor, and a tag that is written as a handle and a suffix, or as a
whole name between angle brackets.
-/
namespace WorkloadScaling.Yaml

def isAnchorEnd (rest : List Char) : Bool :=
  isGap rest || rest.head?.any fun c =>
    c == '?' || c == ':' || c == ',' || c == ']' || c == '\x7d' || c == '%' || c == '@' || c == '\x60'

def readAnchor (c : Cursor) : Option (String × Cursor) :=
  let name := c.rest.takeWhile isWordChar
  let c := c.skip name.length
  if name ≠ [] ∧ isAnchorEnd c.rest then some (String.ofList name, c) else none

def isTagChar (verbatim : Bool) (c : Char) : Bool :=
  isWordChar c || c ∈ [';', '/', '?', ':', '@', '&', '=', '+', '$', '.', '%', '!', '~', '*',
      '\'', '(', ')'] ||
    (verbatim && (c == ',' || c == '[' || c == ']'))

def readOctet : List Char → Option (UInt8 × List Char)
  | '%' :: a :: b :: rest => (Text.hexDigits? [a, b]).map (UInt8.ofNat ·, rest)
  | _ => none

def octetWidth? (octet : UInt8) : Option Nat :=
  if octet < 0x80 then some 1
  else if octet / 0x20 = 0x6 then some 2
  else if octet / 0x10 = 0xE then some 3
  else if octet / 0x8 = 0x1E then some 4
  else none

def readContinuation : Nat → List Char → Option (List UInt8 × List Char)
  | 0, s => some ([], s)
  | count + 1, s => do
    let (octet, s) ← readOctet s
    if octet / 0x40 = 0x2 then
      let (octets, s) ← readContinuation count s
      some (octet :: octets, s)
    else none

/-- Reads the octets of one escaped character. Which character they spell is not looked at. -/
def readEscaped (s : List Char) : Option (List UInt8 × List Char) := do
  let (first, s) ← readOctet s
  let (octets, s) ← readContinuation ((← octetWidth? first) - 1) s
  some (first :: octets, s)

def readTagBytes (verbatim : Bool) : Nat → List Char → Option (List UInt8 × List Char)
  | 0, _ => none
  | fuel + 1, s =>
    match s with
    | [] => some ([], [])
    | c :: rest =>
      if !isTagChar verbatim c then some ([], s)
      else do
        let (octets, rest) ← if c = '%' then readEscaped s else some ([UInt8.ofNat c.toNat], rest)
        let (name, rest) ← readTagBytes verbatim fuel rest
        some (octets ++ name, rest)

def readTagName (verbatim : Bool) (c : Cursor) : Option (List UInt8 × Cursor) := do
  let (name, rest) ← readTagBytes verbatim (c.rest.length + 1) c.rest
  some (name, c.skip (c.rest.length - rest.length))

/-- A zero ends a name, whatever follows it. -/
def untilZero (name : List UInt8) : List UInt8 := name.takeWhile (· ≠ 0)

structure Tag where
  handle : String
  suffix : List UInt8
  deriving DecidableEq, Repr

def ownMark : UInt8 := 0x21

def readHandle (c : Cursor) : Option (List Char × Cursor) :=
  match c.rest with
  | '!' :: rest =>
    let letters := rest.takeWhile isWordChar
    let handle := '!' :: letters
    match rest.dropWhile isWordChar with
    | '!' :: _ => some (handle ++ ['!'], c.skip (handle.length + 1))
    | _ => some (handle, c.skip handle.length)
  | _ => none

def isClosedHandle (handle : List Char) : Bool :=
  decide (2 ≤ handle.length) && handle.getLast? == some '!'

/-- Reads a tag from its exclamation mark. The mark alone is a name of its own. -/
def readTagParts (c : Cursor) : Option (Tag × Cursor) := do
  match c.rest with
  | '!' :: '<' :: _ =>
    let (name, c) ← readTagName true (c.skip 2)
    if name = [] then none
    match c.rest with
    | '>' :: _ => some (⟨"", untilZero name⟩, c.skip 1)
    | _ => none
  | _ =>
    let (handle, c) ← readHandle c
    let (name, c) ← readTagName false c
    if isClosedHandle handle then
      if name = [] then none else some (⟨String.ofList handle, untilZero name⟩, c)
    else
      let suffix := untilZero ((String.ofList (handle.drop 1)).toUTF8.toList ++ name)
      if suffix = [] then some (⟨"", [ownMark]⟩, c) else some (⟨"!", suffix⟩, c)

/-- Reads a tag; a gap follows it, or in a flow collection a comma. -/
def readTag (inFlow : Bool) (c : Cursor) : Option (Tag × Cursor) := do
  let (tag, c) ← readTagParts c
  if isGap c.rest || (inFlow && c.rest.head? == some ',') then some (tag, c) else none

/-- The whole name of a tag. Bytes that spell no text are no name, but a tag that a document
defines for itself is still told from a global one. -/
inductive TagName where
  | text (name : String)
  | illegible (isOwn : Bool)
  deriving DecidableEq, Repr

namespace TagName

def ofBytes (bytes : List UInt8) : TagName :=
  match String.fromUTF8? ⟨bytes.toArray⟩ with
  | some name => text name
  | none => illegible (bytes.head? == some ownMark)

def standardPart : String := "tag:yaml.org,2002:"

def standard (name : String) : TagName := text (standardPart ++ name)

def unmarked (name : String) : String :=
  match name.toList with
  | '!' :: c :: rest => String.ofList (c :: rest)
  | _ => name

/-- The name that a document gives a tag of its own. A second mark does not count either. -/
def own? : TagName → Option String
  | text name => if name.toList.head? = some '!' then some (unmarked (unmarked name)) else none
  | illegible _ => none

end TagName

end WorkloadScaling.Yaml
