import WorkloadScaling.Text.Hex
import WorkloadScaling.Yaml.Cursor

/-!
# Scalars

How the text of a scalar is read in its five styles. Line breaks inside a scalar are folded: a
single break becomes a blank, and of several all but the first stay.
-/
namespace WorkloadScaling.Yaml

inductive Style where
  | plain
  | singleQuoted
  | doubleQuoted
  | literal
  | folded
  deriving DecidableEq, Repr

structure Gap where
  spaces : List Char := []
  lead : List Char := []
  trail : List Char := []
  isBroken : Bool := false
  deriving DecidableEq, Repr

/-- The first break of a gap folds away, unless it is a separator of its own kind. -/
def foldBreaks (lead trail : List Char) : List Char :=
  if lead = ['\n'] then (if trail = [] then [' '] else trail) else lead ++ trail

def Gap.text (gap : Gap) : List Char :=
  if gap.isBroken then foldBreaks gap.lead gap.trail else gap.spaces

/-- Reads a gap. After a break, a tab left of `margin` is refused. -/
def readGap (margin : Int) : Nat → Gap → Cursor → Option (Gap × Cursor)
  | 0, _, _ => none
  | fuel + 1, gap, c =>
    match c.rest with
    | [] => some (gap, c)
    | ch :: _ =>
      if isBlank ch then
        if gap.isBroken then
          if ch = '\t' ∧ (c.column : Int) < margin then none
          else readGap margin fuel gap (c.skip 1)
        else readGap margin fuel { gap with spaces := gap.spaces ++ [ch] } (c.skip 1)
      else if isBreak ch then
        let (b, c) := c.readBreak
        if gap.isBroken then readGap margin fuel { gap with trail := gap.trail ++ b } c
        else readGap margin fuel { gap with spaces := [], lead := b, isBroken := true } c
      else some (gap, c)

def isFlowMark (c : Char) : Bool :=
  c == ',' || c == '[' || c == ']' || c == '\x7b' || c == '\x7d'

def isAmbiguousColon : List Char → Bool
  | ':' :: c :: _ => isFlowMark c || c == '?'
  | _ => false

def readPlainWord (inFlow : Bool) : List Char → Option (List Char)
  | [] => some []
  | c :: rest =>
    if isBlank c || isBreak c then some []
    else if inFlow && isAmbiguousColon (c :: rest) then none
    else if c == ':' && isGap rest then some []
    else if inFlow && isFlowMark c then some []
    else (readPlainWord inFlow rest).map (c :: ·)

/-- Reads words and the gaps between them. Tells also whether a line break was the last. -/
def readPlain (inFlow : Bool) (margin : Int) :
    Nat → Gap → Cursor → Option (List Char × Bool × Cursor)
  | 0, _, _ => none
  | fuel + 1, gap, c =>
    if c.isAtDocumentMark || c.rest.head? == some '#' then some ([], gap.isBroken, c)
    else do
      let word ← readPlainWord inFlow c.rest
      let here := c.skip word.length
      let before := if word = [] then [] else gap.text ++ word
      let broken := word = [] && gap.isBroken
      match here.rest with
      | [] => some (before, broken, here)
      | ch :: _ =>
        if isBlank ch || isBreak ch then
          let (gap, c) ← readGap margin (here.rest.length + 1) {} here
          if !inFlow && decide ((c.column : Int) < margin) then some (before, gap.isBroken, c)
          else
            let (text, broken, c) ← readPlain inFlow margin fuel gap c
            some (before ++ text, broken, c)
        else some (before, broken, here)

def escape? : Char → Option Char
  | '0' => some '\x00'
  | 'a' => some '\x07'
  | 'b' => some '\x08'
  | 't' => some '\t'
  | '\t' => some '\t'
  | 'n' => some '\n'
  | 'v' => some '\x0b'
  | 'f' => some '\x0c'
  | 'r' => some '\r'
  | 'e' => some '\x1b'
  | ' ' => some ' '
  | '"' => some '"'
  | '/' => some '/'
  | '\\' => some '\\'
  | 'N' => some '\x85'
  | '_' => some '\xa0'
  | 'L' => some '\u2028'
  | 'P' => some '\u2029'
  | _ => none

def escapeLength? : Char → Option Nat
  | 'x' => some 2
  | 'u' => some 4
  | 'U' => some 8
  | _ => none

def character? (n : Nat) : Option Char :=
  if h : n.isValidChar then some (Char.ofNatAux n h) else none

/-- Reads an escape after its backslash: the character, and how many characters spell it. -/
def readEscape : List Char → Option (Char × Nat)
  | [] => none
  | c :: rest =>
    match escapeLength? c with
    | none => (escape? c).map (·, 1)
    | some count =>
      if rest.length < count then none
      else do
        let ch ← character? (← Text.hexDigits? (rest.take count))
        some (ch, count + 1)

inductive WordEnd where
  | quote
  | gap
  | escapedBreak
  deriving DecidableEq, Repr

def readQuotedWord (single : Bool) :
    Nat → Cursor → Option (List Char × WordEnd × Cursor)
  | 0, _ => none
  | fuel + 1, c =>
    match c.rest with
    | [] => some ([], .gap, c)
    | ch :: rest =>
      let continue? (text : Char) (count : Nat) := do
        let (word, stop, c) ← readQuotedWord single fuel (c.skip count)
        some (text :: word, stop, c)
      if isBlank ch || isBreak ch then some ([], .gap, c)
      else if single then
        match ch, rest with
        | '\'', '\'' :: _ => continue? '\'' 2
        | '\'', _ => some ([], .quote, c)
        | _, _ => continue? ch 1
      else
        match ch, rest with
        | '"', _ => some ([], .quote, c)
        | '\\', next :: _ =>
          if isBreak next then some ([], .escapedBreak, (c.skip 1).skipBreak)
          else do
            let (text, count) ← readEscape rest
            continue? text (count + 1)
        | '\\', [] => none
        | _, _ => continue? ch 1

def readQuoted (single : Bool) : Nat → Cursor → Option (List Char × Cursor)
  | 0, _ => none
  | fuel + 1, c =>
    if c.isAtDocumentMark || c.rest.isEmpty then none
    else do
      let (word, stop, c) ← readQuotedWord single (c.rest.length + 1) c
      let quote := if single then '\'' else '"'
      if stop ≠ .gap ∧ c.rest.head? = some quote then some (word, c.skip 1)
      else
        let (gap, c) ← readGap 0 (c.rest.length + 1) { isBroken := stop = .escapedBreak } c
        let (text, c) ← readQuoted single fuel c
        some (word ++ gap.text ++ text, c)

inductive Chomping where
  | strip
  | clip
  | keep
  deriving DecidableEq, Repr

structure BlockHeader where
  chomping : Chomping := .clip
  indentation : Nat := 0
  deriving DecidableEq, Repr

def chomping? : Char → Option Chomping
  | '+' => some .keep
  | '-' => some .strip
  | _ => none

def readIndentation (c : Cursor) : Option (Nat × Cursor) :=
  match c.rest with
  | d :: _ =>
    if d = '0' then none
    else if d.isDigit then some (d.toNat - '0'.toNat, c.skip 1)
    else some (0, c)
  | [] => some (0, c)

def readChomping (c : Cursor) : Chomping × Cursor :=
  match c.rest.head?.bind chomping? with
  | some chomping => (chomping, c.skip 1)
  | none => (.clip, c)

def readBlockHeader (c : Cursor) : Option (BlockHeader × Cursor) := do
  let (header, c) ← match c.rest.head?.bind chomping? with
    | some chomping => do
      let (indentation, c) ← readIndentation (c.skip 1)
      some (({ chomping, indentation } : BlockHeader), c)
    | none => do
      let (indentation, c) ← readIndentation c
      if indentation = 0 then some ({}, c)
      else
        let (chomping, c) := readChomping c
        some ({ chomping, indentation }, c)
  let c := c.skipBlanks.skipComment
  if isLineEnd c.rest then some (header, c.skipBreak) else none

/-- Reads the breaks before the next line with something in it, and how far that line and the
blank ones are indented. An indentation of zero is not known yet. -/
def readBlockBreaks (indentation : Nat) :
    Nat → Nat → Cursor → Option (List Char × Nat × Cursor)
  | 0, _, _ => none
  | fuel + 1, widest, c =>
    let room := indentation - c.column
    let spaces := (c.rest.takeWhile (· == ' ')).length
    let c := c.skip (if indentation = 0 then spaces else min room spaces)
    let widest := max widest c.column
    match c.rest with
    | ch :: _ =>
      if ch = '\t' ∧ (indentation = 0 ∨ c.column < indentation) then none
      else if isBreak ch then do
        let (b, c) := c.readBreak
        let (breaks, widest, c) ← readBlockBreaks indentation fuel widest c
        some (b ++ breaks, widest, c)
      else some ([], widest, c)
    | [] => some ([], widest, c)

def blockJoin (folded : Bool) (lead trail : List Char) (leadBlank trailBlank : Bool) :
    List Char :=
  if folded && lead = ['\n'] && !leadBlank && !trailBlank then
    (if trail = [] then [' '] else []) ++ trail
  else lead ++ trail

def readBlockLines (folded : Bool) (indentation : Nat) (chomping : Chomping) :
    Nat → List Char → List Char → Bool → Cursor → Option (List Char × Cursor)
  | 0, _, _, _, _ => none
  | fuel + 1, lead, trail, leadBlank, c =>
    if c.column = indentation ∧ c.rest ≠ [] then do
      let blank := c.rest.head?.any isBlank
      let line := c.rest.takeWhile (!isBreak ·)
      let (b, after) := (c.skip line.length).readBreak
      let (breaks, _, after) ← readBlockBreaks indentation (after.rest.length + 1) 0 after
      let (text, after) ←
        readBlockLines folded indentation chomping fuel b breaks blank after
      some (blockJoin folded lead trail leadBlank blank ++ line ++ text, after)
    else
      some ((if chomping = .strip then [] else lead) ++ (if chomping = .keep then trail else []),
        c)

def readBlock (folded : Bool) (indent : Int) (c : Cursor) : Option (List Char × Cursor) := do
  let (header, c) ← readBlockHeader c
  let told := if header.indentation = 0 then 0
    else if 0 ≤ indent then indent.toNat + header.indentation
    else header.indentation
  let fuel := c.rest.length + 1
  let (breaks, widest, c) ← readBlockBreaks told fuel 0 c
  let indentation := if told = 0 then max (max widest (indent + 1).toNat) 1 else told
  readBlockLines folded indentation header.chomping fuel [] breaks false c

end WorkloadScaling.Yaml
