import WorkloadScaling.Yaml.Token

/-!
# From text to tokens

Tokens are found from left to right. Only a colon shows that what stands before it on its line
is a key, so the place of each candidate is kept until the colon or the end of the line, and the
token of the key is put in afterwards.
-/
namespace WorkloadScaling.Yaml

/-- A place where a key may begin. A required one stands at the indentation of its block, where
nothing but a key can stand. -/
structure KeyPlace where
  isRequired : Bool
  token : Nat
  index : Nat
  line : Nat
  column : Nat
  deriving DecidableEq, Repr

structure Lexer where
  cursor : Cursor
  tokens : Array Token := #[]
  /-- The candidate of each open flow collection, innermost first, and of the block around. -/
  places : List (Option KeyPlace) := [none]
  /-- The indentation of the blocks around, innermost first; none is written as -1. -/
  indents : List Int := [-1]
  canBeKey : Bool := true

namespace Lexer

def maxKeyLength : Nat := 1024

def inFlow (l : Lexer) : Bool := decide (1 < l.places.length)

def indent (l : Lexer) : Int := l.indents.headD (-1)

def emit (l : Lexer) (t : Token) : Lexer := { l with tokens := l.tokens.push t }

def emitMark (l : Lexer) (t : Token) (count : Nat) : Lexer :=
  { l.emit t with cursor := l.cursor.skip count }

def openBlock (l : Lexer) (column : Nat) (t : Token) (token : Nat) : Lexer :=
  if !l.inFlow && decide (l.indent < column) then
    { l with
      indents := (column : Int) :: l.indents
      tokens := l.tokens.insertIdxIfInBounds token t }
  else l

def closeBlocks (l : Lexer) (column : Int) : Lexer :=
  if l.inFlow then l
  else
    let closed := l.indents.takeWhile fun i => decide (column < i)
    { l with
      indents := l.indents.drop closed.length
      tokens := l.tokens ++ (closed.map fun _ => Token.blockEnd).toArray }

/-- Gives up the innermost candidate. A required one must not be given up. -/
def dropPlace (l : Lexer) : Option Lexer :=
  match l.places with
  | some place :: rest => if place.isRequired then none else some { l with places := none :: rest }
  | _ => some l

def savePlace (l : Lexer) : Option Lexer :=
  if l.canBeKey then do
    let l ← l.dropPlace
    let c := l.cursor
    let place : KeyPlace :=
      { isRequired := !l.inFlow && l.indent == (c.column : Int)
        token := l.tokens.size
        index := c.index
        line := c.line
        column := c.column }
    some { l with places := some place :: l.places.drop 1 }
  else some l

def isStale (c : Cursor) (place : KeyPlace) : Bool :=
  decide (place.line < c.line) || decide (place.index + maxKeyLength < c.index)

def dropStale (l : Lexer) : Option Lexer := do
  let places ← l.places.mapM fun place =>
    match place with
    | none => some none
    | some place =>
      if isStale l.cursor place then (if place.isRequired then none else some none)
      else some (some place)
  some { l with places }

/-- Passes over blanks, comments and line breaks. A tab counts as a blank where no key can
begin, and a byte order mark where a line begins; the mark takes a column. -/
def skipGap : Nat → Lexer → Lexer
  | 0, l => l
  | fuel + 1, l =>
    let c := if l.cursor.column = 0 ∧ l.cursor.rest.head? = some '\ufeff' then l.cursor.skip 1
      else l.cursor
    let c := c.skipWhile fun ch => ch == ' ' || ((l.inFlow || !l.canBeKey) && ch == '\t')
    let c := c.skipComment
    match c.rest with
    | ch :: _ =>
      if isBreak ch then
        skipGap fuel { l with cursor := c.skipBreak, canBeKey := l.canBeKey || !l.inFlow }
      else { l with cursor := c }
    | [] => { l with cursor := c }

def documentMark (l : Lexer) (t : Token) : Option Lexer := do
  let l ← (l.closeBlocks (-1)).dropPlace
  some { l.emitMark t 3 with canBeKey := false }

def directiveLine (l : Lexer) : Option Lexer := do
  let l ← (l.closeBlocks (-1)).dropPlace
  let (d, cursor) ← readDirective l.cursor
  some { l.emit (.directive d) with cursor, canBeKey := false }

def endOfText (l : Lexer) : Option Lexer := do
  let l ← (l.closeBlocks (-1)).dropPlace
  some (l.emit .streamEnd)

def flowStart (l : Lexer) (t : Token) : Option Lexer := do
  let l ← l.savePlace
  some { l.emitMark t 1 with places := none :: l.places, canBeKey := true }

def flowEnd (l : Lexer) (t : Token) : Option Lexer := do
  let l ← l.dropPlace
  let places := if l.inFlow then l.places.drop 1 else l.places
  some { l.emitMark t 1 with places, canBeKey := false }

def flowSeparator (l : Lexer) : Option Lexer := do
  let l ← l.dropPlace
  some { l.emitMark .flowEntry 1 with canBeKey := true }

def blockMark (l : Lexer) (opening : Token) : Option Lexer :=
  if l.inFlow then some l
  else if l.canBeKey then some (l.openBlock l.cursor.column opening l.tokens.size)
  else none

def entryMark (l : Lexer) : Option Lexer := do
  let l ← (← l.blockMark .blockSequenceStart).dropPlace
  some { l.emitMark .blockEntry 1 with canBeKey := true }

def keyMark (l : Lexer) : Option Lexer := do
  let l ← (← l.blockMark .blockMappingStart).dropPlace
  some { l.emitMark .key 1 with canBeKey := !l.inFlow }

/-- A colon. It makes a key of the innermost candidate; without one it follows a key that was
marked, or none. -/
def valueMark (l : Lexer) : Option Lexer :=
  match l.places with
  | some place :: rest =>
    let l := { l with
      places := none :: rest
      tokens := l.tokens.insertIdxIfInBounds place.token .key }
    let l := l.openBlock place.column .blockMappingStart place.token
    some { l.emitMark .value 1 with canBeKey := false }
  | _ => do
    let l ← l.blockMark .blockMappingStart
    some { l.emitMark .value 1 with canBeKey := !l.inFlow }

def word {α : Type} (l : Lexer) (read : Cursor → Option (α × Cursor)) (token : α → Token) :
    Option Lexer := do
  let l ← l.savePlace
  let (a, cursor) ← read l.cursor
  some { l.emit (token a) with cursor, canBeKey := false }

def scalarToken (style : Style) (text : List Char) : Token := .scalar (String.ofList text) style

def quoted (l : Lexer) (single : Bool) : Option Lexer :=
  l.word (fun c => readQuoted single (c.rest.length + 1) (c.skip 1))
    (scalarToken (if single then .singleQuoted else .doubleQuoted))

def block (l : Lexer) (folded : Bool) : Option Lexer := do
  let l ← l.dropPlace
  let (text, cursor) ← readBlock folded l.indent (l.cursor.skip 1)
  some { l.emit (scalarToken (if folded then .folded else .literal) text) with
    cursor, canBeKey := true }

/-- A plain scalar; after a line break another key can begin. -/
def plain (l : Lexer) : Option Lexer := do
  let l ← l.savePlace
  let c := l.cursor
  let (text, broken, cursor) ← readPlain l.inFlow (l.indent + 1) (c.rest.length + 1) {} c
  some { l.emit (scalarToken .plain text) with cursor, canBeKey := broken }

def isIndicator (c : Char) : Bool :=
  c ∈ ['-', '?', ':', ',', '[', ']', '\x7b', '\x7d', '#', '&', '*', '!', '|', '>', '\'', '"', '%',
    '@', '\x60']

def startsPlain (inFlow : Bool) (c : Char) (rest : List Char) : Bool :=
  (!isIndicator c && !isBlank c && !isBreak c) || (c == '-' && !rest.head?.any isBlank) ||
    (!inFlow && (c == '?' || c == ':') && !isGap rest)

def next (l : Lexer) : Option Lexer := do
  let l ← (l.skipGap (l.cursor.rest.length + 1)).dropStale
  let l := l.closeBlocks l.cursor.column
  let c := l.cursor
  match c.rest with
  | [] => l.endOfText
  | ch :: rest =>
    if c.column = 0 ∧ ch = '%' then l.directiveLine
    else if c.isAtDocumentMark then
      l.documentMark (if ch = '-' then .documentStart else .documentEnd)
    else if ch = '[' then l.flowStart .flowSequenceStart
    else if ch = '\x7b' then l.flowStart .flowMappingStart
    else if ch = ']' then l.flowEnd .flowSequenceEnd
    else if ch = '\x7d' then l.flowEnd .flowMappingEnd
    else if ch = ',' then l.flowSeparator
    else if ch = '-' ∧ isGap rest then l.entryMark
    else if ch = '?' ∧ (l.inFlow ∨ isGap rest) then l.keyMark
    else if ch = ':' ∧ (l.inFlow ∨ isGap rest) then l.valueMark
    else if ch = '*' then l.word (fun c => readAnchor (c.skip 1)) .alias
    else if ch = '&' then l.word (fun c => readAnchor (c.skip 1)) .anchor
    else if ch = '!' then l.word (readTag l.inFlow) .tag
    else if ch = '|' ∧ ¬l.inFlow then l.block false
    else if ch = '>' ∧ ¬l.inFlow then l.block true
    else if ch = '\'' then l.quoted true
    else if ch = '"' then l.quoted false
    else if startsPlain l.inFlow ch rest then l.plain
    else none

def isFinished (l : Lexer) : Bool := l.tokens.back? == some .streamEnd

/-- Reads tokens up to the end of the text, or to where no token can be read. Each takes a
character at least. -/
def run : Nat → Lexer → List Token
  | 0, l => l.tokens.toList
  | fuel + 1, l =>
    match l.next with
    | some l => if l.isFinished then l.tokens.toList else run fuel l
    | none => l.tokens.toList

end Lexer

/-- The tokens of a text. When the whole text can be read, the last of them is its end. -/
def Token.ofText (s : String) : List Token :=
  if s.toList.all isAllowed then Lexer.run (s.length + 2) { cursor := ⟨s.toList, 0, 0, 0⟩ }
  else []

end WorkloadScaling.Yaml
