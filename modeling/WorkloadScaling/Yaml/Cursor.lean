/-!
# Places in a YAML text

The characters that structure a YAML text, and a cursor that knows its line and its column.
-/
namespace WorkloadScaling.Yaml

/-- Line breaks: carriage return, line feed, next line, line and paragraph separator. -/
def isBreak (c : Char) : Bool :=
  c == '\r' || c == '\n' || c == '\x85' || c == '\u2028' || c == '\u2029'

def isBlank (c : Char) : Bool := c == ' ' || c == '\t'

def isWordChar (c : Char) : Bool := c.isAlphanum || c == '_' || c == '-'

def isAllowed (c : Char) : Bool :=
  let n := c.toNat
  n == 0x9 || n == 0xA || n == 0xD || (decide (0x20 ≤ n) && decide (n ≤ 0x7E)) || n == 0x85 ||
    (decide (0xA0 ≤ n) && decide (n ≤ 0xD7FF)) || (decide (0xE000 ≤ n) && decide (n ≤ 0xFFFD)) ||
    decide (0x10000 ≤ n)

def isGap : List Char → Bool
  | [] => true
  | c :: _ => isBlank c || isBreak c

def isLineEnd : List Char → Bool
  | [] => true
  | c :: _ => isBreak c

def byteCount (s : List Char) : Nat := s.foldl (fun count c => count + c.utf8Size) 0

/-- What is left of a text, and where it begins. The index counts bytes, the column
characters. -/
structure Cursor where
  rest : List Char
  index : Nat := 0
  line : Nat := 0
  column : Nat := 0
  deriving DecidableEq, Repr

namespace Cursor

def skip (c : Cursor) (count : Nat) : Cursor :=
  { c with
    rest := c.rest.drop count
    index := c.index + byteCount (c.rest.take count)
    column := c.column + count }

def skipWhile (c : Cursor) (p : Char → Bool) : Cursor := c.skip (c.rest.takeWhile p).length

def skipBlanks (c : Cursor) : Cursor := c.skipWhile isBlank

def skipToLineEnd (c : Cursor) : Cursor := c.skipWhile (!isBreak ·)

def skipComment (c : Cursor) : Cursor :=
  if c.rest.head? = some '#' then c.skipToLineEnd else c

def nextLine (c : Cursor) (rest : List Char) (size : Nat) : Cursor :=
  { rest, index := c.index + size, line := c.line + 1, column := 0 }

/-- Reads one line break. Breaks of ASCII and the next-line character count as line feeds. -/
def readBreak (c : Cursor) : List Char × Cursor :=
  match c.rest with
  | '\r' :: '\n' :: rest => (['\n'], c.nextLine rest 2)
  | b :: rest =>
    if b = '\u2028' ∨ b = '\u2029' then ([b], c.nextLine rest b.utf8Size)
    else if isBreak b then (['\n'], c.nextLine rest b.utf8Size)
    else ([], c)
  | [] => ([], c)

def skipBreak (c : Cursor) : Cursor := c.readBreak.2

def isAtDocumentMark (c : Cursor) : Bool :=
  c.column == 0 && match c.rest with
    | '-' :: '-' :: '-' :: rest => isGap rest
    | '.' :: '.' :: '.' :: rest => isGap rest
    | _ => false

end Cursor

end WorkloadScaling.Yaml
