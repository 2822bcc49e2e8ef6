import WorkloadScaling.Text.Base64
import WorkloadScaling.Text.Blank

/-!
# Armored bytes

Bytes written as base64 between a line that begins a block and a line that ends it, both with
the block's label. Headers may stand in front of the base64, with an empty line after them. Text
around the blocks does not matter, nor do blanks in the base64.
-/
namespace WorkloadScaling.Text

structure ArmorBlock where
  label : String
  contents : List UInt8
  deriving DecidableEq, Repr

namespace ArmorBlock

/-- Splits bytes at a mark of which `todo` has not been met and `met` has. Where the mark breaks
off, what was met of it is not looked at again. -/
def splitFrom (mark : List UInt8) :
    (todo met : List UInt8) → List UInt8 → Option (List UInt8 × List UInt8)
  | [], _, s => some ([], s)
  | _ :: _, _, [] => none
  | t :: todo, met, b :: s =>
    if b = t then splitFrom mark todo (met ++ [b]) s
    else (splitFrom mark mark [] s).map fun (before, after) => (met ++ b :: before, after)

def splitAt? (mark : String) (s : List UInt8) : Option (List UInt8 × List UInt8) :=
  let mark := mark.toUTF8.toList
  splitFrom mark mark [] s

def isSpace (b : UInt8) : Bool := b == 0x20 || b == 0x9 || b == 0xA || b == 0xD

structure Written where
  beginLabel : List UInt8
  body : List UInt8
  endLabel : List UInt8
  deriving DecidableEq, Repr

def next? (s : List UInt8) : Option (Written × List UInt8) := do
  let (_, s) ← splitAt? "-----BEGIN " s
  let (beginLabel, s) ← splitAt? "-----" s
  let (body, s) ← splitAt? "-----END " (s.dropWhile isSpace)
  let (endLabel, s) ← splitAt? "-----" s
  some (⟨beginLabel, body, endLabel⟩, s.dropWhile isSpace)

/-- The blocks in order. Each takes some bytes, so there are fewer than bytes. -/
def allWritten : Nat → List UInt8 → List Written
  | 0, _ => []
  | fuel + 1, s =>
    match next? s with
    | some (block, rest) => block :: allWritten fuel rest
    | none => []

def text? (bytes : List UInt8) : Option String := String.fromUTF8? ⟨bytes.toArray⟩

/-- The headers of a body, and the base64 after them. -/
def headersAndData (body : List UInt8) : List UInt8 × List UInt8 :=
  match splitAt? "\n\n" body <|> splitAt? "\r\n\r\n" body with
  | some parts => parts
  | none => ([], body)

def withoutReturn (line : List Char) : List Char :=
  if line.getLast? = some '\r' then line.dropLast else line

def isHeader (line : List Char) : Bool := line.contains ':'

/-- The lines of the headers. A line end behind the last begins no other, and without one a
carriage return belongs to the line. -/
def headerLines (s : String) : List (List Char) :=
  let ls := s.toList.splitOn '\n'
  ls.dropLast.map withoutReturn ++ ls.getLast?.toList.filter (· ≠ [])

def Written.block? (w : Written) : Option ArmorBlock := do
  let label ← text? w.beginLabel
  if label = "" ∨ w.beginLabel ≠ w.endLabel then none
  let (headers, data) := headersAndData w.body
  let contents ← base64Bytes? ((← text? data).toList.filter (!isBlank ·))
  if (headerLines (← text? headers)).all isHeader then some ⟨label, contents⟩ else none

end ArmorBlock

def armorBlocks? (s : List UInt8) : Option (List ArmorBlock) :=
  (ArmorBlock.allWritten (s.length + 1) s).mapM ArmorBlock.Written.block?

end WorkloadScaling.Text
