import WorkloadScaling.Json.Basic
import WorkloadScaling.Text.Digits
import WorkloadScaling.Text.Hex

/-!
# Reading JSON

The strict grammar: one value, blanks around tokens, no comments, no trailing commas. Reading
keeps what is written, so that a reader of a value decides what to make of it.
-/
namespace WorkloadScaling.Json

def isSpace (c : Char) : Bool := c == ' ' || c == '\t' || c == '\n' || c == '\r'

def skipSpace (s : List Char) : List Char := s.dropWhile isSpace

/-- What a string holds: characters, and halves of surrogate pairs that were escaped. -/
inductive Piece where
  | char (c : Char)
  | half (unit : Nat)
  deriving DecidableEq, Repr

def Piece.ofUnit (unit : Nat) : Piece :=
  if 0xD800 ≤ unit ∧ unit < 0xE000 then .half unit else .char (Char.ofNat unit)

def unescape? : Char → Option Char
  | '"' => some '"'
  | '\\' => some '\\'
  | '/' => some '/'
  | 'b' => some '\x08'
  | 'f' => some '\x0c'
  | 'n' => some '\n'
  | 'r' => some '\r'
  | 't' => some '\t'
  | _ => none

def readPieces : List Char → Option (List Piece × List Char)
  | [] => none
  | '"' :: rest => some ([], rest)
  | '\\' :: 'u' :: a :: b :: c :: d :: rest => do
    let unit ← Text.hexDigits? [a, b, c, d]
    let (pieces, rest) ← readPieces rest
    some (.ofUnit unit :: pieces, rest)
  | '\\' :: c :: rest => do
    let escaped ← unescape? c
    let (pieces, rest) ← readPieces rest
    some (.char escaped :: pieces, rest)
  | c :: rest =>
    if c.toNat < 0x20 then none
    else do
      let (pieces, rest) ← readPieces rest
      some (.char c :: pieces, rest)

/-- The characters that the pieces denote; a half pairs only with the other half after it. -/
def joinPieces : List Piece → Option (List Char)
  | [] => some []
  | .char c :: pieces => (joinPieces pieces).map (c :: ·)
  | .half high :: .half low :: pieces =>
    if high < 0xDC00 ∧ 0xDC00 ≤ low then
      (joinPieces pieces).map
        (Char.ofNat (0x10000 + (high - 0xD800) * 0x400 + (low - 0xDC00)) :: ·)
    else none
  | .half _ :: _ => none

/-- A string after its opening quote: the text, unless it holds half a surrogate pair, and what
follows. -/
def readString (s : List Char) : Option (Option String × List Char) :=
  (readPieces s).map fun (pieces, rest) => ((joinPieces pieces).map String.ofList, rest)

def readDigits (s : List Char) : Option (List Char × List Char) :=
  let ds := s.takeWhile Char.isDigit
  if ds = [] then none else some (ds, s.dropWhile Char.isDigit)

def readFraction : List Char → Option (Option (List Char) × List Char)
  | '.' :: s => (readDigits s).map fun (ds, rest) => (some ds, rest)
  | s => some (none, s)

def readExponentDigits : List Char → Option (Int × List Char)
  | '-' :: s => (readDigits s).map fun (ds, rest) => (-(Text.digitsValue ds : Int), rest)
  | '+' :: s => (readDigits s).map fun (ds, rest) => ((Text.digitsValue ds : Int), rest)
  | s => (readDigits s).map fun (ds, rest) => ((Text.digitsValue ds : Int), rest)

def readExponent : List Char → Option (Option Int × List Char)
  | 'e' :: s => (readExponentDigits s).map fun (e, rest) => (some e, rest)
  | 'E' :: s => (readExponentDigits s).map fun (e, rest) => (some e, rest)
  | s => some (none, s)

/-- A number without its sign. No other digit follows a leading zero. -/
def readUnsigned (negative : Bool) (s : List Char) : Option (Json × List Char) := do
  let (whole, rest) ← readDigits s
  if whole.head? = some '0' ∧ whole ≠ ['0'] then none
  let (fraction, rest) ← readFraction rest
  let (exponent, rest) ← readExponent rest
  let places := fraction.getD []
  let coefficient := Text.digitsValue (whole ++ places)
  if fraction = none ∧ exponent = none ∧ ¬(negative ∧ coefficient = 0) then
    some (.integer (if negative then -(coefficient : Int) else coefficient), rest)
  else
    some (.decimal ⟨negative, coefficient, exponent.getD 0 - places.length⟩, rest)

def readNumber : List Char → Option (Json × List Char)
  | '-' :: s => readUnsigned true s
  | s => readUnsigned false s

/-- An object whose keys all denote texts is one; another can only be skipped. -/
def ofKeyed (members : List (Option String × Json)) : Json :=
  match members.mapM fun (key, value) => key.map fun k => (k, value) with
  | some members => .object members
  | none => .unreadable

def ofString? : Option String → Json
  | some s => .string s
  | none => .unreadable

mutual

/-- A value and what follows it. Each step takes a character, so a text is read within as many
steps as it has characters. -/
def readValue : Nat → List Char → Option (Json × List Char)
  | 0, _ => none
  | fuel + 1, s =>
    match skipSpace s with
    | 'n' :: 'u' :: 'l' :: 'l' :: rest => some (.null, rest)
    | 't' :: 'r' :: 'u' :: 'e' :: rest => some (.bool true, rest)
    | 'f' :: 'a' :: 'l' :: 's' :: 'e' :: rest => some (.bool false, rest)
    | '"' :: rest => (readString rest).map fun (s, rest) => (ofString? s, rest)
    | '[' :: rest =>
      match skipSpace rest with
      | ']' :: rest => some (.array [], rest)
      | rest => do
        let (item, rest) ← readValue fuel rest
        let (items, rest) ← readItems fuel rest
        some (.array (item :: items), rest)
    | '\x7b' :: rest =>
      match skipSpace rest with
      | '\x7d' :: rest => some (.object [], rest)
      | rest => do
        let (member, rest) ← readMember fuel rest
        let (members, rest) ← readMembers fuel rest
        some (ofKeyed (member :: members), rest)
    | rest => readNumber rest

def readItems : Nat → List Char → Option (List Json × List Char)
  | 0, _ => none
  | fuel + 1, s =>
    match skipSpace s with
    | ']' :: rest => some ([], rest)
    | ',' :: rest => do
      let (item, rest) ← readValue fuel rest
      let (items, rest) ← readItems fuel rest
      some (item :: items, rest)
    | _ => none

def readMember : Nat → List Char → Option ((Option String × Json) × List Char)
  | 0, _ => none
  | fuel + 1, s =>
    match skipSpace s with
    | '"' :: rest => do
      let (key, rest) ← readString rest
      match skipSpace rest with
      | ':' :: rest => do
        let (value, rest) ← readValue fuel rest
        some ((key, value), rest)
      | _ => none
    | _ => none

def readMembers : Nat → List Char → Option (List (Option String × Json) × List Char)
  | 0, _ => none
  | fuel + 1, s =>
    match skipSpace s with
    | '\x7d' :: rest => some ([], rest)
    | ',' :: rest => do
      let (member, rest) ← readMember fuel rest
      let (members, rest) ← readMembers fuel rest
      some (member :: members, rest)
    | _ => none

end

def parse? (s : String) : Option Json :=
  match readValue (2 * s.length + 2) s.toList with
  | some (value, rest) => if skipSpace rest = [] then some value else none
  | none => none

def maxDepth : Nat := 127

/-- Reads a whole document: every string denotes a text, every number a double at least, the
nesting is bounded, and objects come out canonical. -/
def document? (s : String) : Option Json :=
  (parse? s).bind fun value =>
    if value.isReadable ∧ value.depth ≤ maxDepth then some value.canonical else none

end WorkloadScaling.Json
