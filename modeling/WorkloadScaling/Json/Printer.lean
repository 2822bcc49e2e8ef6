import WorkloadScaling.Json.Basic
import WorkloadScaling.Text.Digits

/-!
# Writing JSON

A value is written on one line or indented by two blanks a level. Only the quote, the backslash
and control characters are escaped.
-/
namespace WorkloadScaling.Json

inductive Layout where
  | compact
  | indented
  deriving DecidableEq, Repr

def Layout.gap : Layout → Nat → List Char
  | compact, _ => []
  | indented, depth => '\n' :: List.replicate (2 * depth) ' '

def Layout.colon : Layout → List Char
  | compact => [':']
  | indented => [':', ' ']

def hexDigit (n : Nat) : Char := Nat.digitChar (n % 16)

def escapedChar (c : Char) : List Char :=
  if c = '"' then ['\\', '"']
  else if c = '\\' then ['\\', '\\']
  else if c = '\x08' then ['\\', 'b']
  else if c = '\x0c' then ['\\', 'f']
  else if c = '\n' then ['\\', 'n']
  else if c = '\r' then ['\\', 'r']
  else if c = '\t' then ['\\', 't']
  else if c.toNat < 0x20 then ['\\', 'u', '0', '0', hexDigit (c.toNat / 16), hexDigit c.toNat]
  else [c]

def writeString (s : String) : List Char := '"' :: (s.toList.flatMap escapedChar ++ ['"'])

def writeDecimal (d : Decimal) : List Char :=
  (if d.negative then ['-'] else []) ++ Text.digits d.coefficient ++
    'e' :: Text.integerDigits d.exponent

mutual

def write (layout : Layout) (depth : Nat) : Json → List Char
  | .null => ['n', 'u', 'l', 'l']
  | .bool true => ['t', 'r', 'u', 'e']
  | .bool false => ['f', 'a', 'l', 's', 'e']
  | .integer n => Text.integerDigits n
  | .decimal d => writeDecimal d
  | .string s => writeString s
  | .unreadable => ['"', '\\', 'u', 'd', '8', '0', '0', '"']
  | .array items => '[' :: writeItems layout (depth + 1) false items ++
      (if items.isEmpty then [] else layout.gap depth) ++ [']']
  | .object members => '\x7b' :: writeMembers layout (depth + 1) false members ++
      (if members.isEmpty then [] else layout.gap depth) ++ ['\x7d']
termination_by structural value => value

/-- Items at a depth; a comma leads each one that follows another. -/
def writeItems (layout : Layout) (depth : Nat) (follows : Bool) : List Json → List Char
  | [] => []
  | item :: items => (if follows then [','] else []) ++ layout.gap depth ++
      write layout depth item ++ writeItems layout depth true items
termination_by structural items => items

def writeMembers (layout : Layout) (depth : Nat) (follows : Bool) :
    List (String × Json) → List Char
  | [] => []
  | member :: members => (if follows then [','] else []) ++ layout.gap depth ++
      writeMember layout depth member ++ writeMembers layout depth true members
termination_by structural members => members

def writeMember (layout : Layout) (depth : Nat) : String × Json → List Char
  | (key, value) => writeString key ++ layout.colon ++ write layout depth value
termination_by structural member => member

end

def text (layout : Layout) (value : Json) : String := String.ofList (write layout 0 value)

def compact (value : Json) : String := text .compact value

/-- The value indented by two blanks a level. -/
def indented (value : Json) : String := text .indented value

end WorkloadScaling.Json
