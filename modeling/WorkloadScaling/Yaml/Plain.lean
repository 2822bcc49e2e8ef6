import WorkloadScaling.Decimal
import WorkloadScaling.Text.Digits
import WorkloadScaling.Yaml.Cursor

/-!
# Plain scalars

What a word without quotes denotes: nothing, a truth value, a number, or the text that it is.
-/
namespace WorkloadScaling.Yaml

inductive Number where
  | integer (n : Int)
  | decimal (value : Double)
  | infinity (negative : Bool)
  | notANumber
  deriving DecidableEq, Repr

inductive Plain where
  | null
  | bool (b : Bool)
  | number (n : Number)
  | text
  deriving DecidableEq, Repr

def isNull (s : String) : Bool := s == "null" || s == "Null" || s == "NULL" || s == "~"

def bool? : String → Option Bool
  | "true" | "True" | "TRUE" => some true
  | "false" | "False" | "FALSE" => some false
  | _ => none

def radixDigits? (radix : Nat) (s : List Char) : Option Nat :=
  if s = [] then none
  else s.foldlM (fun value c => do
    let digit ← if c.isDigit then some (c.toNat - '0'.toNat)
      else if c.isAlpha then some (c.toLower.toNat - 'a'.toNat + 10) else none
    if digit < radix then some (value * radix + digit) else none) 0

/-- Decimal digits after a zero at the beginning are not a number. -/
def isZeroLed (s : List Char) : Bool :=
  match s with
  | '0' :: rest => rest ≠ [] && rest.all Char.isDigit
  | _ => false

def magnitude? (s : List Char) : Option Nat :=
  match s with
  | '0' :: 'x' :: digits => radixDigits? 16 digits
  | '0' :: 'o' :: digits => radixDigits? 8 digits
  | '0' :: 'b' :: digits => radixDigits? 2 digits
  | _ => if isZeroLed s then none else radixDigits? 10 s

def splitSign : List Char → Bool × List Char
  | '-' :: s => (true, s)
  | '+' :: s => (false, s)
  | s => (false, s)

def signed (negative : Bool) (n : Nat) : Int := if negative then -(n : Int) else n

inductive Width where
  | word
  | wide
  | beyond
  deriving DecidableEq, Repr

def widthOf (n : Int) : Width :=
  if -(Nat.pow 2 63 : Int) ≤ n ∧ n < Nat.pow 2 64 then .word
  else if -(Nat.pow 2 127 : Int) ≤ n ∧ n < Nat.pow 2 128 then .wide
  else .beyond

def integer? (s : List Char) : Option Int :=
  let (negative, digits) := splitSign s
  (magnitude? digits).map (signed negative)

def exponent? : List Char → Option Int
  | [] => some 0
  | e :: s => if e = 'e' ∨ e = 'E' then Text.integer? s else none

/-- Reads digits with maybe a point among them and an exponent behind them. One too large for a
double is not a number. -/
def unsignedDecimal? (negative : Bool) (s : List Char) : Option Double := do
  let whole := s.takeWhile Char.isDigit
  let rest := s.dropWhile Char.isDigit
  let (places, rest) := match rest with
    | '.' :: rest => (rest.takeWhile Char.isDigit, rest.dropWhile Char.isDigit)
    | _ => ([], rest)
  let exponent ← exponent? rest
  if whole ++ places = [] then none
  Double.ofDecimal? ⟨negative, Text.digitsValue (whole ++ places), exponent - places.length⟩

def decimal? (s : List Char) : Option Number :=
  match String.ofList s with
  | ".inf" | ".Inf" | ".INF" | "+.inf" | "+.Inf" | "+.INF" => some (.infinity false)
  | "-.inf" | "-.Inf" | "-.INF" => some (.infinity true)
  | ".nan" | ".NaN" | ".NAN" => some .notANumber
  | _ =>
    let (negative, digits) := splitSign s
    (unsignedDecimal? negative digits).map .decimal

/-- What is denoted by a word that is no word of its own. An integer between the two widths is
refused. -/
def plainNumber? (s : List Char) : Option Plain :=
  let decimal : Plain :=
    if isZeroLed (splitSign s).2 then .text
    else match decimal? s with
      | some n => .number n
      | none => .text
  match integer? s with
  | none => some decimal
  | some n =>
    match widthOf n with
    | .word => some (.number (.integer n))
    | .wide => none
    | .beyond => some decimal

def plain? (s : String) : Option Plain :=
  if s = "" ∨ isNull s then some .null
  else match bool? s with
    | some b => some (.bool b)
    | none => plainNumber? s.toList

end WorkloadScaling.Yaml
