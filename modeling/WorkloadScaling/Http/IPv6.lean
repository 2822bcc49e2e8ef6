import WorkloadScaling.Text.Digits
import WorkloadScaling.Text.Hex

/-!
# Hosts by number

Whether a host is written as an IPv6 number: eight groups between colons. One run of groups may
be left out, and the last two may be written as an IPv4 number.
-/
namespace WorkloadScaling.Http

def isGroup (s : List Char) : Bool :=
  decide (1 ≤ s.length) && decide (s.length ≤ 4) && (Text.hexDigits? s).isSome

def isOctet (s : List Char) : Bool :=
  decide (s.length ≤ 3) && (s.head? != some '0' || s.length == 1) &&
    ((Text.natural? s).any fun n => decide (n < 256))

def isIPv4 (s : List Char) : Bool :=
  let parts := s.splitOn '.'
  parts.length == 4 && parts.all isOctet

/-- How many groups are spelled by groups between colons; an IPv4 number counts as two, and
nothing as none. -/
def countGroups? (mayEndInIPv4 : Bool) (s : List Char) : Option Nat :=
  if s = [] then some 0
  else
    let parts := s.splitOn ':'
    let last := parts.getLastD []
    if !parts.dropLast.all isGroup then none
    else if isGroup last then some parts.length
    else if mayEndInIPv4 && isIPv4 last then some (parts.length + 1)
    else none

/-- What stands before the first two colons in a row, and what behind them. -/
def splitAtGap? : List Char → Option (List Char × List Char)
  | ':' :: ':' :: rest => some ([], rest)
  | c :: rest => (splitAtGap? rest).map fun (before, after) => (c :: before, after)
  | [] => none

def isIPv6 (s : List Char) : Bool :=
  match splitAtGap? s with
  | none => countGroups? true s == some 8
  | some (before, after) =>
    match countGroups? false before, countGroups? true after with
    | some m, some n => decide (m + n ≤ 7)
    | _, _ => false

end WorkloadScaling.Http
