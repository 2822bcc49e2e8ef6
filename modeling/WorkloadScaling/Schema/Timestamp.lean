import WorkloadScaling.Text.Blank
import WorkloadScaling.Text.Digits

/-!
# Timestamps

Points in time as `2024-05-01T10:00:00Z`. Reading is lenient about blanks between the parts and
about the letter between date and time, and strict about the calendar.
-/
namespace WorkloadScaling.Timestamp

/-- A point in time: whole seconds since the beginning of 1970, universal time. -/
abbrev Instant := Int

def digits? (width : Nat) (s : List Char) : Option (Nat × List Char) :=
  let ds := (s.take width).takeWhile Char.isDigit
  if ds = [] then none else some (Text.digitsValue ds, s.drop ds.length)

def field? (width : Nat) (s : List Char) : Option (Nat × List Char) :=
  digits? width (Text.trimStart s)

/-- A year of up to four digits, or of any number of digits right behind a sign. -/
def year? (s : List Char) : Option (Int × List Char) :=
  match Text.trimStart s with
  | '-' :: rest => (digits? rest.length rest).map fun (n, rest) => (-(n : Int), rest)
  | '+' :: rest => (digits? rest.length rest).map fun (n, rest) => ((n : Int), rest)
  | rest => (digits? 4 rest).map fun (n, rest) => ((n : Int), rest)

def mark? (c : Char) (s : List Char) : Option (List Char) :=
  match Text.trimStart s with
  | d :: rest => if c = d then some rest else none
  | [] => none

def isLeap (year : Int) : Bool := year % 4 == 0 && (year % 100 != 0 || year % 400 == 0)

def daysIn (year : Int) (month : Nat) : Nat :=
  if month = 2 then (if isLeap year then 29 else 28)
  else if month ∈ [4, 6, 9, 11] then 30
  else 31

def firstYear : Int := -262143

def lastYear : Int := 262142

def isDate (year : Int) (month day : Nat) : Bool :=
  decide (firstYear ≤ year) && decide (year ≤ lastYear) && decide (1 ≤ month) &&
    decide (month ≤ 12) && decide (1 ≤ day) && decide (day ≤ daysIn year month)

def daysBeforeYear (year : Int) : Int :=
  let y := year - 1
  y * 365 + y / 4 - y / 100 + y / 400

def daysBeforeMonth (year : Int) (month : Nat) : Nat :=
  ((List.range month).drop 1).foldl (fun days earlier => days + daysIn year earlier) 0

def dayNumber (year : Int) (month day : Nat) : Int :=
  daysBeforeYear year - daysBeforeYear 1970 + Int.ofNat (daysBeforeMonth year month) +
    Int.ofNat day - 1

def secondsPerDay : Int := 86400

def isInstant (t : Instant) : Bool :=
  decide (dayNumber firstYear 1 1 * secondsPerDay ≤ t) &&
    decide (t < dayNumber (lastYear + 1) 1 1 * secondsPerDay)

def date? (s : List Char) : Option (Int × List Char) := do
  let (year, s) ← year? s
  let (month, s) ← field? 2 (← mark? '-' s)
  let (day, s) ← field? 2 (← mark? '-' s)
  if isDate year month day then some (dayNumber year month day, s) else none

def fraction? : List Char → Option (List Char)
  | '.' :: s => if (s.takeWhile Char.isDigit).isEmpty then none
    else some (s.dropWhile Char.isDigit)
  | s => some s

/-- The second of a day, and what follows the time. A minute may have a 61st second, which
counts with the one before it. -/
def time? (s : List Char) : Option (Int × List Char) := do
  let (hour, s) ← field? 2 s
  let (minute, s) ← field? 2 (← mark? ':' s)
  let (second, s) ← field? 2 (← mark? ':' s)
  if hour < 24 ∧ minute < 60 ∧ second ≤ 60 then
    some (hour * 3600 + minute * 60 + min second 59, ← fraction? s)
  else none

def isOffsetMark (c : Char) : Bool := c == ':' || Text.isBlank c

/-- The seconds that a place is ahead of universal time, and what follows them. -/
def offset? (s : List Char) : Option (Int × List Char) :=
  match Text.trimStart s with
  | 'Z' :: s | 'z' :: s => some (0, s)
  | u :: t :: c :: s =>
    if u.toUpper = 'U' ∧ t.toUpper = 'T' ∧ c.toUpper = 'C' then some (0, s)
    else if (u = '+' ∨ u = '-' ∨ u = '−') ∧ t.isDigit ∧ c.isDigit then
      match s.dropWhile isOffsetMark with
      | m :: n :: rest =>
        let hours := Text.digitsValue [t, c]
        let minutes := Text.digitsValue [m, n]
        let ahead : Int := hours * 3600 + minutes * 60
        if m.isDigit ∧ n.isDigit ∧ minutes < 60 ∧ hours < 24 then
          some (if u = '+' then ahead else -ahead, rest)
        else none
      | _ => none
    else none
  | _ => none

def ofText? (s : String) : Option Instant := do
  let (day, rest) ← date? s.toList
  let (second, rest) ← match rest with
    | 'T' :: rest | 't' :: rest | ' ' :: rest => time? rest
    | _ => none
  let (ahead, rest) ← offset? rest
  let t := day * secondsPerDay + second - ahead
  if (Text.trimStart rest).isEmpty && isInstant t then some t else none

def isTimestamp (s : String) : Bool := (ofText? s).isSome

end WorkloadScaling.Timestamp
