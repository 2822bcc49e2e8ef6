import WorkloadScaling.Http.Address

/-!
# Endpoints

Where a server or a proxy is: a scheme with an authority and an address behind it, an authority
alone, or an address alone. An authority is a host, maybe with a user before it and a port after
it, and a host in brackets may hold colons.
-/
namespace WorkloadScaling.Http

def isSchemeChar (c : Char) : Bool :=
  c.isAlphanum || c == '+' || c == '-' || c == '.' || c == '~'

def maxSchemeLength : Nat := 64

/-- What stands before the first mark of a scheme, and what behind it. -/
def scheme? (s : List Char) : Option (List Char × List Char) :=
  let scheme := s.takeWhile isSchemeChar
  match s.dropWhile isSchemeChar with
  | ':' :: '/' :: '/' :: rest => some (scheme, rest)
  | _ => none

def isAuthorityChar (c : Char) : Bool :=
  c.isAlphanum || c ∈ ['!', '$', '&', '\'', '(', ')', '*', '+', ',', '-', '.', ':', ';', '=',
    '@', '[', ']', '_', '~']

def isAuthorityEnd (c : Char) : Bool := c == '/' || c == '?' || c == '#'

/-- What has been seen of an authority since its user, or since its bracketed host. -/
structure Seen where
  colons : Nat := 0
  opened : Bool := false
  closed : Bool := false
  percent : Bool := false
  deriving DecidableEq, Repr

/-- The most colons, those of a bracketed host and its port. -/
def maxColons : Nat := 8

def Seen.step (seen : Seen) (c : Char) : Option Seen :=
  match c with
  | ':' => if maxColons ≤ seen.colons then none else some { seen with colons := seen.colons + 1 }
  | '[' => if seen.percent || seen.opened then none else some { seen with opened := true }
  | ']' =>
    if !seen.opened || seen.closed then none
    else some { seen with closed := true, colons := 0, percent := false }
  | '@' => some { seen with colons := 0, percent := false }
  | '%' => some { seen with percent := true }
  | _ => if isAuthorityChar c then some seen else none

def isAuthority (s : List Char) : Bool :=
  match s.foldlM Seen.step {} with
  | some seen => seen.opened == seen.closed && decide (seen.colons ≤ 1) &&
      s.getLast? != some '@' && !seen.percent
  | none => false

def isPathAndQuery (s : List Char) : Bool :=
  let written := s.takeWhile (· ≠ '#')
  (written.takeWhile (· ≠ '?')).all isPathChar &&
    ((written.dropWhile (· ≠ '?')).drop 1).all isQueryChar

def isAuthorityAndPath (s : List Char) : Bool :=
  let authority := s.takeWhile (!isAuthorityEnd ·)
  authority ≠ [] && isAuthority authority && isPathAndQuery (s.dropWhile (!isAuthorityEnd ·))

def isEndpoint (s : String) : Bool :=
  decide (s.utf8ByteSize ≤ maxAddressLength) &&
    match s.toList with
    | [] => false
    | '/' :: rest => isPathAndQuery ('/' :: rest)
    | s =>
      match scheme? s with
      | some (scheme, rest) => decide (scheme.length ≤ maxSchemeLength) && isAuthorityAndPath rest
      | none => s.all (!isAuthorityEnd ·) && isAuthority s

end WorkloadScaling.Http
