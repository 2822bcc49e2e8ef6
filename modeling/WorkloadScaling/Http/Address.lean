/-!
# Addresses of requests

The path of a request and its query, as they stand in an address that names no server. A hash
mark ends the address, and what follows it is dropped.
-/
namespace WorkloadScaling.Http

def maxAddressLength : Nat := 65534

/-- The characters that need no escape in a path, with the quote and the braces, which servers
let pass. -/
def isPathChar (c : Char) : Bool :=
  let n := c.toNat
  n == 0x21 || (decide (0x24 ≤ n) && decide (n ≤ 0x3B)) || n == 0x3D ||
    (decide (0x40 ≤ n) && decide (n ≤ 0x5F)) || (decide (0x61 ≤ n) && decide (n ≤ 0x7A)) ||
    n == 0x7C || n == 0x7E || c == '"' || c == '\x7b' || c == '\x7d'

def isQueryChar (c : Char) : Bool :=
  let n := c.toNat
  n == 0x21 || (decide (0x24 ≤ n) && decide (n ≤ 0x3B)) || n == 0x3D ||
    (decide (0x3F ≤ n) && decide (n ≤ 0x7E))

/-- A path, and the query after the first question mark if there is one. -/
structure Address where
  path : List Char
  query : Option (List Char)
  deriving DecidableEq, Repr

namespace Address

def ofText? (s : String) : Option Address :=
  if maxAddressLength < s.utf8ByteSize then none
  else
    let written := s.toList.takeWhile (· ≠ '#')
    let path := written.takeWhile (· ≠ '?')
    if path.head? = some '/' ∧ path.all isPathChar then
      match written.dropWhile (· ≠ '?') with
      | [] => some ⟨path, none⟩
      | _ :: query => if query.all isQueryChar then some ⟨path, some query⟩ else none
    else none

def text (a : Address) : String :=
  String.ofList (a.path ++ match a.query with
    | none => []
    | some query => '?' :: query)

end Address

end WorkloadScaling.Http
