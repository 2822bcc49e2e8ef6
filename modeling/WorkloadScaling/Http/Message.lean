import WorkloadScaling.Http.Address
import WorkloadScaling.Http.Status

/-!
# Requests and answers
-/
namespace WorkloadScaling.Http

inductive Method where
  | get
  | patch
  deriving DecidableEq, Repr

def Method.name : Method → String
  | get => "GET"
  | patch => "PATCH"

structure Request where
  method : Method
  address : Address
  accept : Option String := none
  contentType : Option String := none
  body : String := ""
  deriving DecidableEq, Repr

/-- What comes of a request: an answer, or the reason why there is none. -/
inductive Outcome where
  | answer (status : Nat) (body : ByteArray)
  | failed (message : String)

abbrev Server (τ : Type) := Request → τ → Outcome × τ

def Server.unreachable {τ : Type} (message : String) : Server τ :=
  fun _ state => (.failed message, state)

end WorkloadScaling.Http
