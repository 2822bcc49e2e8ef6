/-!
# Failures of the control plane

What a call of the control plane can fail with, as far as the caller can tell it apart.
-/
namespace WorkloadScaling

structure Refusal where
  status : String
  message : String
  reason : String
  code : Nat
  deriving DecidableEq, Repr

inductive RemoteFailure where
  | refused (answer : Refusal)
  | unreachable (message : String)
  | undecodable
  | notText
  /-- The request has no valid address, so it was not sent. -/
  | unsendable
  /-- A discovery request has no valid address, so it was not sent. -/
  | unaddressable
  | credentials
  | encryption
  | badHeader
  deriving DecidableEq, Repr

end WorkloadScaling
