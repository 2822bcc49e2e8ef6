import WorkloadScaling.Http.Message

/-!
# Servers with fixed routes

A server that answers each method and path with what is written for it, and knows no other.
-/
namespace WorkloadScaling.Http

/-- Outcomes by method and path; the query does not matter. -/
abbrev Routes := List (String × Outcome)

namespace Routes

def unknownBody : String :=
  "\x7b\"apiVersion\":\"v1\",\"code\":404,\"kind\":\"Status\",\"message\":\"no such route\"," ++
    "\"reason\":\"NotFound\",\"status\":\"Failure\"\x7d"

def key (request : Request) : String :=
  request.method.name ++ " " ++ String.ofList request.address.path

/-- The answer to a request; of a route given twice the last counts. -/
def serve : Server Routes := fun request routes =>
  match routes.reverse.lookup (key request) with
  | some outcome => (outcome, routes)
  | none => (.answer 404 unknownBody.toUTF8, routes)

end Routes

end WorkloadScaling.Http
