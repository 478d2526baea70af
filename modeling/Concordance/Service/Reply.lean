/-!
# Replies

A service answers a request with a status and a body. The status is one of those of
the hypertext transfer protocol.
-/

namespace Concordance

/-- The outcome of a request, with its usual number. -/
inductive Status
  | ok
  | badRequest
  | unprocessable
  | unavailable
  deriving DecidableEq

/-- The number of a status. -/
def Status.code : Status → Nat
  | .ok => 200
  | .badRequest => 400
  | .unprocessable => 422
  | .unavailable => 503

/-- The answer to a request. -/
structure Reply (α : Type) where
  status : Status
  body : α

end Concordance
