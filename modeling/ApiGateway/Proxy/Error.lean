import ApiGateway.Http.Message
import ApiGateway.Proxy.BackendUri
import ApiGateway.Backend

/-!
# Why a request is not served by a backend

A request fails at the gateway if no backend serves its path or none is known, or on its way to the
backend. Each failure is answered with a status of its own, and the way of a request to a backend fails
in one of three kinds.
-/

namespace ApiGateway.Proxy

open Http

/-- Why a request did not get through to a backend: the connection failed, the backend took too long, or the
request cannot be sent. -/
inductive TransportError where
  | connection (message : String)
  | timeout (seconds : Nat)
  | invalidRequest (message : String)
  deriving DecidableEq, Repr

namespace TransportError

/-- The name of the kind in metrics. -/
def kind : TransportError → String
  | .connection _ => "connect"
  | .timeout _ => "timeout"
  | .invalidRequest _ => "invalid_request"

/-- The message for the error. -/
def message : TransportError → String
  | .connection m => "Connection error: " ++ m
  | .timeout s => "Timeout error after " ++ String.ofList (Number.digits s) ++ " seconds"
  | .invalidRequest m => "Invalid request: " ++ m

end TransportError

/-- Why a request is not served by a backend: none serves the path; no snapshot was published yet; the backend is
not deployed; there is no target for the request; or it did not get through. -/
inductive Error where
  | noRoute
  | notReady
  | unavailable (backend : Backend)
  | badUri (backend : Backend) (error : BackendUriError)
  | transport (backend : Backend) (error : TransportError)
  deriving DecidableEq, Repr

namespace Error

/-- The message for the error. -/
def message : Error → String
  | .noRoute => "no route matches the request path"
  | .notReady => "gateway is not ready"
  | .unavailable _ => "upstream is unavailable"
  | .badUri backend e => "cannot build upstream URI for " ++ backend.name ++ ": " ++ e.message
  | .transport backend e => "upstream request to " ++ backend.name ++ " failed: " ++ e.message

/-- The status of the answer. -/
def status : Error → Nat
  | .noRoute => 404
  | .notReady => 503
  | .unavailable _ => 503
  | .badUri .. => 502
  | .transport .. => 502

/-- The body of the answer. -/
def body : Error → String
  | .noRoute => "not found"
  | .notReady => "gateway is not ready"
  | .unavailable _ => "upstream is unavailable"
  | .badUri .. => "bad gateway"
  | .transport .. => "bad gateway"

/-- The answer. -/
def response (e : Error) : Response :=
  .ofText e.status e.body

end Error

end ApiGateway.Proxy
