import ApiGateway.Proxy.Error

/-!
# The way to a backend

A request can be sent if its target has a host and, unless it asks for a tunnel, a scheme. Where no
backend can be reached every other request ends when the connection is made.
-/

namespace ApiGateway.Proxy

open Http

/-- The message for a request that failed for a cause. -/
def failureMessage (req : Request) (cause : String) : String :=
  "Request to " ++ req.method ++ " " ++ req.uri.text ++ " failed: client error (" ++ cause ++ ")"

/-- Why a request cannot be sent at all. -/
def refusal? (req : Request) : Option TransportError :=
  match req.uri with
  | .relative _ => some (.invalidRequest "Outgoing URI has no host")
  | .authority _ =>
    if req.method = "CONNECT" then none
    else some (.connection (failureMessage req "UserAbsoluteUriRequired"))
  | .absolute .. => none

/-- What comes of a request where no backend can be reached. -/
def unreachable (req : Request) : TransportError :=
  (refusal? req).getD (.connection (failureMessage req "Connect"))

end ApiGateway.Proxy
