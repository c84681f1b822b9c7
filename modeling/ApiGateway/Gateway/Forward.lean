import ApiGateway.Gateway.Basic
import ApiGateway.Proxy.Error
import ApiGateway.Proxy.Forwarded
import ApiGateway.Proxy.HopByHop

/-!
# Passing a request on

A request whose path leads to a backend is sent there with the fields of the hop removed and the
forwarded fields added; the answer comes back without the fields of its hop, unless the protocol
changes. Nothing else is touched (`backendRequest`, `clientResponse`).
-/

namespace ApiGateway.Gateway

open Http

/-- What a backend makes of a request. -/
abbrev Send := Request → Except Proxy.TransportError Response

/-- The field with the host that a request is for. -/
def hostField : FieldName := "host"

/-- The header fields of the request to a backend. -/
def backendHeaders (req : Request) (target : Uri) : Fields :=
  let host := req.headers.first? hostField
  let kept := Proxy.stripHop req.headers (Proxy.isUpgrade req.headers)
  let forwarded := Proxy.addForwarded kept req.peer host
  match target.authority? with
  | none => forwarded
  | some authority => forwarded.insert hostField (.ofAscii authority)

/-- The request to a backend. -/
def backendRequest (req : Request) (target : Uri) : Request :=
  { req with uri := target, headers := backendHeaders req target }

/-- The answer to the client: that of the backend, which is not touched if the protocol changes. -/
def clientResponse (req : Request) (answer : Response) : Response :=
  if Proxy.isUpgrade req.headers && answer.status = 101 then answer
  else { answer with headers := Proxy.stripHop answer.headers false }

/-- What became of a request: the answer, or why there is none; what the backend was sent; and the metrics after
it. -/
structure Forwarded where
  result : Except Proxy.Error Response
  sent : Option Request
  metrics : Metrics

/-- Sends a request to the backend at its base URL. -/
def forwardTo (send : Send) (m : Metrics) (backend : Backend) (base : Url) (req : Request) :
    Forwarded :=
  match Proxy.backendUri? base req.uri with
  | .error e =>
    { result := .error (.badUri backend e), sent := none
      metrics := m.recordProxyError backend.name "bad_uri" }
  | .ok target =>
    let request := backendRequest req target
    match send request with
    | .error e =>
      { result := .error (.transport backend e), sent := some request
        metrics := m.recordProxyError backend.name e.kind }
    | .ok answer =>
      { result := .ok (clientResponse req answer), sent := some request, metrics := m }

/-- Passes a request on to the backend that its path leads to. -/
def forward (g : Gateway) (send : Send) (req : Request) : Forwarded :=
  match g.lookup req.uri.path with
  | .unmatched => { result := .error .noRoute, sent := none, metrics := g.metrics }
  | .notReady _ =>
    { result := .error .notReady, sent := none
      metrics := g.metrics.recordUnavailable "not_ready" }
  | .absent backend =>
    { result := .error (.unavailable backend), sent := none
      metrics := g.metrics.recordUnavailable "upstream_absent" }
  | .found backend base => forwardTo send g.metrics backend base req

end ApiGateway.Gateway
