import ApiGateway.Gateway.Forward
import ApiGateway.Limiter.ClientKey
import ApiGateway.Metrics.Exposition
import ApiGateway.Text.JsonText

/-!
# The way of a request through the gateway

Every request gets an id. It then passes the auth gate, the limiter and the metrics, in this order, and
is answered by a probe or by a backend. Probes are not limited and need no credential.
-/

namespace ApiGateway

open Http

namespace Gateway

/-- The field with the id of a request. -/
def requestIdField : FieldName := "x-request-id"

/-- The octets that an id cannot exceed. -/
def requestIdLimit : Nat := 128

/-- The id that a request brings along: text that is neither blank nor too long, trimmed. -/
def broughtId? (headers : Fields) : Option (List Char) := do
  let value ← headers.first? requestIdField
  let text ← value.text?
  let id := Text.trim text
  if id.isEmpty || requestIdLimit < id.length then none else some id

/-- The seconds that a client has to wait, at least one. -/
def retryAfterSecs (wait : Nat) : Nat :=
  max 1 (Time.secondsUp wait)

/-- The answer to a request without the right credential. -/
def unauthorized : Response :=
  (Response.ofText 401 "unauthorized").withField "www-authenticate" (.ofText "Bearer")

/-- The answer to a request that came too early. -/
def tooManyRequests (wait : Nat) : Response :=
  (Response.ofText 429 "rate limit exceeded").withField "retry-after"
    (.ofAscii (Number.digits (retryAfterSecs wait)))

/-- A text in JSON, or `null`. -/
def jsonOption : Option String → String
  | none => "null"
  | some s => Text.jsonText s

/-- The report of the readiness probe. -/
def readinessReport (t : Topology) : String :=
  "\x7b\"ready\":" ++ (if t.ready then "true" else "false") ++ ",\"resolved_at\":" ++
    jsonOption (t.snapshot.map fun s => s.resolvedAt.text) ++ ",\"last_error\":" ++
    jsonOption t.lastError ++ "\x7d"

/-- The answer of a probe to a `GET`. -/
def probeContent (g : Gateway) : Probe → Response
  | .health => .ofText 200 "ok"
  | .readiness =>
    .ofContent (if g.topology.ready then 200 else 503) "application/json"
      (readinessReport g.topology)
  | .metrics => .ofContent 200 "text/plain; version=0.0.4" g.metrics.text

/-- The methods that a probe answers. -/
def probeMethods : List Method := ["GET", "HEAD"]

/-- The answer of a probe to a request of the method. -/
def probeResponse (g : Gateway) (p : Probe) (method : Method) : Response :=
  if probeMethods.contains method then probeContent g p
  else { status := 405, headers := [⟨"allow", .ofText (Text.joined "," probeMethods)⟩] }

/-- What a request meets besides the gateway: the time of the clock that the limiter reads, in nanoseconds; an id
in case it brings none; how many seconds it takes to answer it; and the backends. -/
structure Surroundings where
  now : Nat
  freshId : List Char
  seconds : Number.Binary64
  send : Send

/-- What became of a request: the answer, what a backend was sent, and the gateway after it. -/
structure Outcome where
  response : Response
  sent : Option Request
  gateway : Gateway

/-- Answers a request at its destination: a probe or a backend. -/
def serve (g : Gateway) (around : Surroundings) (req : Request) : Outcome :=
  match Probe.ofPath? req.uri.path with
  | some p => { response := g.probeResponse p req.method, sent := none, gateway := g }
  | none =>
    let f := g.forward around.send req
    let response := match f.result with
      | .ok r => r
      | .error e => e.response
    { response, sent := f.sent, gateway := { g with metrics := f.metrics } }

/-- Answers a request at its destination and counts it. -/
def measure (g : Gateway) (around : Surroundings) (req : Request) : Outcome :=
  let o := g.serve around req
  let metrics :=
    o.gateway.metrics.observeRequest (Route.label req.uri.path) req.method o.response.status
      around.seconds
  { o with gateway := { o.gateway with metrics } }

/-- Lets a request pass the limiter. -/
def limit (g : Gateway) (around : Surroundings) (req : Request) : Outcome :=
  if Probe.isExempt req.uri.path then g.measure around req
  else
    match g.admitClient around.now (Limiter.clientKey req.headers req.peer) with
    | (.allowed, g) => g.measure around req
    | (.limited scope wait, g) =>
      { response := tooManyRequests wait, sent := none
        gateway := { g with metrics := g.metrics.recordRateLimited scope.name } }

/-- Lets a request pass the auth gate. -/
def authenticate (g : Gateway) (around : Surroundings) (req : Request) : Outcome :=
  match (g.gate.check req.uri.path req.headers).failure? with
  | none => g.limit around req
  | some failure =>
    { response := unauthorized, sent := none
      gateway := { g with metrics := g.metrics.recordAuthFailure failure.name } }

/-- Answers a request. -/
def handle (g : Gateway) (around : Surroundings) (req : Request) : Outcome :=
  let id := FieldValue.ofAscii ((broughtId? req.headers).getD around.freshId)
  let tagged := { req with headers := req.headers.insert requestIdField id }
  let o := g.authenticate around tagged
  { o with response := (o.response.withField requestIdField id).finish req.method }

/-- Answers a request, unless its client would get a bucket whose period the clock cannot count: the request
then gets no answer. -/
def handle? (g : Gateway) (around : Surroundings) (req : Request) : Option Outcome :=
  let o := g.handle around req
  if o.gateway.isBroken then none else some o

end Gateway

end ApiGateway
