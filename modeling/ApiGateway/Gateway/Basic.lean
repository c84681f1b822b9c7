import ApiGateway.Auth
import ApiGateway.Discovery.Refresh
import ApiGateway.Limiter.Basic
import ApiGateway.Metrics.Basic
import ApiGateway.Settings.Basic

/-!
# The state of a gateway

A gateway holds what a request meets on its way: the auth gate, the limiter if there is one, the
published topology and the metrics.
-/

namespace ApiGateway

/-- The state of a gateway. -/
structure Gateway where
  gate : Auth.Gate
  limiter : Option Limiter
  topology : Topology := {}
  metrics : Metrics := {}

namespace Gateway

/-- Why a gateway cannot be set up: authentication is on and there is no token, or the limiter cannot be
built. -/
inductive SetupError where
  | noToken
  | limiter (error : Limiter.SettingsError)
  deriving DecidableEq, Repr

namespace SetupError

/-- The message for the error. -/
def message : SetupError → String
  | .noToken => "auth is enabled but no auth token is configured"
  | .limiter e => "Failed to build rate limiter: " ++ e.message

end SetupError

/-- The auth gate of settings. -/
def gateOf? (s : Settings) : Except SetupError Auth.Gate :=
  if s.authEnabled then
    match s.token? with
    | some token => .ok ⟨some token⟩
    | none => .error .noToken
  else .ok ⟨none⟩

/-- The limiter of settings. -/
def limiterOf? (s : Settings) (now : Nat) (listing : Limiter.Listing) : Except SetupError (Option Limiter) :=
  match s.limiter? with
  | none => .ok none
  | some settings =>
    match Limiter.ofSettings? settings now listing with
    | .ok l => .ok (some l)
    | .error e => .error (.limiter e)

/-- A gateway that has seen no request. -/
def ofSettings? (s : Settings) (now : Nat) (listing : Limiter.Listing) : Except SetupError Gateway := do
  let gate ← gateOf? s
  let limiter ← limiterOf? s now listing
  return { gate, limiter }

/-- Where a path leads: to no backend, to one of which nothing is known yet, to one that is not deployed, or to
one at its base URL. -/
inductive Lookup where
  | unmatched
  | notReady (backend : Backend)
  | absent (backend : Backend)
  | found (backend : Backend) (base : Url)
  deriving DecidableEq, Repr

/-- Where a path leads. -/
def lookup (g : Gateway) (path : List Char) : Lookup :=
  match Route.backend? path with
  | none => .unmatched
  | some backend =>
    match g.topology.snapshot with
    | none => .notReady backend
    | some snapshot =>
      match snapshot.url? backend with
      | none => .absent backend
      | some base => .found backend base

/-- Lets a client in or not, and notes how many clients are known. -/
def admitClient (g : Gateway) (now : Nat) (client : Limiter.Client) : Limiter.Decision × Gateway :=
  match g.limiter with
  | none => (.allowed, g)
  | some limiter =>
    let (decision, limiter) := limiter.check now client
    (decision,
      { g with limiter := some limiter, metrics := g.metrics.setTrackedClients limiter.tracked })

/-- Records what came of a resolution. -/
def settle (g : Gateway) (outcome : Except Discovery.Error Snapshot) : Gateway :=
  { g with
    topology := Discovery.settle outcome g.topology
    metrics := Discovery.count outcome g.metrics }

/-- Holds if the limiter has a bucket whose period the clock cannot count. -/
def isBroken (g : Gateway) : Bool :=
  g.limiter.any Limiter.isBroken

/-- Lets a client in or not, unless the client would get a bucket whose period the clock cannot count. -/
def admitClient? (g : Gateway) (now : Nat) (client : Limiter.Client) : Option (Limiter.Decision × Gateway) :=
  let admitted := g.admitClient now client
  if admitted.2.isBroken then none else some admitted

end Gateway

end ApiGateway
