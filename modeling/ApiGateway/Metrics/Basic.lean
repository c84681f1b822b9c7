import ApiGateway.Backend
import ApiGateway.Metrics.Histogram
import ApiGateway.Number.Integer

/-!
# What the gateway counts

One value holds all metrics of a gateway. Each event of the gateway is recorded by one function, which
changes the family of that event and no other.
-/

namespace ApiGateway

open Number (Binary64)

/-- The metrics of a gateway: requests by route, method and status, their durations by route and method, refused
credentials by reason, limited requests by scope, failed requests to backends by backend and kind, requests for
which no backend was known by reason, and look-ups by outcome; how many clients the limiter knows, whether the last
look-up succeeded, and when one did last, in seconds since the epoch. -/
structure Metrics where
  requests : Metrics.Tally := .empty
  durations : Metrics.Histograms := .empty
  authFailures : Metrics.Tally := .empty
  rateLimited : Metrics.Tally := .empty
  proxyErrors : Metrics.Tally := .empty
  unavailable : Metrics.Tally := .empty
  refreshes : Metrics.Tally := .empty
  trackedClients : Int := 0
  ready : Int := 0
  lastSuccess : Int := 0
  deriving DecidableEq, Repr, Inhabited

namespace Metrics

/-- The outcome of a look-up that succeeded. -/
def success : String := "success"

/-- The outcome of a look-up that failed. -/
def failure : String := "failure"

/-- The decimal text of a status. -/
def statusText (status : Nat) : String :=
  String.ofList (Number.digits status)

/-- Records an answered request. -/
def observeRequest (m : Metrics) (route method : String) (status : Nat) (seconds : Binary64) :
    Metrics :=
  { m with
    requests := m.requests.add [route, method, statusText status]
    durations := m.durations.observe [route, method] seconds }

/-- Records a refused credential. -/
def recordAuthFailure (m : Metrics) (reason : String) : Metrics :=
  { m with authFailures := m.authFailures.add [reason] }

/-- Records a limited request. -/
def recordRateLimited (m : Metrics) (scope : String) : Metrics :=
  { m with rateLimited := m.rateLimited.add [scope] }

/-- The integer of 64 bits, with a sign, that a count wraps to. -/
def wrapped (n : Nat) : Int :=
  Int.bmod n (Nat.pow 2 64)

/-- Records how many clients the limiter knows. -/
def setTrackedClients (m : Metrics) (count : Nat) : Metrics :=
  { m with trackedClients := wrapped count }

/-- Records a failed request to a backend. -/
def recordProxyError (m : Metrics) (backend kind : String) : Metrics :=
  { m with proxyErrors := m.proxyErrors.add [backend, kind] }

/-- Records a request for which no backend was known. -/
def recordUnavailable (m : Metrics) (reason : String) : Metrics :=
  { m with unavailable := m.unavailable.add [reason] }

/-- Records a look-up that succeeded. -/
def recordSuccess (m : Metrics) (unixSeconds : Int) : Metrics :=
  { m with
    refreshes := m.refreshes.add [success]
    ready := 1
    lastSuccess := unixSeconds }

/-- Records a look-up that failed. -/
def recordFailure (m : Metrics) : Metrics :=
  { m with
    refreshes := m.refreshes.add [failure]
    ready := 0 }

/-- A family of counters that can be read one by one. -/
inductive Counter where
  | proxyErrors
  | authFailures
  | rateLimited
  | refreshes
  deriving DecidableEq, Repr

/-- Reads a counter, which thereby comes to be. -/
def read (m : Metrics) (counter : Counter) (labels : Labels) : Nat × Metrics :=
  match counter with
  | .proxyErrors =>
    (m.proxyErrors.count labels, { m with proxyErrors := m.proxyErrors.touch labels })
  | .authFailures =>
    (m.authFailures.count labels, { m with authFailures := m.authFailures.touch labels })
  | .rateLimited =>
    (m.rateLimited.count labels, { m with rateLimited := m.rateLimited.touch labels })
  | .refreshes => (m.refreshes.count labels, { m with refreshes := m.refreshes.touch labels })

end Metrics

end ApiGateway
