import ApiGateway.Proofs.Gateway.Isolation
import ApiGateway.Proofs.Metrics.Totals

/-!
# Every request is accounted for once

The counters of a gateway are bumped in four places, on the different ways that a request can leave it. `Booked`
sums up what one request writes in all: a refusal, a limit, the visit of a probe, or one of the five ways in which
it is passed on (`Passed`), each with the call to a backend that goes with it. From that `Balanced.book` says that
one request keeps the counters in balance with the requests served and the calls made, and `accounts_balance` that
every run does.
-/

namespace ApiGateway.Gateway

open Http Metrics

/-! ### The entries of the counters -/

/-- Holds for the labels of requests whose path leads to a backend. -/
def isRouted (labels : Labels) : Bool :=
  [Backend.primary, .analyzer].any fun b => labels[0]? = some (Route.familyName (some b))

/-- Holds for the labels of requests with the route and the method. -/
def isOf (route method : String) (labels : Labels) : Bool :=
  labels.take 2 = [route, method]

/-- Holds for the labels of requests for which there was no target. -/
def isBadUri (labels : Labels) : Bool :=
  labels[1]? = some "bad_uri"

/-- A request is booked as routed exactly if its path leads to a backend. -/
lemma isRouted_familyName (backend : Option Backend) (rest : Labels) :
    isRouted (Route.familyName backend :: rest) = backend.isSome := by
  cases backend with
  | none => rfl
  | some b => cases b <;> rfl

/-- A request for a probe is not booked as routed. -/
lemma isRouted_name (p : Probe) (rest : Labels) : isRouted (p.name :: rest) = false := by
  cases p <;> rfl

/-- No failed call is booked as one for which there is no target. -/
lemma isBadUri_kind (backend : String) (e : Proxy.TransportError) : isBadUri [backend, e.kind] = false := by
  cases e <;> rfl

/-! ### What a request writes -/

/-- What comes of a call to a backend. -/
abbrev Reply := Except Proxy.TransportError Response

/-- Holds for a call that failed. -/
def Reply.isFailed : Reply → Bool
  | .error _ => true
  | .ok _ => false

/-- What passing a request on writes, for the backend that its path leads to and the call that is made. -/
inductive Passed (m : Metrics) : Option Backend → Option Reply → Metrics → Prop
  | unmatched : Passed m none none m
  | unavailable (b : Backend) (reason : String) : Passed m (some b) none (m.recordUnavailable reason)
  | badUri (b : Backend) : Passed m (some b) none (m.recordProxyError b.name "bad_uri")
  | failed (b : Backend) (e : Proxy.TransportError) :
      Passed m (some b) (some (.error e)) (m.recordProxyError b.name e.kind)
  | answered (b : Backend) (answer : Response) : Passed m (some b) (some (.ok answer)) m

/-- What a request writes, for the call that is made. -/
inductive Booked : Metrics → Option Reply → Metrics → Prop
  | refused (m : Metrics) (reason : String) : Booked m none (m.recordAuthFailure reason)
  | limited (m : Metrics) (scope : String) : Booked m none (m.recordRateLimited scope)
  | probe (m : Metrics) (p : Probe) (method : Method) (status : Nat) (seconds : Number.Binary64) :
      Booked m none (m.observeRequest p.name method status seconds)
  | served {m m' : Metrics} {backend : Option Backend} {call : Option Reply} (h : Passed m backend call m')
      (method : Method) (status : Nat) (seconds : Number.Binary64) :
      Booked m call (m'.observeRequest (Route.familyName backend) method status seconds)
  | tracked {m m' : Metrics} {call : Option Reply} (clients : Nat) (h : Booked (m.setTrackedClients clients) call m') :
      Booked m call m'

/-- The call that is made for a request, if one is. -/
def Outcome.call (o : Outcome) (around : Surroundings) : Option Reply :=
  o.sent.map around.send

/-- Passing a request on writes what there is to write for the call that is made. -/
lemma passed_forward (g : Gateway) (send : Send) (req : Request) :
    Passed g.metrics (Route.backend? req.uri.path) ((g.forward send req).sent.map send)
      (g.forward send req).metrics := by
  unfold forward lookup
  cases Route.backend? req.uri.path with
  | none => exact .unmatched
  | some backend =>
    cases g.topology.snapshot with
    | none => exact .unavailable backend _
    | some snapshot =>
      cases hurl : snapshot.url? backend with
      | none =>
        simp only [hurl]
        exact .unavailable backend _
      | some base =>
        simp only [hurl, forwardTo]
        cases Proxy.backendUri? base req.uri with
        | error e => exact .badUri backend
        | ok target =>
          cases hsend : send (backendRequest req target) with
          | error e =>
            simp only [hsend, Option.map_some]
            exact .failed backend e
          | ok answer =>
            simp only [hsend, Option.map_some]
            exact .answered backend answer

/-- Measuring a request writes what there is to write for the call that is made. -/
lemma booked_measure (g : Gateway) (around : Surroundings) (req : Request) :
    Booked g.metrics ((g.measure around req).call around) (g.measure around req).gateway.metrics := by
  unfold measure serve Outcome.call Route.label
  cases Probe.ofPath? req.uri.path with
  | some p => exact .probe g.metrics p req.method _ _
  | none => exact .served (passed_forward g around.send req) req.method _ _

/-- The limiter books nothing of a client that it lets in but how many clients it knows. -/
lemma booked_admitClient {g g' : Gateway} {now : Nat} {client : Limiter.Client} {decision : Limiter.Decision}
    (hd : g.admitClient now client = (decision, g')) {call : Option Reply} {m : Metrics}
    (h : Booked g'.metrics call m) : Booked g.metrics call m := by
  unfold admitClient at hd
  cases hl : g.limiter with
  | none =>
    rw [hl] at hd
    cases hd
    exact h
  | some limiter =>
    rw [hl] at hd
    cases hd
    exact .tracked _ h

/-- Limiting a request first writes what there is to write for the call that is made. -/
lemma booked_limit (g : Gateway) (around : Surroundings) (req : Request) :
    Booked g.metrics ((g.limit around req).call around) (g.limit around req).gateway.metrics := by
  cases hp : Probe.isExempt req.uri.path with
  | true =>
    rw [limit_probe hp]
    exact booked_measure g around req
  | false =>
    cases hd : g.admitClient around.now (Limiter.clientKey req.headers req.peer) with
    | mk decision g' =>
      apply booked_admitClient hd
      cases decision with
      | allowed =>
        rw [limit_of_allowed hp hd]
        exact booked_measure g' around req
      | limited scope wait =>
        rw [limit_of_limited hp hd]
        exact .limited g'.metrics scope.name

/-- Handling a request writes what there is to write for the call that is made. -/
lemma booked_handle (g : Gateway) (around : Surroundings) (req : Request) :
    Booked g.metrics ((g.handle around req).call around) (g.handle around req).gateway.metrics := by
  rw [handle_eq]
  unfold delivered authenticate
  cases (g.gate.check (tagged around req).uri.path (tagged around req).headers).failure? with
  | none => exact booked_limit g around (tagged around req)
  | some failure => exact .refused g.metrics failure.name

/-! ### The balance -/

/-- The durations of a route and a method are as many as the requests with them, whatever their status. -/
def Timed (m : Metrics) : Prop :=
  ∀ route method, m.durations.count [route, method] = m.requests.totalWhere (isOf route method)

/-- The counters are in balance with the number of requests served and the calls to backends. -/
structure Balanced (m : Metrics) (served : Nat) (calls : List Reply) : Prop where
  served : served = m.requests.total + m.authFailures.total + m.rateLimited.total
  timed : Timed m
  routed : m.requests.totalWhere isRouted =
    calls.length + m.unavailable.total + m.proxyErrors.totalWhere isBadUri
  failed : calls.countP Reply.isFailed = m.proxyErrors.totalWhere fun labels => !isBadUri labels

/-- The two families agree after a request too. -/
lemma Timed.observeRequest {m : Metrics} (h : Timed m) (route method : String) (status : Nat)
    (seconds : Number.Binary64) : Timed (m.observeRequest route method status seconds) := by
  intro route' method'
  have htotal : (m.observeRequest route method status seconds).requests.totalWhere (isOf route' method') =
      m.requests.totalWhere (isOf route' method') + if isOf route' method' [route, method, statusText status] then 1
        else 0 := Tally.totalWhere_add m.requests _ _
  rw [htotal, ← h]
  by_cases hsame : [route, method] = [route', method']
  · have hof : isOf route' method' [route, method, statusText status] = true := decide_eq_true hsame
    rw [hof, ← hsame]
    exact Histograms.count_observe_self m.durations _ seconds
  · have hof : isOf route' method' [route, method, statusText status] = false := decide_eq_false hsame
    rw [hof]
    exact Histograms.count_observe_of_ne m.durations hsame seconds

/-- The accounts of fresh metrics are balanced. -/
lemma Balanced.fresh : Balanced {} 0 [] :=
  ⟨rfl, fun _ _ => rfl, rfl, rfl⟩

/-- The balance of what was passed on, which lacks the request itself as long as it is not measured. -/
lemma Passed.routed_eq {m m' : Metrics} {backend : Option Backend} {call : Option Reply}
    (h : Passed m backend call m') :
    m'.unavailable.total + m'.proxyErrors.totalWhere isBadUri + call.toList.length =
      m.unavailable.total + m.proxyErrors.totalWhere isBadUri + if backend.isSome then 1 else 0 := by
  cases h with
  | unmatched => rfl
  | unavailable b reason =>
    have htotal : (m.recordUnavailable reason).unavailable.total = m.unavailable.total + 1 :=
      Tally.total_add m.unavailable _
    rw [htotal]
    exact Nat.add_right_comm _ 1 _
  | badUri b =>
    have htotal : (m.recordProxyError b.name "bad_uri").proxyErrors.totalWhere isBadUri =
        m.proxyErrors.totalWhere isBadUri + 1 := Tally.totalWhere_add m.proxyErrors _ _
    rw [htotal]
    rfl
  | failed b e =>
    have htotal : (m.recordProxyError b.name e.kind).proxyErrors.totalWhere isBadUri =
        m.proxyErrors.totalWhere isBadUri := by
      rw [recordProxyError, Tally.totalWhere_add, isBadUri_kind]
      rfl
    rw [htotal]
    rfl
  | answered b answer => rfl

/-- A call fails exactly if an error that is not one of a target is counted. -/
lemma Passed.failed_eq {m m' : Metrics} {backend : Option Backend} {call : Option Reply}
    (h : Passed m backend call m') :
    (m'.proxyErrors.totalWhere fun labels => !isBadUri labels) =
      (m.proxyErrors.totalWhere fun labels => !isBadUri labels) + call.toList.countP Reply.isFailed := by
  cases h with
  | unmatched => rfl
  | unavailable b reason => rfl
  | badUri b => exact Tally.totalWhere_add m.proxyErrors _ _
  | failed b e =>
    rw [recordProxyError, Tally.totalWhere_add, isBadUri_kind]
    rfl
  | answered b answer => rfl

/-- Passing a request on leaves the other families alone. -/
lemma Passed.others_eq {m m' : Metrics} {backend : Option Backend} {call : Option Reply}
    (h : Passed m backend call m') :
    m'.requests = m.requests ∧ m'.durations = m.durations ∧ m'.authFailures = m.authFailures ∧
      m'.rateLimited = m.rateLimited := by
  cases h <;> exact ⟨rfl, rfl, rfl, rfl⟩

/-- One more request keeps the balance. -/
lemma Balanced.book {m m' : Metrics} {served : Nat} {calls : List Reply} {call : Option Reply}
    (h : Balanced m served calls) (hbooked : Booked m call m') :
    Balanced m' (served + 1) (calls ++ call.toList) := by
  induction hbooked with
  | refused m reason =>
    rw [Option.toList_none, List.append_nil]
    refine ⟨?_, h.timed, h.routed, h.failed⟩
    simp only [recordAuthFailure, Tally.total_add, h.served]
    omega
  | limited m scope =>
    rw [Option.toList_none, List.append_nil]
    refine ⟨?_, h.timed, h.routed, h.failed⟩
    simp only [recordRateLimited, Tally.total_add, h.served]
    omega
  | probe m p method status seconds =>
    rw [Option.toList_none, List.append_nil]
    refine ⟨?_, h.timed.observeRequest _ _ _ _, ?_, h.failed⟩
    · simp only [observeRequest, Tally.total_add, h.served]
      omega
    · simp only [observeRequest, Tally.totalWhere_add, isRouted_name]
      exact h.routed
  | @served m m' backend call hpassed method status seconds =>
    -- the call is booked where the request is passed on, and the request itself after that
    obtain ⟨hrequests, hdurations, hauth, hlimited⟩ := hpassed.others_eq
    have htimed : Timed m' := by
      intro route method
      rw [hrequests, hdurations]
      exact h.timed route method
    refine ⟨?_, htimed.observeRequest _ _ _ _, ?_, ?_⟩
    · simp only [observeRequest, Tally.total_add, hrequests, hauth, hlimited, h.served]
      omega
    · have hrouted := hpassed.routed_eq
      simp only [observeRequest, Tally.totalWhere_add, isRouted_familyName, hrequests, h.routed,
        List.length_append]
      omega
    · rw [List.countP_append, h.failed]
      exact hpassed.failed_eq.symm
  | tracked clients _ ih =>
    apply ih
    unfold setTrackedClients
    exact ⟨h.served, fun route method => h.timed route method, h.routed, h.failed⟩

/-! ### Runs -/

/-- Holds for requests. -/
def Event.isRequest : Event → Bool
  | .request .. => true
  | _ => false

/-- The call to a backend that an event makes. -/
def callOf (g : Gateway) : Event → Option Reply
  | .request around req => (g.handle around req).call around
  | _ => none

/-- The calls to backends that a run makes, in their order. -/
def calls (g : Gateway) : List Event → List Reply
  | [] => []
  | e :: rest => (g.callOf e).toList ++ (g.step e).calls rest

/-- Balanced accounts stay so in a step. -/
lemma Balanced.step {g : Gateway} {served : Nat} {calls : List Reply} (h : Balanced g.metrics served calls)
    (e : Event) :
    Balanced (g.step e).metrics (served + if e.isRequest then 1 else 0) (calls ++ (g.callOf e).toList) := by
  cases e with
  | request around req => exact h.book (booked_handle g around req)
  | publish snapshot => simpa [Gateway.step, callOf, Event.isRequest] using h
  | fail message => simpa [Gateway.step, callOf, Event.isRequest] using h
  | settle outcome =>
    have hsettle : Balanced (g.settle outcome).metrics served calls := by
      cases outcome with
      | ok snapshot => exact ⟨h.served, h.timed, h.routed, h.failed⟩
      | error e => exact ⟨h.served, h.timed, h.routed, h.failed⟩
    simpa [Gateway.step, callOf, Event.isRequest] using hsettle

/-- Balanced accounts stay so in a run of any length. -/
lemma Balanced.after {g : Gateway} {served : Nat} {calls : List Reply} (h : Balanced g.metrics served calls)
    (events : List Event) :
    Balanced (g.after events).metrics (served + events.countP Event.isRequest) (calls ++ g.calls events) := by
  induction events generalizing g served calls with
  | nil =>
    rw [Gateway.calls, List.append_nil]
    exact h
  | cons e rest ih =>
    have hrest := ih (h.step e)
    rw [List.append_assoc, Nat.add_assoc, Nat.add_comm (ite _ 1 0)] at hrest
    rw [List.countP_cons]
    exact hrest

/-- After every run of requests and changes of the topology on a gateway that has counted nothing, whatever its
gate and its limiter are and whatever backends answer: the requests served are the requests measured, refused and
limited; the durations of a route and a method are as many as the requests measured with them; the requests
measured whose path leads to a backend are the calls to backends and the requests for which there was no base URL or
no target; and the calls that failed are the other errors counted. -/
theorem accounts_balance (gate : Auth.Gate) (limiter : Option Limiter) (topology : Topology)
    (events : List Event) :
    let g : Gateway := { gate, limiter, topology }
    Balanced (g.after events).metrics (events.countP Event.isRequest) (g.calls events) := by
  intro g
  have h : Balanced g.metrics 0 [] := .fresh
  simpa using h.after events

end ApiGateway.Gateway
