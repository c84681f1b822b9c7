import ApiGateway.Gateway.Pipeline
import ApiGateway.Proofs.Route.Specificity
import Mathlib.Tactic.Lemma

/-!
# What a request has to pass

A request is sent to a backend exactly if its credential is not refused, its client is within the limits,
its path leads to a backend whose base URL is known, and that URL and the target of the request make up the
target to send. `Stage.all` lists these checks in the order in which a request meets them, and
`handle_admission` says that the first one that fails decides the answer, that a backend is asked once at
the most, and that probes are answered by the gateway alone.

The layers are gone through from the inside out: `forward`, `serve`, `measure`, `limit`, `authenticate` and
`handle`, each with a lemma on what is sent and what the answer's status is.
-/

namespace ApiGateway.Gateway

open Http

/-- A check on the way to a backend: the auth gate does not refuse the credential, the limiter lets the client in,
the path leads to a backend, the base URL of that is known, and there is a target for the request. -/
inductive Stage where
  | credential
  | limit
  | route
  | topology
  | target
  deriving DecidableEq, Repr

namespace Stage

/-- All stages, in the order in which a request meets them. -/
def all : List Stage := [.credential, .limit, .route, .topology, .target]

/-- The status of the answer to a request that fails here. -/
def status : Stage → Nat
  | .credential => 401
  | .limit => 429
  | .route => 404
  | .topology => 503
  | .target => 502

/-- Holds if the request fails here. -/
def fails (g : Gateway) (now : Nat) (req : Request) : Stage → Bool
  | .credential => (g.gate.check req.uri.path req.headers).failure?.isSome
  | .limit => !(g.admitClient now (Limiter.clientKey req.headers req.peer)).1.isAllowed
  | .route => g.lookup req.uri.path = .unmatched
  | .topology =>
    match g.lookup req.uri.path with
    | .notReady _ => true
    | .absent _ => true
    | _ => false
  | .target =>
    match g.lookup req.uri.path with
    | .found _ base => !(Proxy.backendUri? base req.uri).isOk
    | _ => false

end Stage

/-- The first check that the request fails. -/
def firstFailure? (g : Gateway) (now : Nat) (req : Request) : Option Stage :=
  Stage.all.find? fun stage => stage.fails g now req

/-! ### Passing a request on -/

/-- The check that a request fails when it is passed on. -/
def undeliverable? (g : Gateway) (req : Request) : Option Stage :=
  match g.lookup req.uri.path with
  | .unmatched => some .route
  | .notReady _ => some .topology
  | .absent _ => some .topology
  | .found _ base =>
    match Proxy.backendUri? base req.uri with
    | .error _ => some .target
    | .ok _ => none

/-- The status of an answer of a backend, or of the gateway for it. -/
def answerStatus : Except Proxy.TransportError Response → Nat
  | .ok answer => answer.status
  | .error _ => 502

/-- The status of what comes of passing a request on. -/
def Forwarded.status (f : Forwarded) : Nat :=
  match f.result with
  | .ok answer => answer.status
  | .error e => e.status

/-- An answer keeps its status on the way to the client. -/
lemma status_clientResponse (req : Request) (answer : Response) :
    (clientResponse req answer).status = answer.status := by
  unfold clientResponse
  split <;> rfl

/-- A request for which there is a target is sent, and what becomes of it hangs on the answer to it. -/
lemma forwardTo_of_target {base : Url} {req : Request} {target : Uri}
    (h : Proxy.backendUri? base req.uri = .ok target) (send : Send) (m : Metrics) (backend : Backend) :
    (forwardTo send m backend base req).sent = some (backendRequest req target) ∧
      (forwardTo send m backend base req).status = answerStatus (send (backendRequest req target)) := by
  unfold forwardTo
  rw [h]
  simp only
  cases send (backendRequest req target) with
  | error e => exact ⟨rfl, rfl⟩
  | ok answer => exact ⟨rfl, status_clientResponse req answer⟩

/-- A request that is passed on fails a check, with the same outcome whatever backends would answer, or it is
sent to the backend that its path leads to. -/
lemma forward_cases (g : Gateway) (req : Request) :
    (∃ stage outcome, g.undeliverable? req = some stage ∧ (∀ send, g.forward send req = outcome) ∧
        outcome.sent = none ∧ outcome.status = stage.status) ∨
      ∃ backend base target, g.lookup req.uri.path = .found backend base ∧
        Proxy.backendUri? base req.uri = .ok target ∧ g.undeliverable? req = none ∧
          ∀ send, g.forward send req = forwardTo send g.metrics backend base req := by
  unfold undeliverable? forward
  cases g.lookup req.uri.path with
  | unmatched => exact .inl ⟨.route, _, rfl, fun _ => rfl, rfl, rfl⟩
  | notReady backend => exact .inl ⟨.topology, _, rfl, fun _ => rfl, rfl, rfl⟩
  | absent backend => exact .inl ⟨.topology, _, rfl, fun _ => rfl, rfl, rfl⟩
  | found backend base =>
    simp only
    cases hu : Proxy.backendUri? base req.uri with
    | ok target => exact .inr ⟨backend, base, target, rfl, hu, rfl, fun _ => rfl⟩
    | error e =>
      have hbad (send : Send) : forwardTo send g.metrics backend base req =
          ⟨.error (.badUri backend e), none, g.metrics.recordProxyError backend.name "bad_uri"⟩ := by
        rw [forwardTo, hu]
      exact .inl ⟨.target, _, rfl, hbad, rfl, rfl⟩

/-- No check fails exactly if the path leads to a base URL and there is a target. -/
lemma undeliverable?_eq_none_iff {g : Gateway} {req : Request} :
    g.undeliverable? req = none ↔
      ∃ backend base target, g.lookup req.uri.path = .found backend base ∧
        Proxy.backendUri? base req.uri = .ok target := by
  constructor
  · intro h
    obtain ⟨stage, _, hstage, _⟩ | ⟨backend, base, target, hl, hu, _⟩ := g.forward_cases req
    · rw [h] at hstage
      cases hstage
    · exact ⟨backend, base, target, hl, hu⟩
  · rintro ⟨backend, base, target, hl, hu⟩
    unfold undeliverable?
    rw [hl]
    simp only [hu]

/-- Nothing is asked of a backend but what it is sent. -/
lemma forward_congr {g : Gateway} {send send' : Send} {req : Request}
    (h : ∀ r, (g.forward send req).sent = some r → send' r = send r) :
    g.forward send' req = g.forward send req := by
  obtain ⟨_, outcome, _, hforward, _⟩ | ⟨backend, base, target, _, hu, _, hforward⟩ := g.forward_cases req
  · rw [hforward, hforward]
  · have hsend : send' (backendRequest req target) = send (backendRequest req target) := by
      apply h
      rw [hforward]
      exact (forwardTo_of_target hu send g.metrics backend).1
    rw [hforward, hforward, forwardTo, forwardTo, hu]
    simp only
    rw [hsend]

/-! ### The destination -/

/-- A probe is answered by the gateway alone. -/
lemma serve_probe {g : Gateway} {req : Request} {p : Probe} (hp : Probe.ofPath? req.uri.path = some p)
    (around : Surroundings) :
    g.serve around req = { response := g.probeResponse p req.method, sent := none, gateway := g } := by
  unfold serve
  rw [hp]

/-- Any other request is passed on and answered with the status of what comes of that. -/
lemma serve_backend {g : Gateway} {req : Request} (hp : Probe.ofPath? req.uri.path = none)
    (around : Surroundings) :
    (g.serve around req).sent = (g.forward around.send req).sent ∧
      (g.serve around req).response.status = (g.forward around.send req).status := by
  unfold serve Forwarded.status
  rw [hp]
  refine ⟨rfl, ?_⟩
  simp only
  cases (g.forward around.send req).result with
  | ok answer => rfl
  | error e => rfl

/-- Nothing is asked of a backend but what it is sent. -/
lemma measure_congr {g : Gateway} {around : Surroundings} {send : Send} {req : Request}
    (h : ∀ r, (g.measure around req).sent = some r → send r = around.send r) :
    g.measure { around with send } req = g.measure around req := by
  have hserve : g.serve { around with send } req = g.serve around req := by
    cases hp : Probe.ofPath? req.uri.path with
    | some p => rw [serve_probe hp, serve_probe hp]
    | none =>
      have hforward : g.forward send req = g.forward around.send req := by
        apply forward_congr
        intro r hr
        apply h
        rw [← hr]
        exact (serve_backend hp around).1
      unfold serve
      rw [hp]
      simp only
      rw [hforward]
  unfold measure
  simp only
  rw [hserve]

/-! ### The limiter -/

/-- Probes are not limited. -/
lemma limit_probe {g : Gateway} {req : Request} (hp : Probe.isExempt req.uri.path = true)
    (around : Surroundings) : g.limit around req = g.measure around req :=
  if_pos hp

/-- A client that is let in is counted and served. -/
lemma limit_of_allowed {g g' : Gateway} {around : Surroundings} {req : Request}
    (hp : Probe.isExempt req.uri.path = false)
    (h : g.admitClient around.now (Limiter.clientKey req.headers req.peer) = (.allowed, g')) :
    g.limit around req = g'.measure around req := by
  unfold limit
  rw [if_neg (by simp [hp]), h]

/-- A client that is not let in is answered at once. -/
lemma limit_of_limited {g g' : Gateway} {around : Surroundings} {req : Request} {scope : Limiter.Scope}
    {wait : Nat} (hp : Probe.isExempt req.uri.path = false)
    (h : g.admitClient around.now (Limiter.clientKey req.headers req.peer) = (.limited scope wait, g')) :
    g.limit around req =
      { response := tooManyRequests wait, sent := none
        gateway := { g' with metrics := g'.metrics.recordRateLimited scope.name } } := by
  unfold limit
  rw [if_neg (by simp [hp]), h]

/-- Nothing is asked of a backend but what it is sent. -/
lemma limit_congr {g : Gateway} {around : Surroundings} {send : Send} {req : Request}
    (h : ∀ r, (g.limit around req).sent = some r → send r = around.send r) :
    g.limit { around with send } req = g.limit around req := by
  cases hp : Probe.isExempt req.uri.path with
  | true =>
    rw [limit_probe hp] at h
    rw [limit_probe hp, limit_probe hp]
    exact measure_congr h
  | false =>
    cases hd : g.admitClient around.now (Limiter.clientKey req.headers req.peer) with
    | mk decision g' =>
      cases decision with
      | allowed =>
        rw [limit_of_allowed hp hd] at h
        rw [limit_of_allowed hp hd, limit_of_allowed hp (by exact hd)]
        exact measure_congr h
      | limited scope wait => rw [limit_of_limited hp hd, limit_of_limited hp (by exact hd)]

/-! ### The auth gate and the id -/

/-- Nothing is asked of a backend but what it is sent. -/
lemma authenticate_congr {g : Gateway} {around : Surroundings} {send : Send} {req : Request}
    (h : ∀ r, (g.authenticate around req).sent = some r → send r = around.send r) :
    g.authenticate { around with send } req = g.authenticate around req := by
  unfold authenticate at h ⊢
  cases hf : (g.gate.check req.uri.path req.headers).failure? with
  | none =>
    rw [hf] at h
    exact limit_congr h
  | some failure => rfl

/-- The id of a request. -/
def requestId (around : Surroundings) (req : Request) : FieldValue :=
  .ofAscii ((broughtId? req.headers).getD around.freshId)

/-- The request as the gate meets it, with its id. -/
def tagged (around : Surroundings) (req : Request) : Request :=
  { req with headers := req.headers.insert requestIdField (requestId around req) }

/-- The outcome as the client gets it, with the id and finished for the method. -/
def delivered (around : Surroundings) (req : Request) (o : Outcome) : Outcome :=
  { o with
    response := (o.response.withField requestIdField (requestId around req)).finish req.method }

/-- A request is tagged, goes through the gate, and its outcome is delivered. -/
lemma handle_eq (g : Gateway) (around : Surroundings) (req : Request) :
    g.handle around req = delivered around req (g.authenticate around (tagged around req)) := rfl

/-- The answer leaves with the status that it has. -/
lemma status_finish (method : Method) (r : Response) : (r.finish method).status = r.status := by
  have hlength : r.withLength.status = r.status := by
    unfold Response.withLength
    split <;> rfl
  unfold Response.finish
  split
  · rfl
  · simp only
    split
    · exact hlength
    · exact hlength

/-- The status of the answer is the one behind the gate. -/
lemma status_handle (g : Gateway) (around : Surroundings) (req : Request) :
    (g.handle around req).response.status =
      (g.authenticate around (tagged around req)).response.status := by
  rw [handle_eq]
  exact status_finish req.method _

/-- Nothing is asked of a backend but what it is sent. -/
lemma handle_congr {g : Gateway} {around : Surroundings} {send : Send} {req : Request}
    (h : ∀ r, (g.handle around req).sent = some r → send r = around.send r) :
    g.handle { around with send } req = g.handle around req := by
  have hgate : g.authenticate { around with send } (tagged around req) =
      g.authenticate around (tagged around req) := authenticate_congr h
  rw [handle_eq, handle_eq]
  exact congrArg (delivered around req) hgate

/-- The id does not come between other fields and those who read them. -/
lemma first?_tagged (around : Surroundings) (req : Request) {name : FieldName} (h : requestIdField ≠ name) :
    (tagged around req).headers.first? name = req.headers.first? name := by
  unfold Fields.first?
  rw [tagged, Fields.values_insert_of_ne _ _ h]

/-- The checks are the same with the id and without. -/
lemma fails_tagged (g : Gateway) (now : Nat) (around : Surroundings) (req : Request) (stage : Stage) :
    stage.fails g now (tagged around req) = stage.fails g now req := by
  have hcheck : g.gate.check (tagged around req).uri.path (tagged around req).headers =
      g.gate.check req.uri.path req.headers := by
    unfold Auth.Gate.check
    rw [first?_tagged around req (by decide)]
    rfl
  have hkey : Limiter.clientKey (tagged around req).headers (tagged around req).peer =
      Limiter.clientKey req.headers req.peer :=
    Limiter.clientKey_congr (first?_tagged around req (by decide)) req.peer
  cases stage with
  | credential => rw [Stage.fails, Stage.fails, hcheck]
  | limit => rw [Stage.fails, Stage.fails, hkey]
  | route => rfl
  | topology => rfl
  | target => rfl

/-! ### Admission -/

/-- Letting a client in does not change where paths lead. -/
lemma lookup_admitClient {g g' : Gateway} {now : Nat} {client : Limiter.Client} {decision : Limiter.Decision}
    (h : g.admitClient now client = (decision, g')) (path : List Char) : g'.lookup path = g.lookup path := by
  unfold admitClient at h
  cases hl : g.limiter with
  | none =>
    rw [hl] at h
    cases h
    rfl
  | some limiter =>
    rw [hl] at h
    cases h
    rfl

/-- No probe path leads to a backend. -/
lemma lookup_probe {g : Gateway} {path : List Char} {p : Probe} (hp : Probe.ofPath? path = some p) :
    g.lookup path = .unmatched := by
  rw [lookup, Route.backend?_probe hp]

/-- Probes need no credential. -/
lemma check_probe {gate : Auth.Gate} {path : List Char} (hp : Probe.isExempt path = true)
    (headers : Fields) : gate.check path headers = .bypass := by
  unfold Auth.Gate.check
  cases gate.token with
  | none => rfl
  | some token => exact if_pos hp

/-- A refused credential is the first thing to fail. -/
lemma firstFailure?_of_refused {g : Gateway} {now : Nat} {req : Request} {failure : Auth.Failure}
    (h : (g.gate.check req.uri.path req.headers).failure? = some failure) :
    g.firstFailure? now req = some .credential := by
  simp [firstFailure?, Stage.all, Stage.fails, h]

/-- With the right credential the limit is the first thing to fail. -/
lemma firstFailure?_of_limited {g : Gateway} {now : Nat} {req : Request} {scope : Limiter.Scope} {wait : Nat}
    (h : (g.gate.check req.uri.path req.headers).failure? = none)
    (hd : (g.admitClient now (Limiter.clientKey req.headers req.peer)).1 = .limited scope wait) :
    g.firstFailure? now req = some .limit := by
  simp [firstFailure?, Stage.all, Stage.fails, h, hd, Limiter.Decision.isAllowed]

/-- Of a client that is let in, the first thing to fail is what fails when the request is passed on. -/
lemma firstFailure?_of_allowed {g : Gateway} {now : Nat} {req : Request}
    (h : (g.gate.check req.uri.path req.headers).failure? = none)
    (hd : (g.admitClient now (Limiter.clientKey req.headers req.peer)).1 = .allowed) :
    g.firstFailure? now req = g.undeliverable? req := by
  unfold undeliverable?
  cases hl : g.lookup req.uri.path with
  | unmatched => simp [firstFailure?, Stage.all, Stage.fails, h, hd, hl, Limiter.Decision.isAllowed]
  | notReady b => simp [firstFailure?, Stage.all, Stage.fails, h, hd, hl, Limiter.Decision.isAllowed]
  | absent b => simp [firstFailure?, Stage.all, Stage.fails, h, hd, hl, Limiter.Decision.isAllowed]
  | found b base =>
    cases hu : Proxy.backendUri? base req.uri with
    | error e =>
      simp [firstFailure?, Stage.all, Stage.fails, h, hd, hl, hu, Limiter.Decision.isAllowed, Except.isOk,
        Except.toBool]
    | ok target =>
      simp [firstFailure?, Stage.all, Stage.fails, h, hd, hl, hu, Limiter.Decision.isAllowed, Except.isOk,
        Except.toBool]

/-- No check fails exactly if the credential is not refused, the client is let in, the path leads to a base
URL and there is a target. -/
lemma firstFailure?_eq_none_iff {g : Gateway} {now : Nat} {req : Request} :
    g.firstFailure? now req = none ↔
      (g.gate.check req.uri.path req.headers).failure? = none ∧
        (g.admitClient now (Limiter.clientKey req.headers req.peer)).1 = .allowed ∧
          ∃ backend base target, g.lookup req.uri.path = .found backend base ∧
            Proxy.backendUri? base req.uri = .ok target := by
  cases hf : (g.gate.check req.uri.path req.headers).failure? with
  | some failure => simp [firstFailure?_of_refused hf]
  | none =>
    cases hd : (g.admitClient now (Limiter.clientKey req.headers req.peer)).1 with
    | limited scope wait => simp [firstFailure?_of_limited hf hd]
    | allowed =>
      rw [firstFailure?_of_allowed hf hd, undeliverable?_eq_none_iff]
      simp

/-- What becomes of a request for a backend: it is answered with the status of the first check that it
fails and is not sent, or it is sent and answered with the status of the backend's answer. -/
lemma authenticate_admission {g : Gateway} {req : Request} (hp : Probe.ofPath? req.uri.path = none)
    (around : Surroundings) :
    match g.firstFailure? around.now req with
    | some stage =>
      (g.authenticate around req).sent = none ∧
        (g.authenticate around req).response.status = stage.status
    | none =>
      ∃ r, (g.authenticate around req).sent = some r ∧
        (g.authenticate around req).response.status = answerStatus (around.send r) := by
  have hexempt : Probe.isExempt req.uri.path = false := by rw [Probe.isExempt_eq, hp]; rfl
  unfold authenticate
  cases hf : (g.gate.check req.uri.path req.headers).failure? with
  | some failure =>
    rw [firstFailure?_of_refused hf]
    exact ⟨rfl, rfl⟩
  | none =>
    cases hd : g.admitClient around.now (Limiter.clientKey req.headers req.peer) with
    | mk decision g' =>
      cases decision with
      | limited scope wait =>
        rw [firstFailure?_of_limited hf (congrArg Prod.fst hd)]
        rw [limit_of_limited hexempt hd]
        exact ⟨rfl, rfl⟩
      | allowed =>
        -- the gateway that serves is the one after the limiter, which knows the same backends
        have hsame : g'.undeliverable? req = g.undeliverable? req := by
          unfold undeliverable?
          rw [lookup_admitClient hd]
        obtain ⟨hsent, hstatus⟩ : (g'.measure around req).sent = (g'.forward around.send req).sent ∧
            (g'.measure around req).response.status = (g'.forward around.send req).status :=
          serve_backend hp around
        rw [firstFailure?_of_allowed hf (congrArg Prod.fst hd), ← hsame]
        simp only [limit_of_allowed hexempt hd, hsent, hstatus]
        obtain ⟨stage, outcome, hu, hforward, hnone, hfailed⟩ | ⟨backend, base, target, _, htarget, hu, hforward⟩ :=
          g'.forward_cases req
        · rw [hu, hforward]
          exact ⟨hnone, hfailed⟩
        · rw [hu, hforward]
          exact ⟨_, forwardTo_of_target htarget around.send g'.metrics backend⟩

/-- A probe is answered by the gateway alone, and neither the gate nor the limiter stand in its way. -/
lemma authenticate_probe {g : Gateway} {req : Request} {p : Probe}
    (hp : Probe.ofPath? req.uri.path = some p) (around : Surroundings) :
    (g.authenticate around req).sent = none ∧
      (g.authenticate around req).response = g.probeResponse p req.method := by
  have hexempt : Probe.isExempt req.uri.path = true := by rw [Probe.isExempt_eq, hp]; rfl
  have hsent : (g.measure around req).sent = none := by
    unfold measure
    rw [serve_probe hp]
  have hresponse : (g.measure around req).response = g.probeResponse p req.method := by
    unfold measure
    rw [serve_probe hp]
  unfold authenticate
  rw [check_probe hexempt]
  simp only [Auth.Decision.failure?, limit_probe hexempt]
  exact ⟨hsent, hresponse⟩

/-- A probe says that all is well or that it is not, or does not know the method. -/
lemma status_probeResponse (g : Gateway) (p : Probe) (method : Method) :
    (g.probeResponse p method).status ∈ [200, 503, 405] := by
  unfold probeResponse
  split
  · cases p with
    | health => simp [probeContent, Response.ofText, Response.ofContent]
    | readiness =>
      simp only [probeContent, Response.ofContent]
      split <;> simp
    | metrics => simp [probeContent, Response.ofContent]
  · simp

/-- The first check that fails is the same with the id and without. -/
lemma firstFailure?_tagged (g : Gateway) (now : Nat) (around : Surroundings) (req : Request) :
    g.firstFailure? now (tagged around req) = g.firstFailure? now req := by
  unfold firstFailure?
  simp only [fails_tagged]

/-- What becomes of a request for a backend, as `authenticate_admission` says it behind the id. -/
lemma handle_backend {g : Gateway} {req : Request} (hp : Probe.ofPath? req.uri.path = none)
    (around : Surroundings) :
    match g.firstFailure? around.now req with
    | some stage =>
      (g.handle around req).sent = none ∧ (g.handle around req).response.status = stage.status
    | none =>
      ∃ r, (g.handle around req).sent = some r ∧
        (g.handle around req).response.status = answerStatus (around.send r) := by
  have htagged : Probe.ofPath? (tagged around req).uri.path = none := hp
  rw [status_handle, ← g.firstFailure?_tagged around.now around req]
  exact authenticate_admission htagged around

/-- What becomes of a probe. -/
lemma handle_probe {g : Gateway} {req : Request} {p : Probe} (hp : Probe.ofPath? req.uri.path = some p)
    (around : Surroundings) :
    (g.handle around req).sent = none ∧
      (g.handle around req).response.status = (g.probeResponse p req.method).status := by
  have htagged : Probe.ofPath? (tagged around req).uri.path = some p := hp
  obtain ⟨hsent, hresponse⟩ := authenticate_probe (g := g) htagged around
  refine ⟨hsent, ?_⟩
  rw [status_handle, hresponse]
  rfl

/-- Something is sent exactly if no check fails. -/
lemma isSome_sent_handle_iff (g : Gateway) (around : Surroundings) (req : Request) :
    (g.handle around req).sent.isSome = true ↔ g.firstFailure? around.now req = none := by
  cases hp : Probe.ofPath? req.uri.path with
  | some p =>
    -- nothing is sent for a probe, whose path leads to no backend
    rw [(handle_probe hp around).1, firstFailure?_eq_none_iff]
    constructor
    · nofun
    · rintro ⟨_, _, backend, base, target, hl, _⟩
      rw [lookup_probe hp] at hl
      cases hl
  | none =>
    have h := handle_backend (g := g) hp around
    cases hf : g.firstFailure? around.now req with
    | some stage =>
      rw [hf] at h
      rw [h.1]
      exact ⟨nofun, nofun⟩
    | none =>
      rw [hf] at h
      obtain ⟨r, hr, _⟩ := h
      rw [hr]
      exact ⟨fun _ => rfl, fun _ => rfl⟩

/-- A backend is asked once at the most: what becomes of a request hangs on the backends only through the
answer to what was sent. Something is sent exactly if the credential is not refused, the client is let in,
the path leads to a base URL and there is a target. The answer to a request for a backend has the status of
the first check that fails, or that of the backend's answer. Probes are answered by the gateway alone and are
neither refused nor limited. -/
theorem handle_admission (g : Gateway) (around : Surroundings) (req : Request) :
    (∀ send, (∀ r, (g.handle around req).sent = some r → send r = around.send r) →
        g.handle { around with send } req = g.handle around req) ∧
      ((g.handle around req).sent.isSome = true ↔
        (g.gate.check req.uri.path req.headers).failure? = none ∧
          (g.admitClient around.now (Limiter.clientKey req.headers req.peer)).1 = .allowed ∧
            ∃ backend base target, g.lookup req.uri.path = .found backend base ∧
              Proxy.backendUri? base req.uri = .ok target) ∧
      (Probe.ofPath? req.uri.path = none →
        match g.firstFailure? around.now req with
        | some stage =>
          (g.handle around req).sent = none ∧ (g.handle around req).response.status = stage.status
        | none =>
          ∃ r, (g.handle around req).sent = some r ∧
            (g.handle around req).response.status = answerStatus (around.send r)) ∧
      ∀ p, Probe.ofPath? req.uri.path = some p →
        (g.handle around req).sent = none ∧
          (g.handle around req).response.status = (g.probeResponse p req.method).status ∧
            (g.handle around req).response.status ≠ 401 ∧ (g.handle around req).response.status ≠ 429 := by
  refine ⟨fun send h => handle_congr h, ?_, fun hp => handle_backend hp around, ?_⟩
  · rw [isSome_sent_handle_iff]
    exact firstFailure?_eq_none_iff
  · intro p hp
    obtain ⟨hsent, hstatus⟩ := handle_probe (g := g) hp around
    have hmem := g.status_probeResponse p req.method
    rw [← hstatus] at hmem
    refine ⟨hsent, hstatus, ?_, ?_⟩
    · intro h
      rw [h] at hmem
      simp at hmem
    · intro h
      rw [h] at hmem
      simp at hmem

end ApiGateway.Gateway
