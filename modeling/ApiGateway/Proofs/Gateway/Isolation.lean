import ApiGateway.Proofs.Gateway.Admission
import ApiGateway.Proofs.Http.Overwrite
import ApiGateway.Proofs.Limiter.Setup

/-!
# What cannot be noticed

Requests that the auth gate refuses, requests to probe paths and failed resolutions leave no trace that
another request could find: put any number of them anywhere into a run, and every other request is answered
alike, passed on alike and limited alike (`handle_interleaved`).

`Agree` is what a request can tell of a gateway: the gate, the limiter and the snapshot. The events above
keep it (`agree_step_of_idle`), though they change metrics, readiness and the last error, and gateways that
agree handle a request alike (`handle_agree`). The id that a request is given is not the same in two runs;
`withId` puts the one of the second run in the place of the one of the first.
-/

namespace ApiGateway

open Http

/-! ### The same but for the id -/

namespace Http

/-- A request with the id in the place of the one that it carries. -/
def Request.withId (id : FieldValue) (req : Request) : Request :=
  { req with headers := req.headers.overwrite Gateway.requestIdField id }

/-- A response with the id in the place of the one that it carries. -/
def Response.withId (id : FieldValue) (r : Response) : Response :=
  { r with headers := r.headers.overwrite Gateway.requestIdField id }

namespace Response

/-- The id can be put into a response before or after it is finished. -/
lemma withId_finish (id : FieldValue) (method : Method) (r : Response) :
    (r.withId id).finish method = (r.finish method).withId id := by
  have hlength : (r.withId id).withLength = r.withLength.withId id := by
    unfold withLength
    rw [withId, Fields.has_overwrite]
    split
    · rfl
    · exact congrArg (Response.mk r.status · r.body) (Fields.insert_overwrite_of_ne _ (by decide) id _)
  have hsuccess : (r.withId id).isSuccess = r.isSuccess := rfl
  unfold finish
  rw [hlength, hsuccess]
  by_cases hconnect : (decide (method = "CONNECT") && r.isSuccess) = true
  · rw [if_pos hconnect, if_pos hconnect]
    rfl
  · rw [if_neg hconnect, if_neg hconnect]
    by_cases hhead : method = "HEAD"
    · simp only [if_pos hhead]
      rfl
    · simp only [if_neg hhead]

/-- Of an id that was put in by name nothing is left. -/
lemma withId_withField (old id : FieldValue) (r : Response) :
    (r.withField Gateway.requestIdField old).withId id = r.withField Gateway.requestIdField id :=
  congrArg (Response.mk r.status · r.body) (Fields.overwrite_insert_self r.headers _ old id)

end Response

end Http

namespace Gateway

/-- The id can be put into a request before or after it is made one to a backend. -/
lemma backendRequest_withId (id : FieldValue) (req : Request) (target : Uri) :
    backendRequest (req.withId id) target = (backendRequest req target).withId id := by
  have hheaders : backendHeaders (req.withId id) target =
      (backendHeaders req target).overwrite requestIdField id := by
    unfold backendHeaders Request.withId
    simp only
    rw [Fields.first?_overwrite_of_ne _ (by decide), Proxy.isUpgrade_overwrite _ (by decide),
      Proxy.stripHop_overwrite _ (by decide),
      Proxy.addForwarded_overwrite _ (by decide) (by decide) (by decide)]
    cases target.authority? with
    | none => rfl
    | some authority => exact Fields.insert_overwrite_of_ne _ (by decide) id _
  unfold backendRequest
  rw [hheaders]
  rfl

/-- The answer to the client does not hang on the id of the request. -/
lemma clientResponse_withId (id : FieldValue) (req : Request) (answer : Response) :
    clientResponse (req.withId id) answer = clientResponse req answer := by
  unfold clientResponse Request.withId
  simp only
  rw [Proxy.isUpgrade_overwrite _ (by decide)]

/-- A request that was given one id is the request with another one in its place. -/
lemma tagged_eq_withId (a b : Surroundings) (req : Request) :
    tagged b req = (tagged a req).withId (requestId b req) :=
  congrArg (fun headers => { req with headers := headers })
    (Fields.overwrite_insert_self req.headers requestIdField (requestId a req) (requestId b req)).symm

/-! ### What a request can tell of a gateway -/

/-- Gateways that no request for a backend can tell apart: they have the same gate, the same limiter and the
same snapshot. -/
structure Agree (g g' : Gateway) : Prop where
  gate : g'.gate = g.gate
  limiter : g'.limiter = g.limiter
  snapshot : g'.topology.snapshot = g.topology.snapshot

namespace Agree

/-- A gateway agrees with itself. -/
lemma refl (g : Gateway) : Agree g g :=
  ⟨rfl, rfl, rfl⟩

/-- Agreement goes both ways. -/
lemma symm {g g' : Gateway} (h : Agree g g') : Agree g' g :=
  ⟨h.gate.symm, h.limiter.symm, h.snapshot.symm⟩

/-- Gateways that agree with the same one agree with each other. -/
lemma trans {g g' g'' : Gateway} (h : Agree g g') (h' : Agree g' g'') : Agree g g'' :=
  ⟨h'.gate.trans h.gate, h'.limiter.trans h.limiter, h'.snapshot.trans h.snapshot⟩

/-- Metrics are nothing that a request can tell. -/
lemma metrics {g g' : Gateway} (h : Agree g g') (m m' : Metrics) :
    Agree { g with metrics := m } { g' with metrics := m' } :=
  ⟨h.gate, h.limiter, h.snapshot⟩

/-- Gateways that agree find the same backends. -/
lemma lookup {g g' : Gateway} (h : Agree g g') (path : List Char) : g'.lookup path = g.lookup path := by
  unfold Gateway.lookup
  rw [h.snapshot]

/-- A client is let in alike. -/
lemma admitClient {g g' : Gateway} (h : Agree g g') (now : Nat) (client : Limiter.Client) :
    (g'.admitClient now client).1 = (g.admitClient now client).1 ∧
      Agree (g.admitClient now client).2 (g'.admitClient now client).2 := by
  unfold Gateway.admitClient
  rw [h.limiter]
  cases g.limiter with
  | none => exact ⟨rfl, h⟩
  | some limiter => exact ⟨rfl, h.gate, rfl, h.snapshot⟩

end Agree

/-- Outcomes that are the same but for the id of what was sent, of gateways that agree after them. -/
structure Outcome.SameButId (id : FieldValue) (o o' : Outcome) : Prop where
  response : o'.response = o.response
  sent : o'.sent = o.sent.map (Request.withId id)
  agree : Agree o.gateway o'.gateway

/-! ### One request -/

section Layers

variable {g g' : Gateway} {a b : Surroundings} {req : Request} {id : FieldValue}

/-- A request is passed on alike by gateways that agree, if backends answer it alike with either id. -/
lemma forward_agree (h : Agree g g') {send send' : Send}
    (hsend : ∀ target, send' ((backendRequest req target).withId id) = send (backendRequest req target)) :
    (g'.forward send' (req.withId id)).result = (g.forward send req).result ∧
      (g'.forward send' (req.withId id)).sent = (g.forward send req).sent.map (Request.withId id) := by
  have huri : (req.withId id).uri = req.uri := rfl
  unfold forward
  rw [huri, h.lookup]
  cases g.lookup req.uri.path with
  | unmatched => exact ⟨rfl, rfl⟩
  | notReady backend => exact ⟨rfl, rfl⟩
  | absent backend => exact ⟨rfl, rfl⟩
  | found backend base =>
    simp only [forwardTo]
    rw [huri]
    cases Proxy.backendUri? base req.uri with
    | error e => exact ⟨rfl, rfl⟩
    | ok target =>
      simp only [backendRequest_withId, hsend target]
      cases send (backendRequest req target) with
      | error e => exact ⟨rfl, rfl⟩
      | ok answer => exact ⟨congrArg Except.ok (clientResponse_withId id req answer), rfl⟩

/-- A request for a backend is served and counted alike. -/
lemma measure_agree (h : Agree g g') (hp : Probe.ofPath? req.uri.path = none)
    (hsend : ∀ target, b.send ((backendRequest req target).withId id) = a.send (backendRequest req target)) :
    (g.measure a req).SameButId id (g'.measure b (req.withId id)) := by
  have hp' : Probe.ofPath? (req.withId id).uri.path = none := hp
  obtain ⟨hresult, hsent⟩ := forward_agree h hsend
  unfold measure serve
  rw [hp, hp']
  refine ⟨?_, hsent, h.metrics _ _⟩
  simp only
  rw [hresult]

/-- A request for a backend is limited alike. -/
lemma limit_agree (h : Agree g g') (hp : Probe.ofPath? req.uri.path = none) (hnow : b.now = a.now)
    (hsend : ∀ target, b.send ((backendRequest req target).withId id) = a.send (backendRequest req target)) :
    (g.limit a req).SameButId id (g'.limit b (req.withId id)) := by
  have hexempt : Probe.isExempt req.uri.path = false := by rw [Probe.isExempt_eq, hp]; rfl
  have hexempt' : Probe.isExempt (req.withId id).uri.path = false := hexempt
  have hkey : Limiter.clientKey (req.withId id).headers (req.withId id).peer =
      Limiter.clientKey req.headers req.peer :=
    Limiter.clientKey_congr (Fields.first?_overwrite_of_ne req.headers (by decide) _) req.peer
  obtain ⟨hdecision, hagree⟩ := h.admitClient a.now (Limiter.clientKey req.headers req.peer)
  cases hd : g.admitClient a.now (Limiter.clientKey req.headers req.peer) with
  | mk decision after =>
    cases hd' : g'.admitClient a.now (Limiter.clientKey req.headers req.peer) with
    | mk decision' after' =>
      rw [hd, hd'] at hdecision hagree
      rw [← hnow, ← hkey] at hd'
      cases hdecision
      cases decision with
      | allowed =>
        rw [limit_of_allowed hexempt hd, limit_of_allowed hexempt' hd']
        exact measure_agree hagree hp hsend
      | limited scope wait =>
        rw [limit_of_limited hexempt hd, limit_of_limited hexempt' hd']
        exact ⟨rfl, rfl, hagree.metrics _ _⟩

/-- A request for a backend is let through the gate alike. -/
lemma authenticate_agree (h : Agree g g') (hp : Probe.ofPath? req.uri.path = none) (hnow : b.now = a.now)
    (hsend : ∀ target, b.send ((backendRequest req target).withId id) = a.send (backendRequest req target)) :
    (g.authenticate a req).SameButId id (g'.authenticate b (req.withId id)) := by
  have hcheck : g'.gate.check (req.withId id).uri.path (req.withId id).headers =
      g.gate.check req.uri.path req.headers := by
    unfold Auth.Gate.check Request.withId
    simp only
    rw [h.gate, Fields.first?_overwrite_of_ne _ (by decide)]
  unfold authenticate
  rw [hcheck]
  cases (g.gate.check req.uri.path req.headers).failure? with
  | none => exact limit_agree h hp hnow hsend
  | some failure => exact ⟨rfl, rfl, h.metrics _ _⟩

end Layers

/-- Surroundings of a request that differ in what the gateway may not look at: the time is the same, and the
backends answer what they are sent with the one id as they answer it with the other. -/
structure Surroundings.Alike (req : Request) (a b : Surroundings) : Prop where
  now : b.now = a.now
  send : ∀ r : Request, r.withId (requestId a req) = r → b.send (r.withId (requestId b req)) = a.send r

/-- Surroundings are like themselves. -/
lemma Surroundings.Alike.refl (req : Request) (a : Surroundings) : a.Alike req a :=
  ⟨rfl, fun _ hr => by rw [hr]⟩

/-- A request for a backend is handled alike by gateways that agree: the answer and what was sent are the same
but for the id, and the gateways agree after it. -/
lemma handle_agree {g g' : Gateway} (h : Agree g g') {a b : Surroundings} {req : Request}
    (hp : Probe.ofPath? req.uri.path = none) (hab : a.Alike req b) :
    (g'.handle b req).response = (g.handle a req).response.withId (requestId b req) ∧
      (g'.handle b req).sent = (g.handle a req).sent.map (Request.withId (requestId b req)) ∧
      Agree (g.handle a req).gateway (g'.handle b req).gateway := by
  have hsend : ∀ target, b.send ((backendRequest (tagged a req) target).withId (requestId b req)) =
      a.send (backendRequest (tagged a req) target) := by
    intro target
    apply hab.send
    rw [← backendRequest_withId, ← tagged_eq_withId]
  have hgate : (g.authenticate a (tagged a req)).SameButId (requestId b req)
      (g'.authenticate b ((tagged a req).withId (requestId b req))) :=
    authenticate_agree h hp hab.now hsend
  rw [← tagged_eq_withId] at hgate
  -- the id goes into the answer last, over whatever a backend put there
  rw [handle_eq, handle_eq]
  refine ⟨?_, hgate.sent, hgate.agree⟩
  unfold delivered
  simp only
  rw [hgate.response, ← Response.withId_finish, Response.withId_withField]

/-! ### Runs -/

/-- What happens to a gateway: a request is answered, a snapshot is published, a resolution is noted as failed, or
a refresh ends and is counted. -/
inductive Event where
  | request (around : Surroundings) (req : Request)
  | publish (snapshot : Snapshot)
  | fail (message : String)
  | settle (outcome : Except Discovery.Error Snapshot)

/-- The gateway after an event. -/
def step (g : Gateway) : Event → Gateway
  | .request around req => (g.handle around req).gateway
  | .publish snapshot => { g with topology := g.topology.publish snapshot }
  | .fail message => { g with topology := g.topology.fail message }
  | .settle outcome => g.settle outcome

/-- The gateway that a run leaves. -/
def after (g : Gateway) (events : List Event) : Gateway :=
  events.foldl step g

/-- The events that leave no trace at a gateway with the gate: requests that it refuses, requests to probe
paths, and failures. -/
def Event.IsIdle (gate : Auth.Gate) : Event → Prop
  | .request _ req =>
    (gate.check req.uri.path req.headers).failure?.isSome = true ∨
      (Probe.ofPath? req.uri.path).isSome = true
  | .publish _ => False
  | .fail _ => True
  | .settle outcome => ∃ e, outcome = .error e

/-- The same event in two runs: a request may be given another id. -/
inductive Event.Alike : Event → Event → Prop
  | request {a b : Surroundings} {req : Request} (h : a.Alike req b) :
    Event.Alike (.request a req) (.request b req)
  | publish (snapshot : Snapshot) : Event.Alike (.publish snapshot) (.publish snapshot)
  | fail (message : String) : Event.Alike (.fail message) (.fail message)
  | settle (outcome : Except Discovery.Error Snapshot) : Event.Alike (.settle outcome) (.settle outcome)

/-- The second run is the first one with idle events anywhere in between. -/
inductive Interleaved (gate : Auth.Gate) : List Event → List Event → Prop
  | nil : Interleaved gate [] []
  | idle {e : Event} {es es' : List Event} (he : e.IsIdle gate) (h : Interleaved gate es es') :
    Interleaved gate es (e :: es')
  | keep {e e' : Event} {es es' : List Event} (he : e.Alike e') (h : Interleaved gate es es') :
    Interleaved gate (e :: es) (e' :: es')

/-- What holds of a gateway holds of it after a request too, if it depends neither on the metrics nor on which
clients were let in. -/
lemma handle_keeps {P : Gateway → Prop} (hmetrics : ∀ g metrics, P g → P { g with metrics })
    (hclient : ∀ g now client, P g → P (g.admitClient now client).2) {g : Gateway} (h : P g)
    (around : Surroundings) (req : Request) : P (g.handle around req).gateway := by
  have hmeasure {g : Gateway} (h : P g) (req : Request) : P (g.measure around req).gateway := by
    unfold measure serve
    cases Probe.ofPath? req.uri.path with
    | some p => exact hmetrics _ _ h
    | none => exact hmetrics _ _ (hmetrics _ _ h)
  have hlimit (req : Request) : P (g.limit around req).gateway := by
    cases hexempt : Probe.isExempt req.uri.path with
    | true =>
      rw [limit_probe hexempt]
      exact hmeasure h req
    | false =>
      have hpassed := hclient g around.now (Limiter.clientKey req.headers req.peer) h
      cases hd : g.admitClient around.now (Limiter.clientKey req.headers req.peer) with
      | mk decision after =>
        rw [hd] at hpassed
        cases decision with
        | allowed =>
          rw [limit_of_allowed hexempt hd]
          exact hmeasure hpassed req
        | limited scope wait =>
          rw [limit_of_limited hexempt hd]
          exact hmetrics _ _ hpassed
  rw [handle_eq]
  unfold delivered authenticate
  cases (g.gate.check (tagged around req).uri.path (tagged around req).headers).failure? with
  | none => exact hlimit _
  | some failure => exact hmetrics _ _ h

/-- Letting a client in does not change the gate. -/
lemma gate_admitClient (g : Gateway) (now : Nat) (client : Limiter.Client) :
    (g.admitClient now client).2.gate = g.gate := by
  unfold admitClient
  cases g.limiter with
  | none => rfl
  | some limiter => rfl

/-- Handling a request does not change the gate. -/
lemma gate_handle (g : Gateway) (around : Surroundings) (req : Request) :
    (g.handle around req).gateway.gate = g.gate := by
  apply handle_keeps (P := fun g' => g'.gate = g.gate) _ _ rfl
  · exact fun _ _ h => h
  · exact fun g' now client h => (gate_admitClient g' now client).trans h

/-- No event changes the gate. -/
lemma gate_step (g : Gateway) (e : Event) : (g.step e).gate = g.gate := by
  cases e with
  | request around req => exact gate_handle g around req
  | publish snapshot => rfl
  | fail message => rfl
  | settle outcome => rfl

/-- A request that the gate refuses is counted and leaves no other trace. -/
lemma agree_of_refused {g : Gateway} {req : Request}
    (h : (g.gate.check req.uri.path req.headers).failure?.isSome = true) (around : Surroundings) :
    Agree g (g.handle around req).gateway := by
  have htagged : (g.gate.check (tagged around req).uri.path (tagged around req).headers).failure?.isSome =
      true := (g.fails_tagged around.now around req .credential).trans h
  obtain ⟨failure, hfailure⟩ := Option.isSome_iff_exists.mp htagged
  rw [handle_eq, delivered, authenticate, hfailure]
  exact (Agree.refl g).metrics g.metrics _

/-- A probe is counted and leaves no other trace. -/
lemma agree_of_probe {g : Gateway} {req : Request} {p : Probe} (hp : Probe.ofPath? req.uri.path = some p)
    (around : Surroundings) : Agree g (g.handle around req).gateway := by
  have htagged : Probe.ofPath? (tagged around req).uri.path = some p := hp
  have hexempt : Probe.isExempt (tagged around req).uri.path = true := by
    rw [Probe.isExempt_eq, htagged]
    rfl
  rw [handle_eq, delivered, authenticate, check_probe hexempt]
  simp only [Auth.Decision.failure?, limit_probe hexempt]
  rw [measure, serve_probe htagged]
  exact (Agree.refl g).metrics g.metrics _

/-- An idle event leaves a gateway that agrees with the one before. -/
lemma agree_step_of_idle {g : Gateway} {e : Event} (h : e.IsIdle g.gate) : Agree g (g.step e) := by
  cases e with
  | request around req =>
    obtain hrefused | hprobe := h
    · exact agree_of_refused hrefused around
    · obtain ⟨p, hp⟩ := Option.isSome_iff_exists.mp hprobe
      exact agree_of_probe hp around
  | publish snapshot => exact h.elim
  | fail message => exact ⟨rfl, rfl, Topology.snapshot_fail message g.topology⟩
  | settle outcome =>
    obtain ⟨e, rfl⟩ := h
    exact ⟨rfl, rfl, Topology.snapshot_fail e.message g.topology⟩

/-- The same event leaves gateways that agree if they agreed before. -/
lemma step_agree {g g' : Gateway} (h : Agree g g') {e e' : Event} (he : e.Alike e') :
    Agree (g.step e) (g'.step e') := by
  cases he with
  | @request a b req hab =>
    -- probes are answered from what differs, but neither run keeps anything of them
    cases hp : Probe.ofPath? req.uri.path with
    | none => exact (handle_agree h hp hab).2.2
    | some p => exact (agree_of_probe hp a).symm.trans (h.trans (agree_of_probe hp b))
  | publish snapshot => exact ⟨h.gate, h.limiter, rfl⟩
  | fail message => exact ⟨h.gate, h.limiter, h.snapshot⟩
  | settle outcome =>
    cases outcome with
    | ok snapshot => exact ⟨h.gate, h.limiter, rfl⟩
    | error e => exact ⟨h.gate, h.limiter, h.snapshot⟩

/-- Runs that differ in idle events leave gateways that agree. -/
lemma after_agree {gate : Auth.Gate} {es es' : List Event} (h : Interleaved gate es es') {g g' : Gateway}
    (hagree : Agree g g') (hgate : g'.gate = gate) : Agree (g.after es) (g'.after es') := by
  induction h generalizing g g' with
  | nil => exact hagree
  | idle he _ ih =>
    subst hgate
    exact ih (hagree.trans (agree_step_of_idle he)) (gate_step g' _)
  | keep he _ ih => exact ih (step_agree hagree he) ((gate_step g' _).trans hgate)

/-- Put refused requests, probes and failures anywhere into a run: every other request is answered and passed on
as in the run without them, but for an id that it is given, and it finds and leaves the limiter as there. If it
brings its id or is given the same one, nothing differs at all. -/
theorem handle_interleaved {g : Gateway} {before before' : List Event}
    (h : Interleaved g.gate before before') {a b : Surroundings} {req : Request}
    (hp : Probe.ofPath? req.uri.path = none) (hab : a.Alike req b) :
    ((g.after before').handle b req).response =
        ((g.after before).handle a req).response.withId (requestId b req) ∧
      ((g.after before').handle b req).sent =
        ((g.after before).handle a req).sent.map (Request.withId (requestId b req)) ∧
      ((broughtId? req.headers).isSome = true ∨ b.freshId = a.freshId →
        ((g.after before').handle b req).response = ((g.after before).handle a req).response ∧
          ((g.after before').handle b req).sent = ((g.after before).handle a req).sent) ∧
      (g.after before').limiter = (g.after before).limiter ∧
      ((g.after before').handle b req).gateway.limiter =
        ((g.after before).handle a req).gateway.limiter := by
  have hagree : Agree (g.after before) (g.after before') := after_agree h (Agree.refl g) rfl
  obtain ⟨hresponse, hsent, hafter⟩ := handle_agree hagree hp hab
  refine ⟨hresponse, hsent, ?_, hagree.limiter, hafter.limiter⟩
  intro hid
  have hsame : requestId b req = requestId a req := by
    unfold requestId
    obtain hbrought | hfresh := hid
    · obtain ⟨id, hid⟩ := Option.isSome_iff_exists.mp hbrought
      rw [hid]
      rfl
    · rw [hfresh]
  -- a run differs from itself by nothing, so the id that it puts in is there already
  obtain ⟨hown, hownSent, _⟩ := handle_agree (Agree.refl (g.after before)) hp (Surroundings.Alike.refl req a)
  rw [hresponse, hsent, hsame]
  exact ⟨hown.symm, hownSent.symm⟩

/-- A gateway that asks for a token and limits requests. -/
def guarded : Gateway :=
  { gate := ⟨some "secret".toList⟩, limiter := some Limiter.smallLimiter }

/-- Where its primary backend is. -/
def nearby : Snapshot :=
  { primary := some ⟨"http".toList, some { host := some (.domain "backend".toList) }, ['/'], none, none⟩
    analyzer := none
    resolvedAt := ⟨0, ""⟩ }

/-- A request for a path, with the credential that the client has. -/
def asking (path credential : String) : Request :=
  { uri := .relative ⟨path.toList, none⟩
    headers := [⟨Auth.Gate.fieldName, .ofAscii credential.toList⟩] }

/-- Surroundings at a time with an id, where backends answer everything alike. -/
def quiet (now : Nat) (id : String) : Surroundings :=
  { now, freshId := id.toList, seconds := .zero false, send := fun _ => .ok { status := 204 } }

/-- A run of one request. -/
def calm : List Event :=
  [.publish nearby, .request (quiet 0 "one") (asking "/api" "Bearer secret")]

/-- The same run with a stranger, a probe and two failures in between. -/
def busy : List Event :=
  [ .request (quiet 0 "two") (asking "/api" "Bearer guess"), .publish nearby, .fail "down",
    .request (quiet 0 "three") (asking "/api" "Bearer secret"), .request (quiet 1 "four") (asking "/metrics" ""),
    .settle (.error (.registry "gone")) ]

/-- The next request is passed on and answered in the second run as in the first, but for its id. -/
theorem handle_busy :
    Interleaved guarded.gate calm busy ∧ Probe.ofPath? (asking "/api" "Bearer secret").uri.path = none ∧
      (quiet 2 "five").Alike (asking "/api" "Bearer secret") (quiet 2 "six") ∧
      ((guarded.after calm).handle (quiet 2 "five") (asking "/api" "Bearer secret")).sent.isSome = true ∧
      ((guarded.after busy).handle (quiet 2 "six") (asking "/api" "Bearer secret")).response =
        ((guarded.after calm).handle (quiet 2 "five") (asking "/api" "Bearer secret")).response.withId
          (.ofAscii "six".toList) ∧
      ((guarded.after busy).handle (quiet 2 "six") (asking "/api" "Bearer secret")).sent =
        ((guarded.after calm).handle (quiet 2 "five") (asking "/api" "Bearer secret")).sent.map
          (Request.withId (.ofAscii "six".toList)) ∧
      (guarded.after busy).limiter = (guarded.after calm).limiter := by
  have halike (now : Nat) (id id' : String) (req : Request) : (quiet now id).Alike req (quiet now id') :=
    ⟨rfl, fun _ _ => rfl⟩
  have hruns : Interleaved guarded.gate calm busy :=
    .idle (.inl (by decide +kernel)) (.keep (.publish nearby) (.idle trivial (.keep (.request (halike 0 _ _ _))
      (.idle (.inr (by decide)) (.idle ⟨_, rfl⟩ .nil)))))
  have hp : Probe.ofPath? (asking "/api" "Bearer secret").uri.path = none := by decide
  have hsame := handle_interleaved hruns hp (halike 2 "five" "six" _)
  exact ⟨hruns, hp, halike _ _ _ _, by decide +kernel, hsame.1, hsame.2.1, hsame.2.2.2.1⟩

end Gateway

end ApiGateway
