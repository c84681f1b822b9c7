import ApiGateway.Proofs.Gateway.Isolation
import ApiGateway.Proofs.Proxy.Hop
import ApiGateway.Proofs.Proxy.Target

/-!
# What a backend and its client see of each other

A request that is passed on and the answer to it arrive as they were sent, but for the fields of the hop and the few
that the gateway sets itself (`forward_transparent`). `PassedOn` says so of the request and `Returned` of the answer,
name by name: which values a name has left follows from the one operation that looks at it, since the others leave its
values alone. Both speak of the fields as they came (`OfOneHop`, `AsksUpgrade`) and not of the code that looks for them.

The order matters for clients that list fields in `Connection` which the gateway sets: they lose what they sent, and
the backend gets what the gateway puts there afterwards. The host is therefore taken before anything is removed.

What is asked of the locations of backends, that they were read from texts, holds in every run in which only the two
resolvers find them (`isRead_after`).
-/

namespace ApiGateway

open Http

namespace Proxy

/-! ### Forwarded fields -/

section Forwarded

variable {fs : Fields} {name : FieldName}

/-- Adding the peer touches the chain of forwarders alone. -/
lemma values_addPeer_of_ne (h : name ≠ Limiter.forwardedFor) (peer : Option SocketAddress) :
    (addPeer fs peer).values name = fs.values name := by
  unfold addPeer
  cases peer with
  | none => rfl
  | some peer => exact Fields.values_insert_of_ne fs _ h.symm

/-- Adding the host touches the forwarded host alone. -/
lemma values_addHost_of_ne (h : name ≠ forwardedHost) (host : Option FieldValue) :
    (addHost fs host).values name = fs.values name := by
  unfold addHost
  cases host with
  | none => rfl
  | some host => exact Fields.values_insert_of_ne fs _ h.symm

/-- Adding the protocol touches the forwarded protocol alone. -/
lemma values_addProto_of_ne (h : name ≠ forwardedProto) : (addProto fs).values name = fs.values name := by
  unfold addProto
  split
  · rfl
  · exact Fields.values_insert_of_ne fs _ h.symm

/-- Adding how a request was forwarded touches the three fields for it alone. -/
lemma values_addForwarded_of_ne (hfor : name ≠ Limiter.forwardedFor) (hhost : name ≠ forwardedHost)
    (hproto : name ≠ forwardedProto) (peer : Option SocketAddress) (host : Option FieldValue) :
    (addForwarded fs peer host).values name = fs.values name := by
  rw [addForwarded, values_addProto_of_ne hproto, values_addHost_of_ne hhost, values_addPeer_of_ne hfor]

/-- The forwarded host is the host that the client asked for, if it named one. -/
lemma values_addForwarded_host (fs : Fields) (peer : Option SocketAddress) (host : Option FieldValue) :
    (addForwarded fs peer host).values forwardedHost = (host.map fun h => [h]).getD (fs.values forwardedHost) := by
  rw [addForwarded, values_addProto_of_ne (by decide)]
  unfold addHost
  cases host with
  | none => exact values_addPeer_of_ne (by decide) peer
  | some host => exact Fields.values_insert_self _ _ host

/-- The forwarded protocol is left if there is one, and else that of the gateway. -/
lemma values_addForwarded_proto (fs : Fields) (peer : Option SocketAddress) (host : Option FieldValue) :
    (addForwarded fs peer host).values forwardedProto =
      if fs.values forwardedProto = [] then [.ofText "http"] else fs.values forwardedProto := by
  have hsame : (addHost (addPeer fs peer) host).values forwardedProto = fs.values forwardedProto := by
    rw [values_addHost_of_ne (by decide), values_addPeer_of_ne (by decide)]
  unfold addForwarded addProto
  rw [Fields.has_eq, hsame]
  by_cases hnone : fs.values forwardedProto = []
  · rw [if_pos hnone, hnone]
    exact Fields.values_insert_self _ _ _
  · have hsome : (fs.values forwardedProto).isEmpty = false := by simpa using hnone
    rw [if_neg hnone, hsome]
    exact hsame

end Forwarded

end Proxy

namespace Gateway

open Proxy

/-! ### The request -/

/-- The names whose values the gateway sets. -/
def rewritten : List FieldName :=
  [hostField, Limiter.forwardedFor, forwardedHost, forwardedProto]

/-- What a backend is sent of a request. Its only host is the authority of the target, and the first host that the client
asked for is noted; without one, what the client noted itself is passed on like any other field. A protocol that is
missing, or is taken away because it is listed, becomes that of the gateway. Of what the gateway does not set, exactly
the fields of one hop are left out, and a request to change the protocol stays one. -/
structure PassedOn (req sent : Request) : Prop where
  method : sent.method = req.method
  body : sent.body = req.body
  host : ∃ authority value, sent.uri.authority? = some authority ∧ value.text? = some authority ∧
    sent.headers.values hostField = [value]
  asked : ∀ host, req.headers.first? hostField = some host → sent.headers.values forwardedHost = [host]
  unasked : req.headers.first? hostField = none →
    sent.headers.values forwardedHost =
      if ListsField req.headers forwardedHost then [] else req.headers.values forwardedHost
  proto : sent.headers.values forwardedProto =
    if req.headers.values forwardedProto = [] ∨ ListsField req.headers forwardedProto then [.ofText "http"]
    else req.headers.values forwardedProto
  kept : ∀ name, name ∉ rewritten → ¬OfOneHop req.headers name →
    sent.headers.values name = req.headers.values name
  dropped : ∀ name, IsName name → name ∉ rewritten → OfOneHop req.headers name →
    ¬(AsksUpgrade req.headers ∧ (name = connection ∨ name = upgrade)) → sent.headers.values name = []
  upgraded : AsksUpgrade req.headers →
    sent.headers.values connection = [.ofText "upgrade"] ∧
      sent.headers.values upgrade = req.headers.values upgrade

/-- What a client is sent of the answer of a backend: all of it if the protocol changes, and else all but the fields of
one hop. -/
structure Returned (req : Request) (answer response : Response) : Prop where
  status : response.status = answer.status
  body : response.body = answer.body
  switched : AsksUpgrade req.headers → answer.status = 101 → response.headers = answer.headers
  kept : ¬(AsksUpgrade req.headers ∧ answer.status = 101) → ∀ name, ¬OfOneHop answer.headers name →
    response.headers.values name = answer.headers.values name
  dropped : ¬(AsksUpgrade req.headers ∧ answer.status = 101) → ∀ name, IsName name → OfOneHop answer.headers name →
    response.headers.values name = []

variable {req : Request} {target : Uri}

/-- The backend is asked for its own host. -/
lemma values_backendHeaders_host {authority : List Char} (h : target.authority? = some authority) :
    (backendHeaders req target).values hostField = [.ofAscii authority] := by
  unfold backendHeaders
  rw [h]
  exact Fields.values_insert_self _ _ _

/-- All other names of the backend's request are those of the stripped request, forwarded. -/
lemma values_backendHeaders_of_ne {name : FieldName} (h : name ≠ hostField) :
    (backendHeaders req target).values name =
      (addForwarded (stripHop req.headers (isUpgrade req.headers)) req.peer (req.headers.first? hostField)).values
        name := by
  unfold backendHeaders
  cases target.authority? with
  | none => rfl
  | some authority => exact Fields.values_insert_of_ne _ _ h.symm

/-- What the gateway does not set is only stripped. -/
lemma values_backendHeaders_of_not_mem {name : FieldName} (h : name ∉ rewritten) :
    (backendHeaders req target).values name = (stripHop req.headers (isUpgrade req.headers)).values name := by
  unfold rewritten at h
  rw [List.mem_cons, not_or, List.mem_cons, not_or, List.mem_cons, not_or, List.mem_singleton] at h
  obtain ⟨hhost, hfor, hasked, hproto⟩ := h
  rw [values_backendHeaders_of_ne hhost, values_addForwarded_of_ne hfor hasked hproto]

/-- The request that is made for a target with an authority passes on what it should. -/
lemma passedOn_backendRequest {authority : List Char} (hauthority : target.authority? = some authority)
    (htext : (FieldValue.ofAscii authority).text? = some authority) : PassedOn req (backendRequest req target) where
  method := rfl
  body := rfl
  host := ⟨authority, _, hauthority, htext, values_backendHeaders_host hauthority⟩
  asked := by
    intro host hhost
    refine (values_backendHeaders_of_ne (by decide)).trans ?_
    rw [values_addForwarded_host, hhost]
    rfl
  unasked := by
    intro hhost
    refine (values_backendHeaders_of_ne (by decide)).trans ?_
    rw [values_addForwarded_host, hhost]
    exact values_stripHop_of_listed _ (by decide) (by decide) _
  proto := by
    refine (values_backendHeaders_of_ne (by decide)).trans ?_
    rw [values_addForwarded_proto, values_stripHop_of_listed _ (by decide) (by decide)]
    by_cases hlists : ListsField req.headers forwardedProto
    · rw [if_pos hlists, if_pos rfl, if_pos (.inr hlists)]
    · rw [if_neg hlists]
      exact if_congr (or_iff_left hlists).symm rfl rfl
  kept := by
    intro name hname hkept
    exact (values_backendHeaders_of_not_mem hname).trans (values_stripHop_of_kept hkept _)
  dropped := by
    intro name hname hset hdropped hkeep
    rw [← isUpgrade_iff] at hkeep
    exact (values_backendHeaders_of_not_mem hset).trans (values_stripHop_of_dropped hname hdropped hkeep)
  upgraded := by
    intro hupgrade
    have hstripped := values_stripHop_upgrade req.headers
    rw [← isUpgrade_iff.mpr hupgrade] at hstripped
    exact ⟨(values_backendHeaders_of_not_mem (by decide)).trans hstripped.1,
      (values_backendHeaders_of_not_mem (by decide)).trans hstripped.2⟩

/-! ### The answer -/

/-- The answer of a backend is returned as it is if the protocol changes, and else without the fields of its hop. -/
lemma returned_clientResponse (req : Request) (answer : Response) :
    Returned req answer (clientResponse req answer) := by
  by_cases hswitch : AsksUpgrade req.headers ∧ answer.status = 101
  · have hsame : clientResponse req answer = answer := if_pos (by simpa [isUpgrade_iff] using hswitch)
    rw [hsame]
    exact ⟨rfl, rfl, fun _ _ => rfl, fun h => absurd hswitch h, fun h => absurd hswitch h⟩
  · have hstripped : clientResponse req answer = { answer with headers := stripHop answer.headers false } :=
      if_neg (by simpa [isUpgrade_iff] using hswitch)
    rw [hstripped]
    refine ⟨rfl, rfl, fun hupgrade hstatus => absurd ⟨hupgrade, hstatus⟩ hswitch, ?_, ?_⟩
    · exact fun _ name hname => values_stripHop_of_kept hname false
    · exact fun _ name hname hhop => values_stripHop_of_dropped hname hhop fun h => Bool.false_ne_true h.1

/-! ### Where backends are -/

/-- A snapshot that a resolver found, in the settings or in the registry. -/
inductive IsFound : Snapshot → Prop
  | fixed {primary : String} {analyzer : Option String} {now : Stamp} {s : Snapshot}
      (h : Discovery.fixed? primary analyzer now = .ok s) : IsFound s
  | registered {list : Registry.Listing} {settings : Settings} {now : Stamp} {s : Snapshot}
      (h : Registry.resolve? list settings now = .ok s) : IsFound s

/-- The locations that a resolver finds were read from texts. -/
lemma IsFound.isRead {s : Snapshot} (h : IsFound s) : s.IsRead := by
  cases h with
  | fixed h => exact Discovery.isRead_fixed? h
  | registered h => exact Registry.isRead_resolve? h

/-- An event that publishes nothing but what a resolver found. -/
def Event.IsResolved : Event → Prop
  | .request _ _ => True
  | .publish s => IsFound s
  | .fail _ => True
  | .settle outcome => ∀ s, outcome = .ok s → IsFound s

/-- Letting a client in does not change what is known of the backends. -/
lemma topology_admitClient (g : Gateway) (now : Nat) (client : Limiter.Client) :
    (g.admitClient now client).2.topology = g.topology := by
  unfold admitClient
  cases g.limiter with
  | none => rfl
  | some limiter => rfl

/-- If locations were read from texts, they still were after such an event. -/
lemma isRead_step {g : Gateway} (h : ∀ s, g.topology.snapshot = some s → s.IsRead) {e : Event} (he : e.IsResolved) :
    ∀ s, (g.step e).topology.snapshot = some s → s.IsRead := by
  cases e with
  | request around req =>
    apply handle_keeps (P := fun g => ∀ s, g.topology.snapshot = some s → s.IsRead) _ _ h
    · exact fun _ _ h => h
    · intro g now client h
      rw [topology_admitClient]
      exact h
  | publish snapshot =>
    rintro s ⟨rfl⟩
    exact IsFound.isRead he
  | fail message => exact h
  | settle outcome =>
    cases outcome with
    | error e => exact h
    | ok snapshot =>
      rintro s ⟨rfl⟩
      exact (he snapshot rfl).isRead

/-- In every run in which only resolvers find backends their locations were read from texts. -/
theorem isRead_after {g : Gateway} (h : ∀ s, g.topology.snapshot = some s → s.IsRead) {events : List Event}
    (hevents : ∀ e ∈ events, e.IsResolved) : ∀ s, (g.after events).topology.snapshot = some s → s.IsRead := by
  induction events generalizing g with
  | nil => exact h
  | cons e rest ih =>
    exact ih (isRead_step h (hevents e List.mem_cons_self)) fun e' he' => hevents e' (List.mem_cons_of_mem e he')

/-! ### Both ways -/

/-- A backend that is found has its base URL in the last snapshot. -/
lemma snapshot_of_lookup {g : Gateway} {path : List Char} {backend : Backend} {base : Url}
    (h : g.lookup path = .found backend base) :
    ∃ s, g.topology.snapshot = some s ∧ s.url? backend = some base := by
  unfold lookup at h
  split at h
  · cases h
  · split at h
    · cases h
    · rename_i s hs
      split at h
      · cases h
      · rename_i hurl
        cases h
        exact ⟨s, hs, hurl⟩

/-- What is sent for a request is made of the request for some target. -/
lemma exists_of_sent_forward {g : Gateway} {send : Send} {req sent : Request}
    (h : (g.forward send req).sent = some sent) : ∃ target, sent = backendRequest req target := by
  obtain ⟨_, outcome, _, hforward, hnone, _⟩ | ⟨backend, base, target, _, htarget, _, hforward⟩ := g.forward_cases req
  · rw [hforward, hnone] at h
    cases h
  · rw [hforward, (forwardTo_of_target htarget send g.metrics backend).1] at h
    cases h
    exact ⟨target, rfl⟩

/-- A request that is sent is sent to the target of the backend that its path leads to, and arrives as it came in but
for the fields of the hop and the ones that say where it goes and whom it came from. The answer comes back with its
status and body, and with its fields as they are if the protocol changes and else without those of its hop. -/
theorem forward_transparent {g : Gateway} (hread : ∀ s, g.topology.snapshot = some s → s.IsRead) {send : Send}
    {req sent : Request} (h : (g.forward send req).sent = some sent) :
    (∃ backend base, g.lookup req.uri.path = .found backend base ∧ backendUri? base req.uri = .ok sent.uri) ∧
      PassedOn req sent ∧
        ∀ answer, send sent = .ok answer →
          ∃ response, (g.forward send req).result = .ok response ∧ Returned req answer response := by
  obtain ⟨_, outcome, _, hforward, hnone, _⟩ | ⟨backend, base, target, hl, htarget, _, hforward⟩ := g.forward_cases req
  · rw [hforward, hnone] at h
    cases h
  · rw [hforward, (forwardTo_of_target htarget send g.metrics backend).1] at h
    cases h
    obtain ⟨s, hs, hurl⟩ := snapshot_of_lookup hl
    obtain ⟨authority, hauthority, htext⟩ := authority?_of_backendUri? (hread s hs backend base hurl) htarget
    refine ⟨⟨backend, base, hl, htarget⟩, passedOn_backendRequest hauthority htext, ?_⟩
    intro answer hanswer
    refine ⟨clientResponse req answer, ?_, returned_clientResponse req answer⟩
    rw [hforward, forwardTo, htarget]
    simp only [hanswer]

/-- A request to change the protocol, which lists its host and a field of its own. -/
def visiting : Request :=
  { uri := .relative ⟨"/ws".toList, none⟩
    headers :=
      [ ⟨hostField, .ofText "shop"⟩, ⟨connection, .ofText "Upgrade, host, X-Note"⟩, ⟨"x-note", .ofText "here"⟩,
        ⟨upgrade, .ofText "websocket"⟩, ⟨"accept", .ofText "a"⟩, ⟨"accept", .ofText "b"⟩ ] }

/-- The same request without the change. -/
def browsing : Request :=
  { visiting with headers := visiting.headers.remove upgrade }

/-- A backend that changes the protocol. -/
def switching : Send :=
  fun _ => .ok { status := 101, headers := [⟨connection, .ofText "upgrade"⟩, ⟨upgrade, .ofText "websocket"⟩] }

/-- A backend that does not, and lists a field of its own. -/
def answering : Send :=
  fun _ => .ok
    { status := 200
      headers := [⟨"x-cache", .ofText "hit"⟩, ⟨connection, .ofText "X-Cache"⟩, ⟨"server", .ofText "shop"⟩] }

/-- A gateway that knows where its primary backend is. -/
def located : Gateway :=
  guarded.after [.publish nearby]

/-- The location of that backend was found in settings. -/
lemma fixed?_nearby : Discovery.fixed? "http://backend" none ⟨0, ""⟩ = .ok nearby := by
  decide +kernel

/-- All that the gateway knows of backends was read from texts. -/
lemma isRead_located : ∀ s, located.topology.snapshot = some s → s.IsRead := by
  apply isRead_after (g := guarded)
  · rintro s hs
    cases hs
  · intro e he
    cases List.mem_singleton.mp he
    exact .fixed fixed?_nearby

/-- Such a request is sent to a location that was read from settings, with the host of the backend, and what it lists is
gone, the fields that ask for the change apart. The answer comes back as it is. Without the change nothing is left of
these fields either, and the answer loses what it lists. -/
theorem forward_transparent_switching :
    Discovery.fixed? "http://backend" none ⟨0, ""⟩ = .ok nearby ∧ located.topology.snapshot = some nearby ∧
      (∃ sent answer response, (located.forward switching visiting).sent = some sent ∧ PassedOn visiting sent ∧
        switching sent = .ok answer ∧ (located.forward switching visiting).result = .ok response ∧
          Returned visiting answer response ∧
        AsksUpgrade visiting.headers ∧ sent.headers.values hostField = [.ofText "backend"] ∧
          sent.headers.values forwardedHost = [.ofText "shop"] ∧ sent.headers.values "x-note" = [] ∧
          sent.headers.values "accept" = [.ofText "a", .ofText "b"] ∧
          sent.headers.values connection = [.ofText "upgrade"] ∧
          sent.headers.values upgrade = [.ofText "websocket"] ∧ response.headers = answer.headers) ∧
      ∃ sent answer response, (located.forward answering browsing).sent = some sent ∧ PassedOn browsing sent ∧
        answering sent = .ok answer ∧ (located.forward answering browsing).result = .ok response ∧
          Returned browsing answer response ∧
        ¬AsksUpgrade browsing.headers ∧ sent.headers.values "x-note" = [] ∧ sent.headers.values connection = [] ∧
          sent.headers.values "accept" = [.ofText "a", .ofText "b"] ∧ response.headers.values "x-cache" = [] ∧
          response.headers.values connection = [] ∧ response.headers.values "server" = [.ofText "shop"] := by
  refine ⟨fixed?_nearby, rfl, ?_, ?_⟩
  · have hsome : (located.forward switching visiting).sent.isSome = true := by decide +kernel
    obtain ⟨sent, hsent⟩ := Option.isSome_iff_exists.mp hsome
    obtain ⟨_, hpassed, hanswer⟩ := forward_transparent isRead_located hsent
    obtain ⟨response, hresponse, hreturned⟩ := hanswer _ rfl
    have hasks : AsksUpgrade visiting.headers := by decide +kernel
    have hnote : ¬(AsksUpgrade visiting.headers ∧ ("x-note" = connection ∨ "x-note" = upgrade)) :=
      fun h => absurd h.2 (by decide)
    have hhost : (located.forward switching visiting).sent.map (·.headers.values hostField) =
        some [.ofText "backend"] := by decide +kernel
    rw [hsent] at hhost
    refine ⟨sent, _, response, hsent, hpassed, rfl, hresponse, hreturned, hasks, Option.some.inj hhost,
      ?_, ?_, ?_, ?_, ?_, ?_⟩
    · exact hpassed.asked _ (by decide +kernel)
    · exact hpassed.dropped "x-note" (by decide) (by decide) (.inr (by decide +kernel)) hnote
    · exact hpassed.kept "accept" (by decide) (by decide +kernel)
    · exact (hpassed.upgraded hasks).1
    · exact (hpassed.upgraded hasks).2
    · exact hreturned.switched hasks rfl
  · have hsome : (located.forward answering browsing).sent.isSome = true := by decide +kernel
    obtain ⟨sent, hsent⟩ := Option.isSome_iff_exists.mp hsome
    obtain ⟨_, hpassed, hanswer⟩ := forward_transparent isRead_located hsent
    obtain ⟨response, hresponse, hreturned⟩ := hanswer _ rfl
    have hasks : ¬AsksUpgrade browsing.headers := by decide +kernel
    refine ⟨sent, _, response, hsent, hpassed, rfl, hresponse, hreturned, hasks, ?_, ?_, ?_, ?_, ?_, ?_⟩
    · exact hpassed.dropped "x-note" (by decide) (by decide) (.inr (by decide +kernel)) fun h => hasks h.1
    · exact hpassed.dropped connection (by decide) (by decide) (.inl (by decide)) fun h => hasks h.1
    · exact hpassed.kept "accept" (by decide) (by decide +kernel)
    · exact hreturned.dropped (fun h => hasks h.1) "x-cache" (by decide) (.inr (by decide +kernel))
    · exact hreturned.dropped (fun h => hasks h.1) connection (by decide) (.inl (by decide))
    · exact hreturned.kept (fun h => hasks h.1) "server" (by decide +kernel)

end Gateway

end ApiGateway
