import ApiGateway.Proofs.Gateway.Accounting
import Mathlib.Data.Finset.Prod
import Mathlib.Order.Interval.Finset.Nat

/-!
# How many label sets requests can make

A request that is measured is booked under the family of its path, its method and its status (`Labelled`). There are
six families and nine hundred statuses, but a method is any token that a client makes up, and the probes are measured
for every client (`measured_probe`). So the label sets of a run are at most as many as families, methods and statuses
allow (`Within.after`), and at least as many as the methods with which probes were asked (`card_probeMethodsOf_le`):
they are bounded for a given set of methods, and for clients that choose their methods by nothing
(`labelSets_follow_methods`).
-/

namespace ApiGateway.Gateway

open Http Metrics

/-! ### What a request is booked under -/

/-- Holds for the numbers of three digits, which are the statuses. -/
def IsStatus (n : Nat) : Prop :=
  100 ≤ n ∧ n ≤ 999

instance (n : Nat) : Decidable (IsStatus n) :=
  inferInstanceAs (Decidable (100 ≤ n ∧ n ≤ 999))

/-- Holds if what backends answer has a status. -/
def Surroundings.HasStatuses (around : Surroundings) : Prop :=
  ∀ req answer, around.send req = .ok answer → IsStatus answer.status

/-- What a request with the path and the method leaves in the families of measured requests: nothing, or one entry with
its own labels. -/
inductive Labelled (path : List Char) (method : Method) (m m' : Metrics) : Prop
  | unmeasured (hrequests : m'.requests = m.requests) (hdurations : m'.durations = m.durations)
  | measured (status : Nat) (seconds : Number.Binary64) (hstatus : IsStatus status)
      (hrequests : m'.requests = m.requests.add [Route.label path, method, statusText status])
      (hdurations : m'.durations = m.durations.observe [Route.label path, method] seconds)

/-- What each check refuses with is a status. -/
lemma isStatus_stage (stage : Stage) : IsStatus stage.status := by
  cases stage <;> decide

/-- A request that is passed on is answered with a status. -/
lemma isStatus_forward {g : Gateway} {around : Surroundings} (h : around.HasStatuses) (req : Request) :
    IsStatus (g.forward around.send req).status := by
  have hbad : IsStatus 502 := by decide
  obtain ⟨stage, outcome, -, hforward, -, hstatus⟩ | ⟨backend, base, target, -, htarget, -, hforward⟩ :=
    g.forward_cases req
  · rw [hforward, hstatus]
    exact isStatus_stage stage
  · rw [hforward, (forwardTo_of_target htarget around.send g.metrics backend).2]
    cases hsend : around.send (backendRequest req target) with
    | error e => exact hbad
    | ok answer => exact h _ answer hsend

/-- A probe is answered with a status. -/
lemma isStatus_probeResponse (g : Gateway) (p : Probe) (method : Method) :
    IsStatus (g.probeResponse p method).status := by
  have hok : IsStatus 200 := by decide
  have hunready : IsStatus 503 := by decide
  have hmethod : IsStatus 405 := by decide
  unfold probeResponse
  split
  · cases p with
    | health => exact hok
    | readiness =>
      unfold probeContent
      cases g.topology.ready with
      | true => exact hok
      | false => exact hunready
    | metrics => exact hok
  · exact hmethod

/-- What is served has a status. -/
lemma isStatus_serve {g : Gateway} {around : Surroundings} (h : around.HasStatuses) (req : Request) :
    IsStatus (g.serve around req).response.status := by
  cases hp : Probe.ofPath? req.uri.path with
  | some p =>
    rw [serve_probe hp]
    exact isStatus_probeResponse g p req.method
  | none =>
    rw [(serve_backend hp around).2]
    exact isStatus_forward h req

/-- Being served is not being measured. -/
lemma unmeasured_serve (g : Gateway) (around : Surroundings) (req : Request) :
    (g.serve around req).gateway.metrics.requests = g.metrics.requests ∧
      (g.serve around req).gateway.metrics.durations = g.metrics.durations := by
  unfold serve
  cases Probe.ofPath? req.uri.path with
  | some p => exact ⟨rfl, rfl⟩
  | none =>
    obtain ⟨hrequests, hdurations, -⟩ := (passed_forward g around.send req).others_eq
    exact ⟨hrequests, hdurations⟩

/-- A request that is measured is booked once in each family, under its own labels. -/
lemma measured_measure (g : Gateway) (around : Surroundings) (req : Request) :
    (g.measure around req).gateway.metrics.requests =
        g.metrics.requests.add
          [Route.label req.uri.path, req.method, statusText (g.serve around req).response.status] ∧
      (g.measure around req).gateway.metrics.durations =
        g.metrics.durations.observe [Route.label req.uri.path, req.method] around.seconds := by
  obtain ⟨hrequests, hdurations⟩ := unmeasured_serve g around req
  rw [← hrequests, ← hdurations]
  exact ⟨rfl, rfl⟩

/-- Measuring a request leaves what a request of its path and method leaves. -/
lemma labelled_measure {g : Gateway} {around : Surroundings} (h : around.HasStatuses) (req : Request) :
    Labelled req.uri.path req.method g.metrics (g.measure around req).gateway.metrics := by
  obtain ⟨hrequests, hdurations⟩ := measured_measure g around req
  exact .measured _ around.seconds (isStatus_serve h req) hrequests hdurations

/-- The number of known clients is in neither family of measured requests. -/
lemma unmeasured_setTrackedClients (m : Metrics) (clients : Nat) :
    (m.setTrackedClients clients).requests = m.requests ∧ (m.setTrackedClients clients).durations = m.durations := by
  unfold setTrackedClients
  exact ⟨rfl, rfl⟩

/-- The limiter leaves the families of measured requests alone. -/
lemma unmeasured_admitClient {g g' : Gateway} {now : Nat} {client : Limiter.Client} {decision : Limiter.Decision}
    (h : g.admitClient now client = (decision, g')) :
    g'.metrics.requests = g.metrics.requests ∧ g'.metrics.durations = g.metrics.durations := by
  unfold admitClient at h
  cases hl : g.limiter with
  | none =>
    rw [hl] at h
    cases h
    exact ⟨rfl, rfl⟩
  | some limiter =>
    rw [hl] at h
    cases hcheck : limiter.check now client with
    | mk decision limiter =>
      simp only [hcheck] at h
      cases h
      exact unmeasured_setTrackedClients g.metrics limiter.tracked

/-- A request that is limited first leaves no more than what a request of its path and method leaves. -/
lemma labelled_limit {g : Gateway} {around : Surroundings} (h : around.HasStatuses) (req : Request) :
    Labelled req.uri.path req.method g.metrics (g.limit around req).gateway.metrics := by
  cases hp : Probe.isExempt req.uri.path with
  | true =>
    rw [limit_probe hp]
    exact labelled_measure h req
  | false =>
    cases hd : g.admitClient around.now (Limiter.clientKey req.headers req.peer) with
    | mk decision g' =>
      obtain ⟨hrequests, hdurations⟩ := unmeasured_admitClient hd
      cases decision with
      | allowed =>
        obtain ⟨hmeasured, htimed⟩ := measured_measure g' around req
        rw [hrequests] at hmeasured
        rw [hdurations] at htimed
        rw [limit_of_allowed hp hd]
        exact .measured _ around.seconds (isStatus_serve h req) hmeasured htimed
      | limited scope wait =>
        rw [limit_of_limited hp hd]
        exact .unmeasured hrequests hdurations

/-- A request that is handled leaves no more than what a request of its path and method leaves. -/
lemma labelled_handle {g : Gateway} {around : Surroundings} (h : around.HasStatuses) (req : Request) :
    Labelled req.uri.path req.method g.metrics (g.handle around req).gateway.metrics := by
  have hlimit : Labelled req.uri.path req.method g.metrics (g.limit around (tagged around req)).gateway.metrics :=
    labelled_limit h (tagged around req)
  rw [handle_eq]
  unfold delivered authenticate
  cases (g.gate.check (tagged around req).uri.path (tagged around req).headers).failure? with
  | none => exact hlimit
  | some failure => exact .unmeasured rfl rfl

/-- A request for a probe is measured, whoever makes it: it meets neither the gate nor the limiter. -/
lemma measured_probe (g : Gateway) (around : Surroundings) {req : Request}
    (hp : Probe.isExempt req.uri.path = true) :
    (∃ status, [Route.label req.uri.path, req.method, statusText status] ∈
        (g.handle around req).gateway.metrics.requests.labelSets) ∧
      [Route.label req.uri.path, req.method] ∈ (g.handle around req).gateway.metrics.durations.labelSets := by
  have hmeasure : (g.handle around req).gateway = (g.measure around (tagged around req)).gateway := by
    have hp : Probe.isExempt (tagged around req).uri.path = true := hp
    rw [handle_eq, delivered, authenticate, check_probe hp]
    simp only [Auth.Decision.failure?, limit_probe hp]
  obtain ⟨hrequests, hdurations⟩ := measured_measure g around (tagged around req)
  rw [hmeasure, hrequests, hdurations, Tally.labelSets_add, Histograms.labelSets_observe]
  exact ⟨⟨_, Finset.mem_insert_self _ _⟩, Finset.mem_insert_self _ _⟩

/-! ### Runs -/

/-- Holds if what backends answer in the event has a status. -/
def Event.HasStatuses : Event → Prop
  | .request around _ => around.HasStatuses
  | _ => True

/-- The method of a request. -/
def Event.method? : Event → Option Method
  | .request _ req => some req.method
  | _ => none

/-- The method of a request for a probe. -/
def Event.probeMethod? : Event → Option Method
  | .request _ req => if Probe.isExempt req.uri.path then some req.method else none
  | _ => none

/-- The methods of the requests of a run. -/
def methodsOf (events : List Event) : Finset Method :=
  (events.filterMap Event.method?).toFinset

/-- The methods with which a run asks probes. -/
def probeMethodsOf (events : List Event) : Finset Method :=
  (events.filterMap Event.probeMethod?).toFinset

/-- Only requests leave anything in the families of measured requests. -/
lemma labelled_step {g : Gateway} {e : Event} (hstatuses : e.HasStatuses) :
    (∃ path method, e.method? = some method ∧ Labelled path method g.metrics (g.step e).metrics) ∨
      ((g.step e).metrics.requests = g.metrics.requests ∧ (g.step e).metrics.durations = g.metrics.durations) := by
  cases e with
  | request around req => exact .inl ⟨req.uri.path, req.method, rfl, labelled_handle hstatuses req⟩
  | publish snapshot => exact .inr ⟨rfl, rfl⟩
  | fail message => exact .inr ⟨rfl, rfl⟩
  | settle outcome =>
    cases outcome with
    | ok snapshot => exact .inr ⟨rfl, rfl⟩
    | error e => exact .inr ⟨rfl, rfl⟩

/-- What holds of the families of measured requests, and still does after an entry for a request of the run, holds after
the run. -/
lemma after_of_labelled {P : Metrics → Prop} {g : Gateway} {events : List Event}
    (hstatuses : ∀ e ∈ events, e.HasStatuses) (h : P g.metrics)
    (hkeep : ∀ m m' : Metrics, m'.requests = m.requests → m'.durations = m.durations → P m → P m')
    (hbook : ∀ e ∈ events, ∀ path method, e.method? = some method → ∀ m m', Labelled path method m m' → P m → P m') :
    P (g.after events).metrics := by
  induction events generalizing g with
  | nil => exact h
  | cons e rest ih =>
    have hstep : P (g.step e).metrics := by
      obtain ⟨path, method, hmethod, hl⟩ | ⟨hrequests, hdurations⟩ :=
        labelled_step (g := g) (hstatuses e List.mem_cons_self)
      · exact hbook e List.mem_cons_self path method hmethod _ _ hl h
      · exact hkeep _ _ hrequests hdurations h
    exact ih (fun e' he' => hstatuses e' (List.mem_cons_of_mem e he')) hstep
      fun e' he' => hbook e' (List.mem_cons_of_mem e he')

/-- The names of the families of paths. -/
def families : Finset String :=
  {"healthz", "readyz", "metrics", "primary", "analyzer", "unmatched"}

/-- Every path has a label from the families. -/
lemma label_mem_families (path : List Char) : Route.label path ∈ families := by
  cases hp : Probe.ofPath? path with
  | some p =>
    rw [Route.label_probe hp]
    cases p <;> decide
  | none =>
    rw [Route.label_backend hp]
    cases Route.backend? path with
    | none => decide
    | some b => cases b <;> decide

/-- The label sets of measured requests are made of families, the methods and statuses. -/
structure Within (methods : Finset Method) (m : Metrics) : Prop where
  requests : m.requests.labelSets ⊆
    (families ×ˢ methods ×ˢ Finset.Icc 100 999).image fun l => [l.1, l.2.1, statusText l.2.2]
  durations : m.durations.labelSets ⊆ (families ×ˢ methods).image fun l => [l.1, l.2]

/-- Nothing is in fresh metrics. -/
lemma Within.fresh (methods : Finset Method) : Within methods {} :=
  ⟨Finset.empty_subset _, Finset.empty_subset _⟩

/-- The methods still suffice after a request with one of them. -/
lemma Within.book {methods : Finset Method} {m m' : Metrics} {path : List Char} {method : Method}
    (h : Within methods m) (hm : method ∈ methods) (hl : Labelled path method m m') : Within methods m' := by
  cases hl with
  | unmeasured hrequests hdurations => exact ⟨hrequests ▸ h.requests, hdurations ▸ h.durations⟩
  | measured status seconds hstatus hrequests hdurations =>
    have hpair : (Route.label path, method) ∈ families ×ˢ methods :=
      Finset.mem_product.mpr ⟨label_mem_families path, hm⟩
    have htriple : (Route.label path, method, status) ∈ families ×ˢ methods ×ˢ Finset.Icc 100 999 :=
      Finset.mem_product.mpr ⟨label_mem_families path, Finset.mem_product.mpr ⟨hm, Finset.mem_Icc.mpr hstatus⟩⟩
    constructor
    · rw [hrequests, Tally.labelSets_add]
      exact Finset.insert_subset (Finset.mem_image_of_mem _ htriple) h.requests
    · rw [hdurations, Histograms.labelSets_observe]
      exact Finset.insert_subset (Finset.mem_image_of_mem _ hpair) h.durations

/-- The methods suffice after a run that uses no others. -/
lemma Within.after {methods : Finset Method} {g : Gateway} (h : Within methods g.metrics) {events : List Event}
    (hstatuses : ∀ e ∈ events, e.HasStatuses) (hm : methodsOf events ⊆ methods) :
    Within methods (g.after events).metrics := by
  refine after_of_labelled hstatuses h (fun m m' hrequests hdurations h => ?_) fun e he path method hmethod m m' hl h => ?_
  · exact ⟨hrequests ▸ h.requests, hdurations ▸ h.durations⟩
  · exact h.book (hm (List.mem_toFinset.mpr (List.mem_filterMap.mpr ⟨e, he, hmethod⟩))) hl

/-- Six families, the methods and 900 statuses bound the label sets of the requests. -/
lemma Within.card_requests {methods : Finset Method} {m : Metrics} (h : Within methods m) :
    m.requests.labelSets.card ≤ 6 * (methods.card * 900) := by
  calc m.requests.labelSets.card
      ≤ (families ×ˢ methods ×ˢ Finset.Icc 100 999).card := (Finset.card_le_card h.requests).trans Finset.card_image_le
    _ = 6 * (methods.card * 900) := by rw [Finset.card_product, Finset.card_product, Nat.card_Icc]; rfl

/-- Six families and the methods bound the label sets of the durations. -/
lemma Within.card_durations {methods : Finset Method} {m : Metrics} (h : Within methods m) :
    m.durations.labelSets.card ≤ 6 * methods.card := by
  calc m.durations.labelSets.card
      ≤ (families ×ˢ methods).card := (Finset.card_le_card h.durations).trans Finset.card_image_le
    _ = 6 * methods.card := by rw [Finset.card_product]; rfl

/-! ### Methods of probes -/

/-- The method that a label set holds. -/
def methodOf? (labels : Labels) : Option Method :=
  labels[1]?

/-- The method has an entry in both families of measured requests. -/
structure Entered (method : Method) (m : Metrics) : Prop where
  requests : some method ∈ m.requests.labelSets.image methodOf?
  durations : some method ∈ m.durations.labelSets.image methodOf?

/-- The method with which a probe is asked gets an entry. -/
lemma entered_probe {g : Gateway} {around : Surroundings} {req : Request} (hp : Probe.isExempt req.uri.path = true) :
    Entered req.method (g.handle around req).gateway.metrics := by
  obtain ⟨⟨status, hrequests⟩, hdurations⟩ := measured_probe g around hp
  exact ⟨Finset.mem_image.mpr ⟨_, hrequests, rfl⟩, Finset.mem_image.mpr ⟨_, hdurations, rfl⟩⟩

/-- What has an entry keeps it. -/
lemma Entered.book {method other : Method} {m m' : Metrics} {path : List Char} (h : Entered method m)
    (hl : Labelled path other m m') : Entered method m' := by
  cases hl with
  | unmeasured hrequests hdurations => exact ⟨hrequests ▸ h.requests, hdurations ▸ h.durations⟩
  | measured status seconds hstatus hrequests hdurations =>
    constructor
    · rw [hrequests, Tally.labelSets_add]
      exact Finset.image_subset_image (Finset.subset_insert _ _) h.requests
    · rw [hdurations, Histograms.labelSets_observe]
      exact Finset.image_subset_image (Finset.subset_insert _ _) h.durations

/-- An entry of a method is kept in a run of any length. -/
lemma Entered.after {method : Method} {g : Gateway} (h : Entered method g.metrics) {events : List Event}
    (hstatuses : ∀ e ∈ events, e.HasStatuses) : Entered method (g.after events).metrics := by
  refine after_of_labelled hstatuses h (fun m m' hrequests hdurations h => ?_) fun e _ path other _ m m' hl h => h.book hl
  exact ⟨hrequests ▸ h.requests, hdurations ▸ h.durations⟩

/-- Every method with which a run asks probes has an entry after it. -/
lemma entered_of_probeMethod? {g : Gateway} {events : List Event} (hstatuses : ∀ e ∈ events, e.HasStatuses)
    {e : Event} (he : e ∈ events) {method : Method} (hmethod : e.probeMethod? = some method) :
    Entered method (g.after events).metrics := by
  induction events generalizing g with
  | nil => cases he
  | cons first rest ih =>
    have hrest : ∀ e ∈ rest, e.HasStatuses := fun e he => hstatuses e (List.mem_cons_of_mem first he)
    cases he with
    | tail _ he => exact ih hrest he
    | head =>
      have hentered : Entered method (g.step e).metrics := by
        cases e with
        | request around req =>
          simp only [Event.probeMethod?, Option.ite_none_right_eq_some] at hmethod
          obtain ⟨hp, hreq⟩ := hmethod
          obtain rfl := Option.some.inj hreq
          exact entered_probe hp
        | publish snapshot => cases hmethod
        | fail message => cases hmethod
        | settle outcome => cases hmethod
      exact hentered.after hrest

/-- If every method has an entry, there are at least as many label sets as methods. -/
lemma card_le_of_image {labelSets : Finset Labels} {methods : Finset Method}
    (h : ∀ method ∈ methods, some method ∈ labelSets.image methodOf?) : methods.card ≤ labelSets.card := by
  calc methods.card
      = (methods.image some).card := (Finset.card_image_of_injective methods (Option.some_injective Method)).symm
    _ ≤ (labelSets.image methodOf?).card := by
        apply Finset.card_le_card
        intro o ho
        obtain ⟨method, hmethod, rfl⟩ := Finset.mem_image.mp ho
        exact h method hmethod
    _ ≤ labelSets.card := Finset.card_image_le

/-- There are at least as many label sets as methods with which probes were asked. -/
lemma card_probeMethodsOf_le {g : Gateway} {events : List Event} (hstatuses : ∀ e ∈ events, e.HasStatuses) :
    (probeMethodsOf events).card ≤ (g.after events).metrics.requests.labelSets.card ∧
      (probeMethodsOf events).card ≤ (g.after events).metrics.durations.labelSets.card := by
  have hentered : ∀ method ∈ probeMethodsOf events, Entered method (g.after events).metrics := by
    intro method hmethod
    rw [probeMethodsOf, List.mem_toFinset, List.mem_filterMap] at hmethod
    obtain ⟨e, he, hmethod⟩ := hmethod
    exact entered_of_probeMethod? hstatuses he hmethod
  exact ⟨card_le_of_image fun method hmethod => (hentered method hmethod).requests,
    card_le_of_image fun method hmethod => (hentered method hmethod).durations⟩

/-! ### Made-up methods -/

/-- A method that no standard knows: a word of `n + 1` letters. -/
def madeUp (n : Nat) : Method :=
  String.ofList (List.replicate (n + 1) 'A')

/-- A request with a made-up method for the health of the gateway, without any header field. -/
def knock (n : Nat) : Request :=
  { method := madeUp n, uri := .relative ⟨"/healthz".toList, none⟩ }

/-- As many such requests, each with another method. -/
def knocks (n : Nat) : List Event :=
  (List.range n).map fun i => .request (quiet 0 "knock") (knock i)

/-- Made-up methods are all different. -/
lemma madeUp_injective : Function.Injective madeUp := by
  intro i j h
  have hlength := congrArg (fun method => method.toList.length) h
  simpa [madeUp] using hlength

/-- Made-up methods are methods as a request may have them. -/
lemma isToken_madeUp (n : Nat) : isToken (madeUp n).toList = true := by
  have hall : ∀ c ∈ List.replicate (n + 1) 'A', isTokenChar c = true := by
    intro c hc
    rw [List.eq_of_mem_replicate hc]
    decide
  rw [madeUp, String.toList_ofList, isToken, List.all_eq_true.mpr hall]
  rfl

/-- What backends answer to knocks has a status. -/
lemma hasStatuses_knocks {n : Nat} {e : Event} (he : e ∈ knocks n) : e.HasStatuses := by
  obtain ⟨i, -, rfl⟩ := List.mem_map.mp he
  intro req answer hanswer
  obtain rfl := Except.ok.inj hanswer
  decide

/-- A knock asks a probe with its made-up method. -/
lemma probeMethod?_knock (around : Surroundings) (n : Nat) :
    (Event.request around (knock n)).probeMethod? = some (madeUp n) := by
  have hp : Probe.isExempt "/healthz".toList = true := by decide
  rw [Event.probeMethod?]
  exact if_pos hp

/-- Each knock asks with another method. -/
lemma card_probeMethodsOf_knocks (n : Nat) : (probeMethodsOf (knocks n)).card = n := by
  have hmethod : (Event.probeMethod? ∘ fun i => Event.request (quiet 0 "knock") (knock i)) = some ∘ madeUp :=
    funext fun i => probeMethod?_knock _ i
  have hmethods : (knocks n).filterMap Event.probeMethod? = (List.range n).map madeUp := by
    rw [knocks, List.filterMap_map, hmethod, List.filterMap_eq_map]
  rw [probeMethodsOf, hmethods, List.toFinset_card_of_nodup (List.nodup_range.map madeUp_injective), List.length_map,
    List.length_range]

/-- The label sets of measured requests are as many as the methods of the requests allow, whatever their number, order,
paths and header fields are: at least one for each method with which a probe was asked, and at most one for each
family, method and status, or family and method. So no bound holds for all runs: whatever the gate, the limiter and
the topology are, clients without a credential exceed it with methods that they make up. -/
theorem labelSets_follow_methods (gate : Auth.Gate) (limiter : Option Limiter) (topology : Topology) :
    let g : Gateway := { gate, limiter, topology }
    (∀ events, (∀ e ∈ events, e.HasStatuses) →
        let m := (g.after events).metrics
        ((probeMethodsOf events).card ≤ m.requests.labelSets.card ∧
            m.requests.labelSets.card ≤ 6 * ((methodsOf events).card * 900)) ∧
          (probeMethodsOf events).card ≤ m.durations.labelSets.card ∧
            m.durations.labelSets.card ≤ 6 * (methodsOf events).card) ∧
      ∀ bound, ∃ events,
        (∀ e ∈ events, ∃ around req, e = .request around req ∧ around.HasStatuses ∧
            isToken req.method.toList = true ∧ req.headers = [] ∧ req.uri.path = "/healthz".toList) ∧
          bound < (g.after events).metrics.requests.labelSets.card ∧
            bound < (g.after events).metrics.durations.labelSets.card := by
  intro g
  constructor
  · intro events hstatuses
    obtain ⟨hrequests, hdurations⟩ := card_probeMethodsOf_le (g := g) hstatuses
    have hwithin : Within (methodsOf events) (g.after events).metrics :=
      (Within.fresh _).after hstatuses (Finset.Subset.refl _)
    exact ⟨⟨hrequests, hwithin.card_requests⟩, hdurations, hwithin.card_durations⟩
  · intro bound
    -- one more made-up method than the bound
    have hstatuses : ∀ e ∈ knocks (bound + 1), e.HasStatuses := fun _ he => hasStatuses_knocks he
    obtain ⟨hrequests, hdurations⟩ := card_probeMethodsOf_le (g := g) hstatuses
    rw [card_probeMethodsOf_knocks] at hrequests hdurations
    refine ⟨knocks (bound + 1), ?_, hrequests, hdurations⟩
    intro e he
    have hstatus := hstatuses e he
    obtain ⟨i, -, rfl⟩ := List.mem_map.mp he
    exact ⟨_, _, rfl, hstatus, isToken_madeUp i, rfl, rfl⟩

/-- Sixty-one strangers' requests to a gateway that asks for a token make sixty-one label sets of durations, more than
the six families and nine registered methods and one word for all others have together. -/
theorem labelSets_knocking :
    (∀ e ∈ knocks 61, e.HasStatuses) ∧
      61 ≤ (guarded.after (knocks 61)).metrics.requests.labelSets.card ∧
        61 ≤ (guarded.after (knocks 61)).metrics.durations.labelSets.card := by
  have hstatuses : ∀ e ∈ knocks 61, e.HasStatuses := fun _ he => hasStatuses_knocks he
  have hguarded : ({ gate := guarded.gate, limiter := guarded.limiter, topology := guarded.topology } : Gateway) =
      guarded := rfl
  obtain ⟨⟨hrequests, -⟩, hdurations, -⟩ :=
    (labelSets_follow_methods guarded.gate guarded.limiter guarded.topology).1 (knocks 61) hstatuses
  rw [card_probeMethodsOf_knocks, hguarded] at hrequests hdurations
  exact ⟨hstatuses, hrequests, hdurations⟩

end ApiGateway.Gateway
