import ApiGateway.Proofs.Gateway.Isolation
import ApiGateway.Proofs.Gateway.Setup
import ApiGateway.Proofs.Limiter.Run

/-!
# Every request gets an answer

The bucket of a client is made when its first request comes, and it cannot be made if its period is one that the
clock cannot count. Setting up a gateway looks at the period of all requests only. `handle?_after` says what follows:
if the clock can count the period of each client, every request of every run is answered, and otherwise the first one
that comes to the limiter is not.

`Countable` is what carries a run: no event changes the quota of the clients.
-/

namespace ApiGateway

/-- The clock counts the time in which one request of a client becomes due, if requests are limited. -/
def Settings.ClientsCounted (s : Settings) : Prop :=
  s.rateLimitEnabled = true →
    ∀ period, Limiter.Rate.period? s.clientRate.perSecond = some period → period < Limiter.Quota.periodLimit

namespace Gateway

/-- The clock can count the period of the clients, if there is a limiter. -/
def Countable (g : Gateway) : Prop :=
  ∀ l, g.limiter = some l → l.clientQuota.isCountable = true

namespace Countable

/-- Letting a client in does not change the quota of clients. -/
lemma admitClient {g : Gateway} (h : g.Countable) (now : Nat) (client : Limiter.Client) :
    (g.admitClient now client).2.Countable := by
  unfold Gateway.admitClient
  cases hl : g.limiter with
  | none =>
    intro l hl'
    cases hl.symm.trans hl'
  | some limiter =>
    intro l hl'
    have hchecked : some (limiter.check now client).2 = some l := hl'
    rw [← Option.some.inj hchecked, (limiter.bounds_check now client).2.1]
    exact h limiter hl

/-- Handling a request does not change the quota of clients. -/
lemma handle {g : Gateway} (h : g.Countable) (around : Surroundings) (req : Http.Request) :
    (g.handle around req).gateway.Countable :=
  handle_keeps (fun _ _ h => h) (fun _ now client h => h.admitClient now client) h around req

/-- No event changes the quota of clients. -/
lemma step {g : Gateway} (h : g.Countable) (e : Event) : (g.step e).Countable := by
  cases e with
  | request around req => exact h.handle around req
  | publish snapshot => exact h
  | fail message => exact h
  | settle outcome => exact h

/-- No run changes the quota of clients. -/
lemma after {g : Gateway} (h : g.Countable) (events : List Event) : (g.after events).Countable := by
  induction events generalizing g with
  | nil => exact h
  | cons e rest ih => exact ih (h.step e)

/-- A limiter of countable quotas has no bucket that the clock cannot count. -/
lemma not_isBroken {g : Gateway} (h : g.Countable) : g.isBroken = false := by
  unfold isBroken
  cases hl : g.limiter with
  | none => rfl
  | some l =>
    rw [Option.any_some, Limiter.isBroken, h l hl]
    rfl

end Countable

/-- The limiter of a new gateway is that of its settings. -/
lemma limiter_of_ofSettings? {s : Settings} {now : Nat} {listing : Limiter.Listing} {g : Gateway}
    (hg : ofSettings? s now listing = .ok g) : limiterOf? s now listing = .ok g.limiter := by
  obtain ⟨_, gate, hgate⟩ | ⟨_, hgate⟩ := gateOf?_cases s
  · rw [ofSettings?_of_gate hgate] at hg
    cases hl : limiterOf? s now listing with
    | error e =>
      rw [hl] at hg
      cases hg
    | ok limiter =>
      rw [hl] at hg
      cases hg
      rfl
  · unfold ofSettings? at hg
    rw [hgate] at hg
    cases hg

/-- Where requests are limited a new gateway has a limiter, whose clients have the quota of their rate. -/
lemma exists_limiter_of_limited {s : Settings} (h : s.rateLimitEnabled = true) {now : Nat}
    {listing : Limiter.Listing} {g : Gateway} (hg : ofSettings? s now listing = .ok g) :
    ∃ l settings, g.limiter = some l ∧ Limiter.ofSettings? settings now listing = .ok l ∧
      Limiter.Rate.period? s.clientRate.perSecond = some l.clientQuota.period := by
  have hl := limiter_of_ofSettings? hg
  rw [limiterOf?_of_limited h] at hl
  cases hset : Limiter.ofSettings? ⟨s.sharedRate, s.clientRate, s.rateLimitMaxClients,
      Time.ofSeconds s.rateLimitClientIdleSecs⟩ now listing with
  | error e =>
    rw [hset] at hl
    cases hl
  | ok l =>
    rw [hset] at hl
    refine ⟨l, _, (Except.ok.inj hl).symm, hset, ?_⟩
    obtain ⟨p, q, _, hq, _, _, rfl⟩ := Limiter.ofSettings?_eq_ok_iff.mp hset
    exact (Limiter.Rate.quota?_eq_ok_iff.mp hq).1

/-- A new gateway is countable exactly if the clock counts the period of its clients. -/
lemma countable_iff {s : Settings} {now : Nat} {listing : Limiter.Listing} {g : Gateway}
    (hg : ofSettings? s now listing = .ok g) : g.Countable ↔ s.ClientsCounted := by
  cases hlimited : s.rateLimitEnabled with
  | false =>
    have hnone := (limiter_of_ofSettings? hg).symm.trans (limiterOf?_of_unlimited hlimited now listing)
    refine iff_of_true ?_ ?_
    · intro l hl
      rw [Except.ok.inj hnone] at hl
      cases hl
    · intro henabled
      rw [hlimited] at henabled
      cases henabled
  | true =>
    obtain ⟨l, _, hl, _, hperiod⟩ := exists_limiter_of_limited hlimited hg
    constructor
    · rintro hcountable _ period hp
      cases hperiod.symm.trans hp
      exact of_decide_eq_true (hcountable l hl)
    · rintro hcounted l' hl'
      cases hl.symm.trans hl'
      exact decide_eq_true (hcounted hlimited _ hperiod)

/-- What is broken when a client was let in or not is so when its request is answered. -/
lemma isBroken_limit {req : Http.Request} (hp : Probe.isExempt req.uri.path = false) (g : Gateway)
    (around : Surroundings) :
    (g.limit around req).gateway.isBroken =
      (g.admitClient around.now (Limiter.clientKey req.headers req.peer)).2.isBroken := by
  cases hd : g.admitClient around.now (Limiter.clientKey req.headers req.peer) with
  | mk decision g' =>
    cases decision with
    | allowed =>
      rw [limit_of_allowed hp hd]
      unfold measure serve
      cases Probe.ofPath? req.uri.path with
      | some p => rfl
      | none => rfl
    | limited scope wait =>
      rw [limit_of_limited hp hd]
      rfl

/-- A request that the gate lets pass leaves the gateway that the limiter and what is behind it leave. -/
lemma gateway_handle {g : Gateway} {around : Surroundings} {req : Http.Request}
    (h : (g.gate.check req.uri.path req.headers).failure?.isSome = false) :
    (g.handle around req).gateway = (g.limit around (tagged around req)).gateway := by
  have htagged : (g.gate.check (tagged around req).uri.path (tagged around req).headers).failure?.isSome = false :=
    (g.fails_tagged around.now around req .credential).trans h
  rw [Option.isSome_eq_false_iff, Option.isNone_iff_eq_none] at htagged
  rw [handle_eq, delivered, authenticate, htagged]

/-- If the clock counts the period of each client, every request of every run is answered. Otherwise the first request
that the gate lets pass is not, unless it is for a probe. -/
theorem handle?_after {s : Settings} {now : Nat} {listing : Limiter.Listing} {g : Gateway}
    (hg : ofSettings? s now listing = .ok g) (around : Surroundings) (req : Http.Request) :
    (s.ClientsCounted → ∀ events,
        (g.after events).handle? around req = some ((g.after events).handle around req)) ∧
      (¬ s.ClientsCounted → Probe.isExempt req.uri.path = false →
        (g.gate.check req.uri.path req.headers).failure?.isSome = false → g.handle? around req = none) := by
  constructor
  · intro hcounted events
    have hcountable := ((countable_iff hg).mpr hcounted).after events
    refine if_neg ?_
    rw [(hcountable.handle around req).not_isBroken]
    exact Bool.false_ne_true
  · intro hnot hp hpasses
    have hlimited : s.rateLimitEnabled = true := by
      by_contra hlimited
      exact hnot fun h => absurd h hlimited
    obtain ⟨l, settings, hl, hset, _⟩ := exists_limiter_of_limited hlimited hg
    have hlong : l.clientQuota.isCountable = false := by
      by_contra hcountable
      refine hnot ((countable_iff hg).mp ?_)
      intro l' hl'
      cases hl.symm.trans hl'
      simpa using hcountable
    -- the client gets its first bucket now, with a period that the clock cannot count
    refine if_pos ?_
    have htagged : Probe.isExempt (tagged around req).uri.path = false := hp
    rw [gateway_handle hpasses, isBroken_limit htagged, admitClient, hl]
    exact Limiter.isBroken_check_of_new hset hlong around.now _

end Gateway

end ApiGateway
