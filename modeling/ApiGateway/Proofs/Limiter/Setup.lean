import ApiGateway.Limiter.Basic
import Mathlib.Tactic.Lemma

/-!
# Setting up a limiter

A rate has a quota exactly if it has a period of at least a nanosecond and a burst (`Rate.quota?_eq_ok_iff`,
`Rate.exists_quota?_iff`). Settings make a limiter exactly if both rates have a quota, some client may be
known and the clock can count the period of all requests (`ofSettings?_eq_ok_iff`); the period is looked at
last, so that settings with another fault are refused for that one (`ofSettings?_of_quotas`).
-/

namespace ApiGateway.Limiter

namespace Rate

/-- A number with a period is finite and positive. -/
lemma finite_of_period? {r : Number.Binary64} {period : Nat} (h : period? r = some period) :
    (r.isFinite && r.isPositive) = true := by
  unfold period? at h
  split at h
  · assumption
  · cases h

/-- A rate has a quota of its period and burst or is refused, and then not for what the clock can count. -/
lemma quota?_cases (r : Rate) :
    (∃ q, r.quota? = .ok q ∧ period? r.perSecond = some q.period ∧ r.burst = q.burst) ∨
      ∃ e, r.quota? = .error e ∧ e ≠ .periodTooLong := by
  unfold quota?
  split
  · split
    · cases hp : period? r.perSecond with
      | none => exact .inr ⟨_, rfl, nofun⟩
      | some period =>
        simp only
        split
        · exact .inl ⟨_, rfl, rfl, rfl⟩
        · exact .inr ⟨_, rfl, nofun⟩
    · exact .inr ⟨_, rfl, nofun⟩
  · exact .inr ⟨_, rfl, nofun⟩

/-- The quota of a rate has the period and the burst of the rate. -/
lemma quota?_eq_ok_iff {r : Rate} {q : Quota} :
    r.quota? = .ok q ↔ period? r.perSecond = some q.period ∧ r.burst = q.burst := by
  constructor
  · intro h
    obtain ⟨q', hq', hp, hb⟩ | ⟨e, he, _⟩ := r.quota?_cases
    · cases h.symm.trans hq'
      exact ⟨hp, hb⟩
    · cases h.symm.trans he
  · rintro ⟨hp, hb⟩
    obtain ⟨period, burst, hperiod, hburst⟩ := q
    cases hb
    unfold quota?
    rw [if_pos (finite_of_period? hp), dif_pos hburst]
    simp only [hp]
    rw [dif_pos hperiod]

/-- A rate has a quota if it has a period that takes time, and a burst. -/
lemma exists_quota?_iff {r : Rate} :
    (∃ q, r.quota? = .ok q) ↔ (∃ period, period? r.perSecond = some period ∧ 0 < period) ∧ 0 < r.burst := by
  constructor
  · rintro ⟨q, hq⟩
    obtain ⟨hp, hb⟩ := quota?_eq_ok_iff.mp hq
    exact ⟨⟨q.period, hp, q.period_pos⟩, hb ▸ q.burst_pos⟩
  · rintro ⟨⟨period, hp, hperiod⟩, hb⟩
    exact ⟨⟨period, r.burst, hperiod, hb⟩, quota?_eq_ok_iff.mpr ⟨hp, rfl⟩⟩

end Rate

/-- Settings whose rates have quotas make a limiter, unless no client may be known or the clock cannot count
the period of all requests. -/
lemma ofSettings?_of_quotas {s : Settings} {p q : Quota} (hp : s.shared.quota? = .ok p)
    (hq : s.client.quota? = .ok q) (now : Nat) (listing : Listing) :
    ofSettings? s now listing =
      if s.maxClients = 0 then .error .zeroClients
      else if p.isCountable then .ok ⟨p, q, s.maxClients, s.idle, listing, Bucket.new now, ⟨[], now, 0⟩⟩
      else .error .periodTooLong := by
  unfold ofSettings?
  rw [hp, hq]
  by_cases hm : s.maxClients = 0
  · simp [hm, bind, Except.bind, throw, throwThe, MonadExceptOf.throw]
  · cases hc : p.isCountable with
    | false => simp [hm, hc, bind, Except.bind, throw, throwThe, MonadExceptOf.throw]
    | true => simp [hm, hc, bind, Except.bind, pure, Except.pure]

/-- Settings without a quota for all requests or for clients are refused, and not for what the clock can
count. -/
lemma ofSettings?_of_no_quota {s : Settings}
    (h : ¬ ((∃ p, s.shared.quota? = .ok p) ∧ ∃ q, s.client.quota? = .ok q)) (now : Nat)
    (listing : Listing) : ∃ e, ofSettings? s now listing = .error e ∧ e ≠ .periodTooLong := by
  obtain ⟨p, hp, _⟩ | ⟨e, he, hne⟩ := s.shared.quota?_cases
  · obtain ⟨q, hq, _⟩ | ⟨e, he, hne⟩ := s.client.quota?_cases
    · exact absurd ⟨⟨p, hp⟩, ⟨q, hq⟩⟩ h
    · refine ⟨e, ?_, hne⟩
      unfold ofSettings?
      rw [hp, he]
      rfl
  · refine ⟨e, ?_, hne⟩
    unfold ofSettings?
    rw [he]
    rfl

/-- What settings make a limiter, and which one. -/
lemma ofSettings?_eq_ok_iff {s : Settings} {now : Nat} {listing : Listing} {l : Limiter} :
    ofSettings? s now listing = .ok l ↔
      ∃ p q, s.shared.quota? = .ok p ∧ s.client.quota? = .ok q ∧ s.maxClients ≠ 0 ∧
        p.isCountable = true ∧ l = ⟨p, q, s.maxClients, s.idle, listing, Bucket.new now, ⟨[], now, 0⟩⟩ := by
  constructor
  · intro h
    by_cases hquotas : (∃ p, s.shared.quota? = .ok p) ∧ ∃ q, s.client.quota? = .ok q
    · obtain ⟨⟨p, hp⟩, ⟨q, hq⟩⟩ := hquotas
      rw [ofSettings?_of_quotas hp hq] at h
      split at h
      · cases h
      · next hm =>
        split at h
        · next hc =>
          cases h
          exact ⟨p, q, hp, hq, hm, hc, rfl⟩
        · cases h
    · obtain ⟨e, he, _⟩ := ofSettings?_of_no_quota hquotas now listing
      rw [he] at h
      cases h
  · rintro ⟨p, q, hp, hq, hm, hc, rfl⟩
    rw [ofSettings?_of_quotas hp hq, if_neg hm, if_pos hc]

/-- Settings with these quotas make no other limiter than that of them. -/
lemma eq_of_ofSettings? {s : Settings} {now : Nat} {listing : Listing} {l : Limiter} {p q : Quota}
    (hl : ofSettings? s now listing = .ok l) (hp : s.shared.quota? = .ok p) (hq : s.client.quota? = .ok q) :
    l = ⟨p, q, s.maxClients, s.idle, listing, Bucket.new now, ⟨[], now, 0⟩⟩ := by
  obtain ⟨p', q', hp', hq', _, _, rfl⟩ := ofSettings?_eq_ok_iff.mp hl
  cases hp.symm.trans hp'
  cases hq.symm.trans hq'
  rfl

/-! ### A small limiter -/

/-- Ten requests a second in all and one of each client, with bursts, for two clients that are forgotten
after two seconds. -/
def small : Settings :=
  ⟨⟨.ofNat 10, 20⟩, ⟨.ofNat 1, 2⟩, 2, 2000000000⟩

/-- The quota of all requests. -/
def smallShared : Quota :=
  ⟨100000000, 20, by decide, by decide⟩

/-- The quota of each client. -/
def smallClient : Quota :=
  ⟨1000000000, 2, by decide, by decide⟩

/-- The entries from the one that was made last to the first. -/
def Listing.latest : Listing :=
  ⟨fun _ entries => entries.reverse, fun _ entries => entries.reverse_perm⟩

/-- The limiter of these settings that goes through its clients in an order. -/
def smallLimiterOf (listing : Listing) : Limiter :=
  ⟨smallShared, smallClient, 2, 2000000000, listing, Bucket.new 0, ⟨[], 0, 0⟩⟩

/-- The one that goes through them from the last to the first. -/
abbrev smallLimiter : Limiter :=
  smallLimiterOf .latest

/-- The quota of all requests is the one that the small settings ask for. -/
lemma quota?_small_shared : small.shared.quota? = .ok smallShared :=
  Rate.quota?_eq_ok_iff.mpr ⟨by decide, rfl⟩

/-- The quota of each client is the one that the small settings ask for. -/
lemma quota?_small_client : small.client.quota? = .ok smallClient :=
  Rate.quota?_eq_ok_iff.mpr ⟨by decide, rfl⟩

/-- The small settings set up the limiter of these quotas, in whatever order it goes through its clients. -/
lemma ofSettings?_small_of (listing : Listing) : ofSettings? small 0 listing = .ok (smallLimiterOf listing) :=
  ofSettings?_eq_ok_iff.mpr
    ⟨smallShared, smallClient, quota?_small_shared, quota?_small_client, by decide, by decide, rfl⟩

/-- The small settings set up the small limiter. -/
lemma ofSettings?_small : ofSettings? small 0 .latest = .ok smallLimiter :=
  ofSettings?_small_of .latest

end ApiGateway.Limiter
