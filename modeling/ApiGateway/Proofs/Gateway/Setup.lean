import ApiGateway.Gateway.Basic
import ApiGateway.Proofs.Limiter.Setup
import ApiGateway.Settings.Validation
import Mathlib.Tactic.Tauto

/-!
# Setting up a gateway

Validation and setup decide about settings separately. `ofSettings?_of_validate` compares them: the settings
that pass validation set up a gateway exactly if the clock counts the period of all requests, which validation
does not look at, and the settings that fail it for their token, their rates, their bursts or the number of
clients set up none. The idle time is looked at by validation alone.

`Settings.limitProblems_iff` is what the comparison rests on: the limits have no other problem than the idle
time exactly if both rates have a quota and some client may be known. `Settings.discovery_times_of_validate` gives
what a discovery needs of its settings to keep its timetable.
-/

namespace ApiGateway

namespace Settings

/-- A problem is listed exactly if the condition does not hold. -/
lemma mem_ensure {ok : Bool} {p x : Problem} : x ∈ ensure ok p ↔ ok = false ∧ x = p := by
  unfold ensure
  cases ok with
  | true => simp
  | false => simp

/-- Problems are as one says if those that are listed are. -/
lemma forall_mem_ensure {ok : Bool} {p : Problem} {P : Problem → Prop} :
    (∀ x ∈ ensure ok p, P x) ↔ (ok = false → P p) := by
  constructor
  · intro h hok
    exact h p (mem_ensure.mpr ⟨hok, rfl⟩)
  · rintro h x hx
    obtain ⟨hok, rfl⟩ := mem_ensure.mp hx
    exact h hok

/-- Nothing is listed exactly if the condition holds. -/
lemma ensure_eq_nil_iff {ok : Bool} {p : Problem} : ensure ok p = [] ↔ ok = true := by
  unfold ensure
  cases ok with
  | true => simp
  | false => simp

/-- Settings are accepted exactly if they have no problem. -/
lemma validate_eq_ok_iff {read : Log.FilterReader} {s : Settings} :
    s.validate read = .ok () ↔ s.problems read = [] := by
  unfold validate
  constructor
  · intro h
    split at h
    · assumption
    · cases h
    · cases h
  · intro h
    rw [h]

/-- Accepted settings have no problem with authentication and none with the limits. -/
lemma auth_limit_of_validate {read : Log.FilterReader} {s : Settings} (h : s.validate read = .ok ()) :
    s.authProblems = [] ∧ s.limitProblems = [] := by
  have hnil := validate_eq_ok_iff.mp h
  simp only [problems, List.append_eq_nil_iff] at hnil
  obtain ⟨⟨⟨⟨_, hauth⟩, _⟩, _⟩, hlimit⟩ := hnil
  exact ⟨hauth, hlimit⟩

/-- Accepted settings let no refresh take as long as the time from one to the next. -/
lemma discovery_times_of_validate {read : Log.FilterReader} {s : Settings} (h : s.validate read = .ok ()) :
    0 < s.discoveryIntervalSecs ∧ s.discoveryTimeoutSecs < s.discoveryIntervalSecs := by
  have hnil := validate_eq_ok_iff.mp h
  simp only [problems, timeProblems, List.append_eq_nil_iff] at hnil
  obtain ⟨⟨_, hzeros, hshorter⟩, _⟩ := hnil
  have hnonzero : (s.discoveryTimeoutSecs != 0) = true := by
    apply ensure_eq_nil_iff.mp
    exact List.flatMap_eq_nil_iff.mp hzeros ("discovery_timeout_secs", s.discoveryTimeoutSecs) (by simp)
  have hshorter := ensure_eq_nil_iff.mp hshorter
  rw [bne_iff_ne] at hnonzero
  rw [Bool.or_eq_true, beq_iff_eq, decide_eq_true_eq] at hshorter
  omega

/-- A rate that validation accepts has a quota with every burst but zero, and no other rate has one. -/
lemma exists_quota?_iff_hasQuota {r : Number.Binary64} {burst : Nat} :
    (∃ q, Limiter.Rate.quota? ⟨r, burst⟩ = .ok q) ↔ hasQuota r = true ∧ burst ≠ 0 := by
  have hone : hasQuota r = true ↔ ∃ q, Limiter.Rate.quota? ⟨r, 1⟩ = .ok q := by
    unfold hasQuota
    cases Limiter.Rate.quota? ⟨r, 1⟩ with
    | error e => simp [Except.isOk, Except.toBool]
    | ok q => simp [Except.isOk, Except.toBool]
  rw [hone, Limiter.Rate.exists_quota?_iff, Limiter.Rate.exists_quota?_iff]
  constructor
  · rintro ⟨hperiod, hburst⟩
    exact ⟨⟨hperiod, Nat.one_pos⟩, Nat.pos_iff_ne_zero.mp hburst⟩
  · rintro ⟨⟨hperiod, _⟩, hburst⟩
    exact ⟨hperiod, Nat.pos_iff_ne_zero.mpr hburst⟩

/-- The limits have no problem but with the idle time exactly if all requests and each client have a quota and
some client may be known. -/
lemma limitProblems_iff {s : Settings} (h : s.rateLimitEnabled = true) :
    (∀ p ∈ s.limitProblems, p = .zero "rate_limit_client_idle_secs") ↔
      ((∃ p, s.sharedRate.quota? = .ok p) ∧ ∃ q, s.clientRate.quota? = .ok q) ∧
        s.rateLimitMaxClients ≠ 0 := by
  unfold sharedRate clientRate
  rw [exists_quota?_iff_hasQuota, exists_quota?_iff_hasQuota]
  unfold limitProblems
  rw [if_pos h]
  simp only [List.forall_mem_append, forall_mem_ensure]
  -- what a client's limit inherits is settled by whether it has one of its own
  cases s.rateLimitClientRps with
  | none =>
    cases s.rateLimitClientBurst with
    | none => simp
    | some burst =>
      simp
      tauto
  | some r =>
    cases s.rateLimitClientBurst with
    | none =>
      simp [forall_mem_ensure]
      tauto
    | some burst =>
      simp [forall_mem_ensure]
      tauto

/-- The clock counts the time in which one of all requests becomes due, if requests are limited. -/
def Counted (s : Settings) : Prop :=
  s.rateLimitEnabled = true →
    ∀ period, Limiter.Rate.period? s.rateLimitRps = some period → period < Limiter.Quota.periodLimit

/-- The clock counts the rate that all requests have by default. -/
lemma counted_of_default {s : Settings} (h : s.rateLimitRps = ({} : Settings).rateLimitRps) : s.Counted := by
  intro _ period hperiod
  have hdue : Limiter.Rate.period? ({} : Settings).rateLimitRps = some 20000000 := by decide
  rw [h, hdue] at hperiod
  cases hperiod
  decide

/-- A quota of all requests can be counted exactly if its period is one that the clock counts. -/
lemma isCountable_iff {s : Settings} {p : Limiter.Quota} (h : s.rateLimitEnabled = true)
    (hp : s.sharedRate.quota? = .ok p) : p.isCountable = true ↔ s.Counted := by
  have hperiod : Limiter.Rate.period? s.rateLimitRps = some p.period := (Limiter.Rate.quota?_eq_ok_iff.mp hp).1
  rw [Limiter.Quota.isCountable, decide_eq_true_iff]
  constructor
  · rintro hlt _ period hp'
    rw [hperiod] at hp'
    cases hp'
    exact hlt
  · intro hcounted
    exact hcounted h p.period hperiod

end Settings

namespace Gateway

/-- There is a gate exactly if there is no problem with authentication; else there is no token. -/
lemma gateOf?_cases (s : Settings) :
    (s.authProblems = [] ∧ ∃ gate, gateOf? s = .ok gate) ∨
      (s.authProblems ≠ [] ∧ gateOf? s = .error .noToken) := by
  unfold Settings.authProblems gateOf?
  cases s.authEnabled with
  | false => exact .inl ⟨rfl, _, rfl⟩
  | true =>
    cases s.token? with
    | none => exact .inr ⟨nofun, rfl⟩
    | some token => exact .inl ⟨rfl, _, rfl⟩

/-- With a gate, setting up the gateway is setting up its limiter. -/
lemma ofSettings?_of_gate {s : Settings} {gate : Auth.Gate} (h : gateOf? s = .ok gate) (now : Nat)
    (listing : Limiter.Listing) :
    ofSettings? s now listing = (limiterOf? s now listing).map fun limiter => { gate, limiter } := by
  unfold ofSettings?
  rw [h]
  cases limiterOf? s now listing with
  | error e => rfl
  | ok limiter => rfl

/-- Without limits there is no limiter to set up. -/
lemma limiterOf?_of_unlimited {s : Settings} (h : s.rateLimitEnabled = false) (now : Nat)
    (listing : Limiter.Listing) : limiterOf? s now listing = .ok none := by
  unfold limiterOf? Settings.limiter?
  rw [h]
  rfl

/-- With limits the limiter is the one of their settings. -/
lemma limiterOf?_of_limited {s : Settings} (h : s.rateLimitEnabled = true) (now : Nat)
    (listing : Limiter.Listing) :
    limiterOf? s now listing =
      ((Limiter.ofSettings? ⟨s.sharedRate, s.clientRate, s.rateLimitMaxClients,
        Time.ofSeconds s.rateLimitClientIdleSecs⟩ now listing).map some).mapError .limiter := by
  unfold limiterOf? Settings.limiter?
  rw [if_pos h]
  simp only
  cases Limiter.ofSettings? ⟨s.sharedRate, s.clientRate, s.rateLimitMaxClients,
    Time.ofSeconds s.rateLimitClientIdleSecs⟩ now listing with
  | error e => rfl
  | ok l => rfl

/-- Where the limits have no problem but with the idle time, there is a limiter if the clock counts the period
of all requests, and else that is what is wrong. -/
lemma limiterOf?_of_no_problem {s : Settings}
    (h : ∀ p ∈ s.limitProblems, p = .zero "rate_limit_client_idle_secs") (now : Nat)
    (listing : Limiter.Listing) :
    (s.Counted → ∃ limiter, limiterOf? s now listing = .ok limiter) ∧
      (¬ s.Counted → limiterOf? s now listing = .error (.limiter .periodTooLong)) := by
  cases hlimited : s.rateLimitEnabled with
  | false =>
    have hcounted : s.Counted := by
      intro henabled
      rw [hlimited] at henabled
      cases henabled
    exact ⟨fun _ => ⟨none, limiterOf?_of_unlimited hlimited now listing⟩, fun h => absurd hcounted h⟩
  | true =>
    obtain ⟨⟨⟨p, hp⟩, ⟨q, hq⟩⟩, hmax⟩ := (Settings.limitProblems_iff hlimited).mp h
    have hcountable := Settings.isCountable_iff hlimited hp
    rw [limiterOf?_of_limited hlimited, Limiter.ofSettings?_of_quotas hp hq, if_neg hmax]
    constructor
    · intro hcounted
      rw [if_pos (hcountable.mpr hcounted)]
      exact ⟨_, rfl⟩
    · intro hcounted
      rw [if_neg fun hc => hcounted (hcountable.mp hc)]
      rfl

/-- Where the limits have another problem there is no limiter, whatever the clock counts. -/
lemma limiterOf?_of_problem {s : Settings}
    (h : ∃ p ∈ s.limitProblems, p ≠ .zero "rate_limit_client_idle_secs") (now : Nat)
    (listing : Limiter.Listing) :
    ∃ e, limiterOf? s now listing = .error (.limiter e) ∧ e ≠ .periodTooLong := by
  have hlimited : s.rateLimitEnabled = true := by
    obtain ⟨p, hp, _⟩ := h
    cases hlimited : s.rateLimitEnabled with
    | true => rfl
    | false =>
      rw [Settings.limitProblems, if_neg (by simp [hlimited])] at hp
      cases hp
  rw [limiterOf?_of_limited hlimited]
  -- the period is looked at last, so a problem that validation sees is what setup fails for
  by_cases hquotas : (∃ p, s.sharedRate.quota? = .ok p) ∧ ∃ q, s.clientRate.quota? = .ok q
  · have hmax : s.rateLimitMaxClients = 0 := by
      refine Decidable.byContradiction fun hmax => ?_
      obtain ⟨p, hp, hne⟩ := h
      exact hne ((Settings.limitProblems_iff hlimited).mpr ⟨hquotas, hmax⟩ p hp)
    obtain ⟨⟨p, hp⟩, ⟨q, hq⟩⟩ := hquotas
    rw [Limiter.ofSettings?_of_quotas hp hq, if_pos hmax]
    exact ⟨.zeroClients, rfl, nofun⟩
  · obtain ⟨e, he, hne⟩ := Limiter.ofSettings?_of_no_quota
      (s := ⟨s.sharedRate, s.clientRate, s.rateLimitMaxClients, Time.ofSeconds s.rateLimitClientIdleSecs⟩)
      hquotas now listing
    rw [he]
    exact ⟨e, rfl, hne⟩

/-- Accepted settings set up a gateway if the clock counts the period of all requests or requests are not
limited, and otherwise fail for that period. Settings that are rejected for their token, a rate, a burst or the
number of clients set up none, and fail for that. -/
theorem ofSettings?_of_validate (read : Log.FilterReader) (s : Settings) (now : Nat) (listing : Limiter.Listing) :
    (s.validate read = .ok () → s.Counted → ∃ g, ofSettings? s now listing = .ok g) ∧
      (s.validate read = .ok () → ¬ s.Counted → ofSettings? s now listing = .error (.limiter .periodTooLong)) ∧
      ((s.authProblems ≠ [] ∨ ∃ p ∈ s.limitProblems, p ≠ .zero "rate_limit_client_idle_secs") →
        ∃ e, ofSettings? s now listing = .error e ∧ e ≠ .limiter .periodTooLong) := by
  have hvalid : s.validate read = .ok () → (∃ gate, gateOf? s = .ok gate) ∧
      ∀ p ∈ s.limitProblems, p = .zero "rate_limit_client_idle_secs" := by
    intro h
    obtain ⟨hauth, hlimit⟩ := Settings.auth_limit_of_validate h
    rw [hlimit]
    obtain ⟨_, hgate⟩ | ⟨hne, _⟩ := gateOf?_cases s
    · exact ⟨hgate, nofun⟩
    · exact absurd hauth hne
  refine ⟨?_, ?_, ?_⟩
  · intro h hcounted
    obtain ⟨⟨gate, hgate⟩, hlimit⟩ := hvalid h
    obtain ⟨limiter, hlimiter⟩ := (limiterOf?_of_no_problem hlimit now listing).1 hcounted
    rw [ofSettings?_of_gate hgate, hlimiter]
    exact ⟨_, rfl⟩
  · intro h hcounted
    obtain ⟨⟨gate, hgate⟩, hlimit⟩ := hvalid h
    rw [ofSettings?_of_gate hgate, (limiterOf?_of_no_problem hlimit now listing).2 hcounted]
    rfl
  · intro h
    obtain ⟨hauth, gate, hgate⟩ | ⟨_, hgate⟩ := gateOf?_cases s
    · have hlimit := h.resolve_left fun hne => hne hauth
      obtain ⟨e, he, hne⟩ := limiterOf?_of_problem hlimit now listing
      rw [ofSettings?_of_gate hgate, he]
      refine ⟨.limiter e, rfl, ?_⟩
      rintro heq
      cases heq
      exact hne rfl
    · refine ⟨.noToken, ?_, nofun⟩
      unfold ofSettings?
      rw [hgate]
      rfl

/-- A reader of log filters that reads the filter of the settings that hold by default. -/
abbrev readFilter : Log.FilterReader :=
  Log.Filter.reader .unicode

/-- Settings that let one request come in some three thousand years, beyond its burst. -/
def glacial : Settings :=
  { rateLimitRps := (Number.Binary64.ofNat 1).div (.ofNat 100000000000) }

/-- They are accepted and set up no gateway, while the settings that hold by default do; settings that ask for
a token and have none are refused for that. -/
theorem ofSettings?_glacial :
    (glacial.validate readFilter = .ok () ∧ ¬ glacial.Counted ∧
        ofSettings? glacial 0 .made = .error (.limiter .periodTooLong)) ∧
      (({} : Settings).validate readFilter = .ok () ∧ ({} : Settings).Counted ∧ ∃ g, ofSettings? {} 0 .made = .ok g) ∧
      ({ glacial with authEnabled := true }.authProblems ≠ [] ∧
        ∃ e, ofSettings? { glacial with authEnabled := true } 0 .made = .error e ∧ e ≠ .limiter .periodTooLong) := by
  have hglacial : glacial.validate readFilter = .ok () := Settings.validate_eq_ok_iff.mpr (by decide +kernel)
  have hdefault : ({} : Settings).validate readFilter = .ok () := Settings.validate_eq_ok_iff.mpr (by decide +kernel)
  have hslow : ¬ glacial.Counted := by
    intro h
    exact absurd (h rfl 100000000000000000000 (by decide)) (by decide)
  have hfast : ({} : Settings).Counted := Settings.counted_of_default rfl
  have htoken : { glacial with authEnabled := true }.authProblems ≠ [] := by decide
  exact ⟨⟨hglacial, hslow, (ofSettings?_of_validate readFilter glacial 0 .made).2.1 hglacial hslow⟩,
    ⟨hdefault, hfast, (ofSettings?_of_validate readFilter {} 0 .made).1 hdefault hfast⟩,
    ⟨htoken, (ofSettings?_of_validate readFilter _ 0 .made).2.2 (.inl htoken)⟩⟩

end Gateway

end ApiGateway
