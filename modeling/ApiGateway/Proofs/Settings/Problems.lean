import ApiGateway.Proofs.Gateway.Setup
import ApiGateway.Proofs.Text.Trim

/-!
# What validation reports

`IsSound` says what settings have to be like, and `Violates` which problem each violated condition is, one condition at
a time and without a look at any other one. Validation lists exactly these problems (`mem_problems_iff`), in the order in
which things are looked at (`inOrder_problems`), and so accepts exactly the settings that are sound
(`problems_eq_nil_iff`); what it answers is `validate_exact`. All of this is so for every reader of log filters: a
filter is sound if it is read, and a filter that is not read is the problem with the message that the reader gives.
-/

namespace ApiGateway.Settings

variable {read : Log.FilterReader} {s : Settings} {p : Problem}

/-! ### Conditions -/

/-- A rate has a period, and that takes time. -/
def HasPeriod (r : Number.Binary64) : Prop :=
  ∃ period, Limiter.Rate.period? r = some period ∧ 0 < period

/-- The fields that a look-up in the registry calls for. -/
def registryFields (s : Settings) : List (String × String) :=
  [("discovery_namespace", s.discoveryNamespace), ("primary_selector", s.primarySelector),
    ("analyzer_selector", s.analyzerSelector), ("cluster_domain", s.clusterDomain)]

/-- The fixed locations. -/
def locations (s : Settings) : List (String × String) :=
  ("primary_url", s.primaryUrl) :: (s.analyzerUrl.map fun url => ("analyzer_url", url)).toList

/-- The lengths of time. -/
def times (s : Settings) : List (String × Nat) :=
  [("discovery_interval_secs", s.discoveryIntervalSecs), ("discovery_timeout_secs", s.discoveryTimeoutSecs),
    ("upstream_timeout_secs", s.backendTimeoutSecs), ("upstream_connect_timeout_secs", s.backendConnectTimeoutSecs)]

/-- The rates. -/
def rates (s : Settings) : List (String × Number.Binary64) :=
  ("rate_limit_rps", s.rateLimitRps) :: (s.rateLimitClientRps.map fun r => ("rate_limit_client_rps", r)).toList

/-- The numbers that limit requests. -/
def counts (s : Settings) : List (String × Nat) :=
  ("rate_limit_burst", s.rateLimitBurst) ::
    (s.rateLimitClientBurst.map fun n => ("rate_limit_client_burst", n)).toList ++
    [("rate_limit_max_clients", s.rateLimitMaxClients), ("rate_limit_client_idle_secs", s.rateLimitClientIdleSecs)]

/-- What settings have to be like. -/
structure IsSound (read : Log.FilterReader) (s : Settings) : Prop where
  listens : ∃ address, SocketAddress.ofChars? s.listenAddress = some address
  logs : ∃ filter, read s.logLevel = .ok filter
  token : s.authEnabled = true → ∃ token, s.authToken = some token ∧ Text.allBlank token = false
  registry : s.discoveryEnabled = true →
    Text.allBlank s.discoveryNamespace = false ∧ Text.allBlank s.primarySelector = false ∧
      Text.allBlank s.analyzerSelector = false ∧ Text.allBlank s.clusterDomain = false
  fixed : s.discoveryEnabled = false →
    (∃ url, baseUrl? s.primaryUrl = .ok url) ∧
      ∀ location, s.analyzerUrl = some location → ∃ url, baseUrl? location = .ok url
  timed : 0 < s.discoveryIntervalSecs ∧ 0 < s.discoveryTimeoutSecs ∧ 0 < s.backendTimeoutSecs ∧
    0 < s.backendConnectTimeoutSecs
  shorter : s.discoveryTimeoutSecs < s.discoveryIntervalSecs
  limited : s.rateLimitEnabled = true →
    HasPeriod s.rateLimitRps ∧ (∀ r, s.rateLimitClientRps = some r → HasPeriod r) ∧
      0 < s.rateLimitBurst ∧ (∀ n, s.rateLimitClientBurst = some n → 0 < n) ∧
      0 < s.rateLimitMaxClients ∧ 0 < s.rateLimitClientIdleSecs

/-- The problem that a violated condition is. -/
inductive Violates (read : Log.FilterReader) (s : Settings) : Problem → Prop where
  | listens : SocketAddress.ofChars? s.listenAddress = none → Violates read s (.listenAddress s.listenAddress)
  | logs {fault} : read s.logLevel = .error fault → Violates read s (.logFilter fault)
  | token : s.authEnabled = true → (∀ token, s.authToken = some token → Text.allBlank token = true) →
      Violates read s (.missing "auth_token" "auth_enabled")
  | registry {field value} : s.discoveryEnabled = true → (field, value) ∈ s.registryFields →
      Text.allBlank value = true → Violates read s (.missing field "discovery_enabled")
  | fixed {field value e} : s.discoveryEnabled = false → (field, value) ∈ s.locations →
      baseUrl? value = .error e → Violates read s (.baseUrl field value e)
  | timed {field} : (field, 0) ∈ s.times → Violates read s (.zero field)
  | shorter : 0 < s.discoveryTimeoutSecs → s.discoveryIntervalSecs ≤ s.discoveryTimeoutSecs →
      Violates read s (.lookupTooLong s.discoveryTimeoutSecs s.discoveryIntervalSecs)
  | rate {field r} : s.rateLimitEnabled = true → (field, r) ∈ s.rates → ¬ HasPeriod r → Violates read s (.rate field r)
  | count {field} : s.rateLimitEnabled = true → (field, 0) ∈ s.counts → Violates read s (.zero field)

/-! ### The tables of conditions -/

/-- Validation asks of a rate that it has a period. -/
lemma hasQuota_iff {r : Number.Binary64} : hasQuota r = true ↔ HasPeriod r := by
  have hquota : (∃ q, Limiter.Rate.quota? ⟨r, 1⟩ = .ok q) ↔ hasQuota r = true ∧ 1 ≠ 0 := exists_quota?_iff_hasQuota
  rw [Limiter.Rate.exists_quota?_iff] at hquota
  simpa [HasPeriod] using hquota.symm

/-- There is a token exactly if one is set that is not blank. -/
lemma isSome_token?_iff :
    s.token?.isSome = true ↔ ∃ token, s.authToken = some token ∧ Text.allBlank token = false := by
  unfold token?
  cases s.authToken with
  | none => simp
  | some token =>
    simp only [Option.bind_some, Option.some.injEq, exists_eq_left']
    rw [← Bool.not_eq_true (Text.allBlank token), ← Text.trimmed_eq_empty_iff, ← String.toList_eq_nil_iff,
      Text.toList_trimmed]
    cases Text.trim token.toList with
    | nil => simp
    | cons c cs => simp

/-- The problems of the look-up are those of its fields, each held to the same rule. -/
lemma discoveryProblems_eq (s : Settings) :
    s.discoveryProblems =
      s.registryFields.flatMap fun field => ensure (!Text.allBlank field.2) (.missing field.1 "discovery_enabled") :=
  rfl

/-- The problems of the backends that are not looked up are those of their locations. -/
lemma staticProblems_eq (s : Settings) :
    s.staticProblems = s.locations.flatMap fun location => urlProblems location.1 location.2 := by
  rw [staticProblems, locations]
  cases s.analyzerUrl with
  | none => simp
  | some location => simp

/-- The problems of the times are those of each of them, and that of the look-up and its interval. -/
lemma timeProblems_eq (s : Settings) :
    s.timeProblems = (s.times.flatMap fun time => ensure (time.2 != 0) (.zero time.1)) ++
      ensure (s.discoveryTimeoutSecs == 0 || s.discoveryTimeoutSecs < s.discoveryIntervalSecs)
        (.lookupTooLong s.discoveryTimeoutSecs s.discoveryIntervalSecs) :=
  rfl

/-- The problems of the limits are those of the rates, and then those of the counts. -/
lemma limitProblems_eq (h : s.rateLimitEnabled = true) :
    s.limitProblems = (s.rates.flatMap fun rate => ensure (hasQuota rate.2) (.rate rate.1 rate.2)) ++
      s.counts.flatMap fun count => ensure (count.2 != 0) (.zero count.1) := by
  have hburst : ∀ n : Nat, (some n != some 0) = (n != 0) := fun n => rfl
  rw [limitProblems, if_pos h, rates, counts]
  cases s.rateLimitClientRps with
  | none =>
    cases s.rateLimitClientBurst with
    | none => simp [ensure]
    | some n => simp [hburst]
  | some r =>
    cases s.rateLimitClientBurst with
    | none => simp [ensure]
    | some n => simp [hburst]

/-! ### Which problems are listed -/

/-- A location is reported exactly if it is no base URL, with the reason. -/
lemma mem_urlProblems {field value : String} :
    p ∈ urlProblems field value ↔ ∃ e, baseUrl? value = .error e ∧ p = .baseUrl field value e := by
  unfold urlProblems
  cases baseUrl? value with
  | error e => simp
  | ok url => simp

/-- The listener is reported exactly if its address cannot be read. -/
lemma mem_listenProblems :
    p ∈ s.listenProblems ↔ SocketAddress.ofChars? s.listenAddress = none ∧ p = .listenAddress s.listenAddress := by
  rw [listenProblems, mem_ensure, Option.isSome_eq_false_iff, Option.isNone_iff_eq_none]

/-- The log filter is reported exactly if it cannot be read, with the fault that the reader gives. -/
lemma mem_logProblems :
    p ∈ s.logProblems read ↔ ∃ fault, read s.logLevel = .error fault ∧ p = .logFilter fault := by
  unfold logProblems
  cases read s.logLevel with
  | error fault => simp
  | ok filter => simp

/-- The token is reported exactly if requests need one and none is set or only a blank one. -/
lemma mem_authProblems :
    p ∈ s.authProblems ↔ s.authEnabled = true ∧ (∀ token, s.authToken = some token → Text.allBlank token = true) ∧
      p = .missing "auth_token" "auth_enabled" := by
  have htoken := isSome_token?_iff (s := s)
  rw [authProblems, mem_ensure, Bool.or_eq_false_iff, Bool.not_eq_false', and_assoc, ← Bool.not_eq_true, htoken]
  simp

/-- What is reported of the look-up are the fields of it that are blank. -/
lemma mem_discoveryProblems :
    p ∈ s.discoveryProblems ↔ ∃ field value, (field, value) ∈ s.registryFields ∧ Text.allBlank value = true ∧
      p = .missing field "discovery_enabled" := by
  rw [discoveryProblems_eq, List.mem_flatMap]
  simp [mem_ensure]

/-- What is reported of the backends that are not looked up are the locations that are no base URLs. -/
lemma mem_staticProblems :
    p ∈ s.staticProblems ↔ ∃ field value e, (field, value) ∈ s.locations ∧ baseUrl? value = .error e ∧
      p = .baseUrl field value e := by
  rw [staticProblems_eq, List.mem_flatMap]
  simp [mem_urlProblems]

/-- What is reported of the times are those that are zero, and a look-up that may take as long as its interval. -/
lemma mem_timeProblems :
    p ∈ s.timeProblems ↔ (∃ field, (field, 0) ∈ s.times ∧ p = .zero field) ∨
      (0 < s.discoveryTimeoutSecs ∧ s.discoveryIntervalSecs ≤ s.discoveryTimeoutSecs ∧
        p = .lookupTooLong s.discoveryTimeoutSecs s.discoveryIntervalSecs) := by
  have hlong : (s.discoveryTimeoutSecs == 0 || s.discoveryTimeoutSecs < s.discoveryIntervalSecs) = false ↔
      0 < s.discoveryTimeoutSecs ∧ s.discoveryIntervalSecs ≤ s.discoveryTimeoutSecs := by
    simp [Nat.pos_iff_ne_zero]
  rw [timeProblems_eq, List.mem_append, List.mem_flatMap, mem_ensure, hlong, and_assoc]
  simp [mem_ensure]

/-- What is reported of the limits are the rates without a period and the counts that are zero, if there are limits.
-/
lemma mem_limitProblems :
    p ∈ s.limitProblems ↔ s.rateLimitEnabled = true ∧
      ((∃ field r, (field, r) ∈ s.rates ∧ ¬ HasPeriod r ∧ p = .rate field r) ∨
        ∃ field, (field, 0) ∈ s.counts ∧ p = .zero field) := by
  cases henabled : s.rateLimitEnabled with
  | false =>
    rw [limitProblems, if_neg (by simp [henabled])]
    simp
  | true =>
    rw [limitProblems_eq henabled, List.mem_append, List.mem_flatMap, List.mem_flatMap]
    simp [mem_ensure, ← hasQuota_iff]

/-- Each violated condition is listed as the problem that it is, and nothing else is listed. -/
lemma mem_problems_iff : p ∈ s.problems read ↔ s.Violates read p := by
  simp only [problems, List.mem_append, or_assoc]
  constructor
  · rintro (h | h | h | h | h | h)
    · obtain ⟨hnone, rfl⟩ := mem_listenProblems.mp h
      exact .listens hnone
    · obtain ⟨fault, hfault, rfl⟩ := mem_logProblems.mp h
      exact .logs hfault
    · obtain ⟨henabled, htoken, rfl⟩ := mem_authProblems.mp h
      exact .token henabled htoken
    · split at h
      · next henabled =>
        obtain ⟨field, value, hfield, hblank, rfl⟩ := mem_discoveryProblems.mp h
        exact .registry henabled hfield hblank
      · next hdisabled =>
        obtain ⟨field, value, e, hlocation, he, rfl⟩ := mem_staticProblems.mp h
        exact .fixed (Bool.not_eq_true _ ▸ hdisabled) hlocation he
    · obtain ⟨field, hzero, rfl⟩ | ⟨hpositive, hlong, rfl⟩ := mem_timeProblems.mp h
      · exact .timed hzero
      · exact .shorter hpositive hlong
    · obtain ⟨henabled, ⟨field, r, hrate, hperiod, rfl⟩ | ⟨field, hzero, rfl⟩⟩ := mem_limitProblems.mp h
      · exact .rate henabled hrate hperiod
      · exact .count henabled hzero
  · intro h
    cases h with
    | listens hnone => exact .inl (mem_listenProblems.mpr ⟨hnone, rfl⟩)
    | logs hfault => exact .inr (.inl (mem_logProblems.mpr ⟨_, hfault, rfl⟩))
    | token henabled htoken => exact .inr (.inr (.inl (mem_authProblems.mpr ⟨henabled, htoken, rfl⟩)))
    | registry henabled hfield hblank =>
      rw [if_pos henabled]
      exact .inr (.inr (.inr (.inl (mem_discoveryProblems.mpr ⟨_, _, hfield, hblank, rfl⟩))))
    | fixed hdisabled hlocation he =>
      rw [if_neg (by simp [hdisabled])]
      exact .inr (.inr (.inr (.inl (mem_staticProblems.mpr ⟨_, _, _, hlocation, he, rfl⟩))))
    | timed hzero => exact .inr (.inr (.inr (.inr (.inl (mem_timeProblems.mpr (.inl ⟨_, hzero, rfl⟩))))))
    | shorter hpositive hlong =>
      exact .inr (.inr (.inr (.inr (.inl (mem_timeProblems.mpr (.inr ⟨hpositive, hlong, rfl⟩))))))
    | rate henabled hrate hperiod =>
      exact .inr (.inr (.inr (.inr (.inr (mem_limitProblems.mpr ⟨henabled, .inl ⟨_, _, hrate, hperiod, rfl⟩⟩)))))
    | count henabled hzero =>
      exact .inr (.inr (.inr (.inr (.inr (mem_limitProblems.mpr ⟨henabled, .inr ⟨_, hzero, rfl⟩⟩)))))

/-! ### Their order -/

/-- What a problem is about: a field, or that one length of time is shorter than another. -/
def Problem.about : Problem → String
  | .listenAddress _ => "listen_host"
  | .logFilter _ => "log_level"
  | .missing field _ => field
  | .baseUrl field _ _ => field
  | .zero field => field
  | .lookupTooLong _ _ => "discovery_timeout_secs < discovery_interval_secs"
  | .rate field _ => field

/-- What is looked at, in order. -/
def agenda : List String :=
  ["listen_host", "log_level", "auth_token", "discovery_namespace", "primary_selector", "analyzer_selector",
    "cluster_domain", "primary_url", "analyzer_url", "discovery_interval_secs", "discovery_timeout_secs",
    "upstream_timeout_secs", "upstream_connect_timeout_secs", "discovery_timeout_secs < discovery_interval_secs",
    "rate_limit_rps", "rate_limit_client_rps", "rate_limit_burst", "rate_limit_client_burst", "rate_limit_max_clients",
    "rate_limit_client_idle_secs"]

/-- Nothing stands twice on the agenda. -/
lemma nodup_agenda : agenda.Nodup := by
  decide

/-- The problems are about different things of the list, in its order. -/
def InOrder (ps : List Problem) (things : List String) : Prop :=
  (ps.map Problem.about).Sublist things

/-- Reports in order, one after the other, are in the order of what they are about, one after the other. -/
lemma InOrder.append {ps qs : List Problem} {things others : List String} (hps : InOrder ps things)
    (hqs : InOrder qs others) : InOrder (ps ++ qs) (things ++ others) := by
  rw [InOrder, List.map_append]
  exact List.Sublist.append hps hqs

/-- A single check reports on its own field or on nothing. -/
lemma inOrder_ensure (ok : Bool) (p : Problem) : InOrder (ensure ok p) [p.about] := by
  cases ok with
  | true => exact List.nil_sublist _
  | false => exact List.Sublist.refl _

/-- A location is reported under its field or not at all. -/
lemma inOrder_urlProblems (field value : String) : InOrder (urlProblems field value) [field] := by
  unfold urlProblems
  cases baseUrl? value with
  | error e => exact List.Sublist.refl _
  | ok url => exact List.nil_sublist _

/-- A table of checks reports in the order of the table. -/
lemma inOrder_flatMap {α : Type} {table : List (String × α)} {report : String × α → List Problem}
    (h : ∀ entry, InOrder (report entry) [entry.1]) : InOrder (table.flatMap report) (table.map Prod.fst) := by
  induction table with
  | nil => exact List.Sublist.refl _
  | cons entry table ih =>
    rw [List.flatMap_cons, List.map_cons, ← List.singleton_append]
    exact (h entry).append ih

/-- Reports stay in order if there is more that they could be about. -/
lemma InOrder.mono {ps : List Problem} {things others : List String} (h : InOrder ps things)
    (hsub : things.Sublist others) : InOrder ps others :=
  List.Sublist.trans h hsub

/-- The log filter is reported under its field. -/
lemma inOrder_logProblems (read : Log.FilterReader) (s : Settings) : InOrder (s.logProblems read) ["log_level"] := by
  unfold logProblems
  cases read s.logLevel with
  | error e => exact List.Sublist.refl _
  | ok filter => exact List.nil_sublist _

/-- The fields of the look-up are reported in their order. -/
lemma inOrder_discoveryProblems (s : Settings) :
    InOrder s.discoveryProblems ["discovery_namespace", "primary_selector", "analyzer_selector", "cluster_domain"] := by
  rw [discoveryProblems_eq]
  exact inOrder_flatMap fun _ => inOrder_ensure _ _

/-- The locations are reported in their order. -/
lemma inOrder_staticProblems (s : Settings) : InOrder s.staticProblems ["primary_url", "analyzer_url"] := by
  have htable : InOrder (s.locations.flatMap fun location => urlProblems location.1 location.2)
      (s.locations.map Prod.fst) := inOrder_flatMap fun _ => inOrder_urlProblems _ _
  rw [staticProblems_eq]
  apply htable.mono
  rw [locations]
  cases s.analyzerUrl with
  | none => exact List.sublist_append_left ["primary_url"] ["analyzer_url"]
  | some location => exact List.Sublist.refl _

/-- The times are reported in their order, and the look-up against its interval after them. -/
lemma inOrder_timeProblems (s : Settings) :
    InOrder s.timeProblems ["discovery_interval_secs", "discovery_timeout_secs", "upstream_timeout_secs",
      "upstream_connect_timeout_secs", "discovery_timeout_secs < discovery_interval_secs"] := by
  have htable : InOrder (s.times.flatMap fun time => ensure (time.2 != 0) (.zero time.1)) (s.times.map Prod.fst) :=
    inOrder_flatMap fun _ => inOrder_ensure _ _
  rw [timeProblems_eq]
  exact htable.append (inOrder_ensure _ _)

/-- The rates are reported in their order, and the counts after them. -/
lemma inOrder_limitProblems (s : Settings) :
    InOrder s.limitProblems ["rate_limit_rps", "rate_limit_client_rps", "rate_limit_burst", "rate_limit_client_burst",
      "rate_limit_max_clients", "rate_limit_client_idle_secs"] := by
  have hrates : InOrder (s.rates.flatMap fun rate => ensure (hasQuota rate.2) (.rate rate.1 rate.2))
      (s.rates.map Prod.fst) := inOrder_flatMap fun _ => inOrder_ensure _ _
  have hcounts : InOrder (s.counts.flatMap fun count => ensure (count.2 != 0) (.zero count.1))
      (s.counts.map Prod.fst) := inOrder_flatMap fun _ => inOrder_ensure _ _
  cases henabled : s.rateLimitEnabled with
  | false =>
    rw [limitProblems, if_neg (by simp [henabled])]
    exact List.nil_sublist _
  | true =>
    rw [limitProblems_eq henabled]
    apply (hrates.append hcounts).mono
    rw [rates, counts]
    cases s.rateLimitClientRps with
    | none =>
      cases s.rateLimitClientBurst with
      | none => simp
      | some n => simp
    | some r =>
      cases s.rateLimitClientBurst with
      | none => simp
      | some n => simp

/-- Problems are listed in the order in which things are looked at. -/
lemma inOrder_problems (read : Log.FilterReader) (s : Settings) : InOrder (s.problems read) agenda := by
  have hplaces : InOrder (if s.discoveryEnabled then s.discoveryProblems else s.staticProblems)
      (["discovery_namespace", "primary_selector", "analyzer_selector", "cluster_domain"] ++
        ["primary_url", "analyzer_url"]) := by
    split
    · exact (inOrder_discoveryProblems s).mono (List.sublist_append_left _ _)
    · exact (inOrder_staticProblems s).mono (List.sublist_append_right _ _)
  have hfirst : InOrder (s.listenProblems ++ s.logProblems read ++ s.authProblems)
      (["listen_host"] ++ ["log_level"] ++ ["auth_token"]) :=
    ((inOrder_ensure _ _).append (inOrder_logProblems read s)).append (inOrder_ensure _ _)
  exact ((hfirst.append hplaces).append (inOrder_timeProblems s)).append (inOrder_limitProblems s)

/-! ### What is accepted -/

/-- What holds of all fields of the look-up, field by field. -/
lemma forall_registryFields {P : String → Prop} :
    (∀ field value, (field, value) ∈ s.registryFields → P value) ↔
      P s.discoveryNamespace ∧ P s.primarySelector ∧ P s.analyzerSelector ∧ P s.clusterDomain := by
  rw [← Prod.forall (p := fun entry => entry ∈ s.registryFields → P entry.2)]
  simp [registryFields]

/-- What holds of all locations, field by field. -/
lemma forall_locations {P : String → Prop} :
    (∀ field value, (field, value) ∈ s.locations → P value) ↔
      P s.primaryUrl ∧ ∀ location, s.analyzerUrl = some location → P location := by
  rw [← Prod.forall (p := fun entry => entry ∈ s.locations → P entry.2), locations, List.forall_mem_cons]
  simp

/-- What holds of all times, field by field. -/
lemma forall_times {P : Nat → Prop} :
    (∀ field n, (field, n) ∈ s.times → P n) ↔
      P s.discoveryIntervalSecs ∧ P s.discoveryTimeoutSecs ∧ P s.backendTimeoutSecs ∧
        P s.backendConnectTimeoutSecs := by
  rw [← Prod.forall (p := fun entry => entry ∈ s.times → P entry.2)]
  simp [times]

/-- What holds of all rates that are set, field by field. -/
lemma forall_rates {P : Number.Binary64 → Prop} :
    (∀ field r, (field, r) ∈ s.rates → P r) ↔ P s.rateLimitRps ∧ ∀ r, s.rateLimitClientRps = some r → P r := by
  rw [← Prod.forall (p := fun entry => entry ∈ s.rates → P entry.2), rates, List.forall_mem_cons]
  simp

/-- What holds of all counts that are set, field by field. -/
lemma forall_counts {P : Nat → Prop} :
    (∀ field n, (field, n) ∈ s.counts → P n) ↔
      P s.rateLimitBurst ∧ (∀ n, s.rateLimitClientBurst = some n → P n) ∧
        P s.rateLimitMaxClients ∧ P s.rateLimitClientIdleSecs := by
  rw [← Prod.forall (p := fun entry => entry ∈ s.counts → P entry.2), counts, List.cons_append,
    List.forall_mem_cons, List.forall_mem_append]
  simp

/-- Where no field of a table is zero all of them are positive. -/
lemma pos_of_no_zero {table : List (String × Nat)} (h : ∀ field, (field, 0) ∉ table) :
    ∀ field n, (field, n) ∈ table → 0 < n := by
  intro field n hmem
  apply Nat.pos_of_ne_zero
  rintro rfl
  exact h field hmem

/-- Sound settings violate nothing. -/
lemma IsSound.not_violates (h : s.IsSound read) : ¬ s.Violates read p := by
  intro hp
  cases hp with
  | listens hnone =>
    obtain ⟨address, haddress⟩ := h.listens
    cases hnone.symm.trans haddress
  | logs hfault =>
    obtain ⟨filter, hfilter⟩ := h.logs
    cases hfault.symm.trans hfilter
  | token henabled hblank =>
    obtain ⟨token, htoken, hfull⟩ := h.token henabled
    cases hfull.symm.trans (hblank token htoken)
  | registry henabled hfield hblank =>
    have hfull := (forall_registryFields (P := fun value => Text.allBlank value = false)).mpr (h.registry henabled) _ _
      hfield
    cases hfull.symm.trans hblank
  | fixed hdisabled hlocation he =>
    obtain ⟨url, hurl⟩ := (forall_locations (P := fun value => ∃ url, baseUrl? value = .ok url)).mpr
      (h.fixed hdisabled) _ _ hlocation
    cases he.symm.trans hurl
  | timed hzero => exact Nat.lt_irrefl 0 (forall_times.mpr h.timed _ _ hzero)
  | shorter _ hlong => exact Nat.not_lt_of_le hlong h.shorter
  | rate henabled hrate hperiod =>
    obtain ⟨hshared, hclient, _⟩ := h.limited henabled
    exact hperiod (forall_rates.mpr ⟨hshared, hclient⟩ _ _ hrate)
  | count henabled hzero =>
    obtain ⟨_, _, hcounts⟩ := h.limited henabled
    exact Nat.lt_irrefl 0 (forall_counts.mpr hcounts _ _ hzero)

/-- Settings that violate nothing are sound. -/
lemma isSound_of_not_violates (h : ∀ p, ¬ s.Violates read p) : s.IsSound read := by
  have htimes : 0 < s.discoveryIntervalSecs ∧ 0 < s.discoveryTimeoutSecs ∧ 0 < s.backendTimeoutSecs ∧
      0 < s.backendConnectTimeoutSecs :=
    forall_times.mp (pos_of_no_zero fun _ hzero => h _ (.timed hzero))
  constructor
  case listens =>
    apply Option.ne_none_iff_exists'.mp
    intro hnone
    exact h _ (.listens hnone)
  case logs =>
    cases hfilter : read s.logLevel with
    | error fault => exact absurd (.logs hfilter) (h _)
    | ok filter => exact ⟨filter, rfl⟩
  case token =>
    intro henabled
    by_contra hnone
    apply h _ (.token henabled _)
    intro token htoken
    by_contra hfull
    exact hnone ⟨token, htoken, Bool.not_eq_true _ ▸ hfull⟩
  case registry =>
    intro henabled
    apply (forall_registryFields (P := fun value => Text.allBlank value = false)).mp
    intro field value hmem
    by_contra hblank
    exact h _ (.registry henabled hmem (Bool.not_eq_false _ ▸ hblank))
  case fixed =>
    intro hdisabled
    apply (forall_locations (P := fun value => ∃ url, baseUrl? value = .ok url)).mp
    intro field value hmem
    cases hurl : baseUrl? value with
    | error e => exact absurd (.fixed hdisabled hmem hurl) (h _)
    | ok url => exact ⟨url, rfl⟩
  case timed => exact htimes
  case shorter =>
    by_contra hlong
    exact h _ (.shorter htimes.2.1 (Nat.le_of_not_lt hlong))
  case limited =>
    intro henabled
    -- what a client's limit inherits is asked of the shared one already
    have hrates : HasPeriod s.rateLimitRps ∧ ∀ r, s.rateLimitClientRps = some r → HasPeriod r := by
      apply forall_rates.mp
      intro field r hmem
      by_contra hperiod
      exact h _ (.rate henabled hmem hperiod)
    exact ⟨hrates.1, hrates.2, forall_counts.mp (pos_of_no_zero fun _ hzero => h _ (.count henabled hzero))⟩

/-- There is nothing to report exactly if the settings are sound. -/
lemma problems_eq_nil_iff : s.problems read = [] ↔ s.IsSound read := by
  rw [List.eq_nil_iff_forall_not_mem]
  simp only [mem_problems_iff]
  exact ⟨isSound_of_not_violates, fun h _ => h.not_violates⟩

/-- Texts are joined as the library joins them. -/
lemma joined_eq_intercalate (sep : String) (texts : List String) : Text.joined sep texts = sep.intercalate texts := by
  induction texts with
  | nil => rfl
  | cons t texts ih =>
    cases texts with
    | nil => rw [String.intercalate_singleton, Text.joined]
    | cons u texts =>
      rw [String.intercalate_cons_cons, ← ih, Text.joined]
      nofun

/-- What is answered for problems: nothing, the only one, or all of them. -/
def answer : List Problem → Except Rejection Unit
  | [] => .ok ()
  | [p] => .error (.one p)
  | ps => .error (.several ps)

/-- Validation answers by the number of the problems: none, one, or several together. -/
lemma validate_eq_answer (read : Log.FilterReader) (s : Settings) : s.validate read = answer (s.problems read) := by
  unfold validate
  generalize s.problems read = ps
  cases ps with
  | nil => rfl
  | cons p ps =>
    cases ps with
    | nil => rfl
    | cons q ps => rfl

/-- The message of several problems has the messages of all of them, with semicolons between. -/
lemma message_several (ps : List Problem) :
    (Rejection.several ps).message = "Validation failed: " ++ "; ".intercalate (ps.map Problem.message) := by
  rw [← joined_eq_intercalate]
  rfl

/-- Validation accepts exactly the settings that are sound. For others the problems are those of the violated
conditions, each for itself, in the order in which things are looked at; one problem is reported as it is, and several
are reported together, with their messages joined. -/
theorem validate_exact (read : Log.FilterReader) (s : Settings) :
    (s.validate read = .ok () ↔ s.IsSound read) ∧
      ∃ ps, s.validate read = answer ps ∧ (∀ p, p ∈ ps ↔ s.Violates read p) ∧
        (ps.map Problem.about).Sublist agenda ∧ agenda.Nodup ∧
        (Rejection.several ps).message = "Validation failed: " ++ "; ".intercalate (ps.map Problem.message) := by
  refine ⟨validate_eq_ok_iff.trans problems_eq_nil_iff, s.problems read, validate_eq_answer read s, ?_⟩
  exact ⟨fun _ => mem_problems_iff, inOrder_problems read s, nodup_agenda, message_several _⟩

end ApiGateway.Settings
