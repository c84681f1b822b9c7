import ApiGateway.Proofs.Gateway.Admission

/-!
# Topology and metrics as a history

What is known of the backends, and what is counted of it, is nothing but a view of the refreshes that have
ended, in the order in which they ended. `Reflects` says what each piece of state is of that history; it holds
of the empty one (`Reflects.nil`), and a refresh that ends adds its outcome at the end (`Reflects.snoc`).

Two things that requests see follow from it: the readiness probe tells how the last refresh ended
(`Reflects.status_readiness`), and once a refresh has succeeded the gateway is never without a snapshot
(`Reflects.lookup_ne_notReady`).
-/

namespace ApiGateway.Discovery

/-- The message of a failure. -/
def failureMessage? : Except Error Snapshot → Option String
  | .ok _ => none
  | .error e => some e.message

/-- A topology and metrics are those of a history of outcomes: ready says that the last one is a success, the
snapshot is the one of the last success, the error is the one of the last outcome if that is a failure,
successes and failures are as many as were counted, and the gauge is the readiness. -/
structure Reflects (outcomes : List (Except Error Snapshot)) (t : Topology) (m : Metrics) : Prop where
  ready : t.ready = true ↔ ∃ snapshot, outcomes.getLast? = some (.ok snapshot)
  snapshot : t.snapshot = (outcomes.filterMap Except.toOption).getLast?
  lastError : t.lastError = outcomes.getLast?.bind failureMessage?
  successes : m.refreshes.count [Metrics.success] = outcomes.countP Except.isOk
  failures : m.refreshes.count [Metrics.failure] = outcomes.countP fun o => !o.isOk
  gauge : m.ready = if t.ready then 1 else 0

namespace Reflects

variable {outcomes : List (Except Error Snapshot)} {t : Topology} {m : Metrics}

/-- Where no refresh has ended nothing is known and nothing counted. -/
lemma nil : Reflects [] {} {} := by
  refine ⟨?_, rfl, rfl, rfl, rfl, rfl⟩
  constructor
  · intro h
    cases h
  · rintro ⟨snapshot, h⟩
    cases h

/-- A refresh that ends adds its outcome to the history. -/
lemma snoc (h : Reflects outcomes t m) (outcome : Except Error Snapshot) :
    Reflects (outcomes ++ [outcome]) (settle outcome t) (count outcome m) := by
  have hlabels : [Metrics.success] ≠ [Metrics.failure] := by decide
  cases outcome with
  | ok snapshot =>
    refine ⟨?_, ?_, ?_, ?_, ?_, rfl⟩
    · simp [settle, Topology.publish]
    · simp [settle, Topology.publish, Except.toOption]
    · simp [settle, Topology.publish, failureMessage?]
    · rw [List.countP_append, ← h.successes]
      exact Metrics.Tally.count_add_self _ _
    · rw [List.countP_append, ← h.failures]
      exact Metrics.Tally.count_add_of_ne _ hlabels
  | error e =>
    refine ⟨?_, ?_, ?_, ?_, ?_, rfl⟩
    · simp [settle, Topology.fail]
    · simp [settle, Topology.fail, Except.toOption, h.snapshot]
    · simp [settle, Topology.fail, failureMessage?]
    · rw [List.countP_append, ← h.successes]
      exact Metrics.Tally.count_add_of_ne _ hlabels.symm
    · rw [List.countP_append, ← h.failures]
      exact Metrics.Tally.count_add_self _ _

/-- A snapshot that is published is one of the outcomes. -/
lemma mem_of_snapshot (h : Reflects outcomes t m) {snapshot : Snapshot} (hs : t.snapshot = some snapshot) :
    .ok snapshot ∈ outcomes := by
  rw [h.snapshot] at hs
  obtain ⟨outcome, hmem, hok⟩ := List.mem_filterMap.mp (List.mem_of_getLast? hs)
  cases outcome with
  | ok s =>
    cases hok
    exact hmem
  | error e => cases hok

/-- There is a snapshot exactly if some refresh has succeeded. -/
lemma isSome_snapshot_iff (h : Reflects outcomes t m) :
    t.snapshot.isSome = true ↔ ∃ snapshot, .ok snapshot ∈ outcomes := by
  constructor
  · intro hs
    obtain ⟨snapshot, hs⟩ := Option.isSome_iff_exists.mp hs
    exact ⟨snapshot, h.mem_of_snapshot hs⟩
  · rintro ⟨snapshot, hmem⟩
    have hne : outcomes.filterMap Except.toOption ≠ [] :=
      List.ne_nil_of_mem (List.mem_filterMap.mpr ⟨.ok snapshot, hmem, rfl⟩)
    rw [h.snapshot, List.getLast?_eq_some_getLast hne]
    rfl

/-- The readiness probe tells how the last refresh ended. -/
lemma status_readiness (h : Reflects outcomes t m) {g : Gateway} (hg : g.topology = t)
    (around : Gateway.Surroundings) {req : Http.Request} (hmethod : req.method = "GET")
    (hp : Probe.ofPath? req.uri.path = some .readiness) :
    (g.handle around req).response.status = 200 ↔
      ∃ snapshot, outcomes.getLast? = some (.ok snapshot) := by
  rw [(Gateway.handle_probe hp around).2, ← h.ready, hmethod, ← hg]
  have hget : Gateway.probeMethods.contains "GET" = true := by decide
  unfold Gateway.probeResponse
  rw [if_pos hget]
  cases hready : g.topology.ready with
  | true => simp [Gateway.probeContent, Http.Response.ofContent, hready]
  | false => simp [Gateway.probeContent, Http.Response.ofContent, hready]

/-- Once a refresh has succeeded no path leads to a backend of which nothing is known yet. -/
lemma lookup_ne_notReady (h : Reflects outcomes t m) {g : Gateway} (hg : g.topology = t)
    (hok : ∃ snapshot, .ok snapshot ∈ outcomes) (path : List Char) (backend : Backend) :
    g.lookup path ≠ .notReady backend := by
  obtain ⟨snapshot, hs⟩ := Option.isSome_iff_exists.mp (h.isSome_snapshot_iff.mpr hok)
  unfold Gateway.lookup
  rw [hg, hs]
  cases Route.backend? path with
  | none => nofun
  | some b =>
    simp only
    cases snapshot.url? b with
    | none => nofun
    | some base => nofun

end Reflects

end ApiGateway.Discovery
