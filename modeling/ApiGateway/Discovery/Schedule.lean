import ApiGateway.Discovery.Refresh
import ApiGateway.Settings.Basic

/-!
# Refreshes in the background

A discovery refreshes when it is asked to and, once its loop is started, at a fixed interval. The loop
has at most one refresh in flight. Its first tick comes one interval after the start, and each later one
an interval after the tick before; but if a tick comes late by more than the slack, the next one comes an
interval after it. A loop that is cancelled ends as soon as no refresh is in flight.

A refresh that ends writes several cells one after the other: the snapshot, the readiness, the last error and the
metrics. It waits for nothing in between, and `complete` takes these writes as one step: of two refreshes one ends
before the other, and nothing is read among the writes of either.
-/

namespace ApiGateway

namespace Discovery

/-- A refresh that is on its way: when it ends, and what will come of it. -/
structure Flight where
  finish : Nat
  outcome : Except Error Snapshot

/-- The loop in the background: when its next tick is due, the refresh it has in flight, and whether it was told to
end. -/
structure Loop where
  nextTick : Nat
  flight : Option Flight := none
  cancelled : Bool := false

/-- Holds until the loop has ended. -/
def Loop.isRunning (l : Loop) : Bool :=
  !l.cancelled || l.flight.isSome

/-- How late a tick may come without moving the later ones. -/
def slack : Nat := Time.ofMilliseconds 5

/-- When the tick after one is due that was due at `due` and came at `now`. -/
def tickAfter (interval due now : Nat) : Nat :=
  if due + slack < now then now + interval else due + interval

/-- The next tick is due later than the one before. -/
theorem lt_tickAfter {interval due now : Nat} (h : 0 < interval) :
    due < tickAfter interval due now := by
  unfold tickAfter
  split <;> omega

end Discovery

/-- A discovery: how it refreshes, and what it has found so far. The `interval` is the time from one refresh in the
background to the next, the `limit` how long a refresh may take; the calls of the resolver are counted from zero, and
there is a loop once it was started. -/
structure Discovery where
  interval : Nat
  limit : Nat
  resolver : Nat → Discovery.Resolution
  now : Nat := 0
  calls : Nat := 0
  topology : Topology := {}
  metrics : Metrics := {}
  loop : Option Discovery.Loop := none

namespace Discovery

/-- The discovery with the times of the settings, which has done nothing yet. -/
def ofSettings (s : Settings) (resolver : Nat → Resolution) : Discovery :=
  { interval := Time.ofSeconds s.discoveryIntervalSecs
    limit := Time.ofSeconds s.discoveryTimeoutSecs
    resolver }

/-- Calls the resolver at the time `now`: the refresh that is then in flight. -/
def call (d : Discovery) (now : Nat) : Flight :=
  let r := d.resolver d.calls
  { finish := now + r.duration d.limit, outcome := r.outcome d.limit }

/-- Records what came of a refresh that ended at the time `now`, in one step. -/
def complete (d : Discovery) (now : Nat) (outcome : Except Error Snapshot) : Discovery :=
  { d with
    now
    topology := settle outcome d.topology
    metrics := count outcome d.metrics }

/-- What the loop does next before the time `bound`: nothing, or its refresh ends, or a tick comes. -/
inductive Event where
  | none
  | landing (l : Loop) (f : Flight)
  | tick (l : Loop) (now : Nat)

/-- The next event of the loop before the time `bound`. A loop without an interval never ticks. -/
def nextEvent (d : Discovery) (bound : Nat) : Event :=
  match d.loop with
  | Option.none => .none
  | some l =>
    match l.flight with
    | some f => if f.finish < bound then .landing l f else .none
    | Option.none =>
      let now := max l.nextTick d.now
      if !l.cancelled && 0 < d.interval && now < bound then .tick l now else .none

/-- The discovery after its loop's refresh has ended. -/
def land (d : Discovery) (l : Loop) (f : Flight) : Discovery :=
  { d.complete f.finish f.outcome with loop := some { l with flight := none } }

/-- The discovery after a tick: a refresh is in flight. -/
def depart (d : Discovery) (l : Loop) (now : Nat) : Discovery :=
  { d with
    now
    calls := d.calls + 1
    loop :=
      some { l with
        nextTick := tickAfter d.interval l.nextTick now
        flight := some (d.call now) } }

/-- How much the loop can still do before the time `bound`. -/
def pending (d : Discovery) (bound : Nat) : Nat :=
  match d.loop with
  | none => 0
  | some l => 2 * (bound - l.nextTick) + if l.flight.isSome then 1 else 0

/-- A refresh that has ended leaves the loop less to do. -/
theorem pending_land {d : Discovery} {bound : Nat} {l : Loop} {f : Flight}
    (h : d.nextEvent bound = .landing l f) : (d.land l f).pending bound < d.pending bound := by
  unfold nextEvent at h
  cases hl : d.loop with
  | none => simp [hl] at h
  | some l' =>
    cases hf : l'.flight with
    | none => simp only [hl, hf] at h; split at h <;> cases h
    | some f' =>
      simp only [hl, hf] at h
      split at h <;> cases h
      simp [pending, land, hl, hf]

/-- A tick leaves the loop less to do. -/
theorem pending_depart {d : Discovery} {bound now : Nat} {l : Loop}
    (h : d.nextEvent bound = .tick l now) : (d.depart l now).pending bound < d.pending bound := by
  unfold nextEvent at h
  cases hl : d.loop with
  | none => simp [hl] at h
  | some l' =>
    cases hf : l'.flight with
    | some f => simp only [hl, hf] at h; split at h <;> cases h
    | none =>
      simp only [hl, hf] at h
      split at h <;> cases h
      rename_i hc
      simp only [Bool.and_eq_true, decide_eq_true_eq] at hc
      have ht := @lt_tickAfter d.interval l.nextTick (max l.nextTick d.now) hc.1.2
      simp [pending, depart, hl, hf]
      omega

/-- Lets everything happen that the loop does before the time `bound`. -/
def runBelow (d : Discovery) (bound : Nat) : Discovery :=
  match h : d.nextEvent bound with
  | .none => d
  | .landing l f =>
    have := pending_land h
    runBelow (d.land l f) bound
  | .tick l now =>
    have := pending_depart h
    runBelow (d.depart l now) bound
termination_by d.pending bound

/-- Lets everything happen up to the time `now`, which is then the time. -/
def runTo (d : Discovery) (now : Nat) : Discovery :=
  { d.runBelow (now + 1) with now }

/-- Lets time pass. -/
def advance (d : Discovery) (time : Nat) : Discovery :=
  d.runTo (d.now + time)

/-- Starts the loop. Without an interval it ends at once. -/
def start (d : Discovery) : Discovery :=
  { d with loop := some { nextTick := d.now + d.interval, cancelled := d.interval == 0 } }

/-- Tells the loop to end. -/
def cancel (d : Discovery) : Discovery :=
  { d with loop := d.loop.map fun l => { l with cancelled := true } }

/-- Refreshes and waits for the end of it: the outcome, and the discovery after it. Of two refreshes
that end at once this one is recorded first. -/
def refresh (d : Discovery) : Except Error Snapshot × Discovery :=
  let f := d.call d.now
  let waiting := { d with calls := d.calls + 1 }.runBelow f.finish
  (f.outcome, (waiting.complete f.finish f.outcome).runTo f.finish)

end Discovery

end ApiGateway
