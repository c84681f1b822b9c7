import ApiGateway.Discovery.Schedule
import ApiGateway.Proofs.Discovery.History
import Mathlib.Data.Multiset.Range
import Mathlib.Logic.Relation

/-!
# Refreshes in any order

Refreshes may overlap: the resolver is asked now by one and now by another, each answer takes its own time, and
the loop in the background asks on its own. A `Course` is a discovery with the refreshes that are on their way
and those that have ended. Its steps (`Course.Step`) are to ask the resolver, to record what came of a refresh at
the time at which it ends, to wait no longer than until then, and to change what the loop has planned; which of
them comes next is left open.

`Course.Recorded` is the invariant: the topology and the metrics are those of the refreshes that have ended, in
their order, and each of these is one call of the resolver, cut off at the limit. Every step keeps it
(`Recorded.step`), and so does a course of any length (`Recorded.reaches`).

`Step.answer` records a refresh in one step: its snapshot or its error, the readiness and the metrics. A refresh waits
for nothing among these writes, so the courses are about the order in which refreshes end, and not about who reads
between two writes of one refresh. (The two writes that begin a shutdown are steps of their own.)
-/

namespace ApiGateway.Discovery

/-- A refresh: which call of the resolver it is, counted from zero, when it began, and when it ends and how. -/
structure Ticket where
  number : Nat
  begun : Nat
  flight : Flight

/-- A discovery with the refreshes that are on their way and those that have ended, in the order in which they did. -/
structure Course where
  discovery : Discovery
  waiting : Multiset Ticket
  done : List Ticket

namespace Course

/-- A discovery that has done nothing yet. -/
def new (interval limit : Nat) (resolver : Nat → Resolution) : Course :=
  ⟨{ interval, limit, resolver }, 0, []⟩

/-- What came of the refreshes that have ended. -/
def outcomes (c : Course) : List (Except Error Snapshot) :=
  c.done.map fun t => t.flight.outcome

/-- What can happen next: a refresh begins, or one ends at its time; time passes, but no refresh is passed over; or the
loop is started, cancelled or plans otherwise. -/
inductive Step : Course → Course → Prop
  | ask (d : Discovery) (waiting : Multiset Ticket) (done : List Ticket) :
    Step ⟨d, waiting, done⟩
      ⟨{ d with calls := d.calls + 1 }, ⟨d.calls, d.now, d.call d.now⟩ ::ₘ waiting, done⟩
  | answer (d : Discovery) (t : Ticket) (waiting : Multiset Ticket) (done : List Ticket)
    (h : t.flight.finish = d.now) :
    Step ⟨d, t ::ₘ waiting, done⟩ ⟨d.complete d.now t.flight.outcome, waiting, done ++ [t]⟩
  | wait (d : Discovery) (waiting : Multiset Ticket) (done : List Ticket) (now : Nat) (hle : d.now ≤ now)
    (h : ∀ t ∈ waiting, now ≤ t.flight.finish) :
    Step ⟨d, waiting, done⟩ ⟨{ d with now }, waiting, done⟩
  | plan (d : Discovery) (waiting : Multiset Ticket) (done : List Ticket) (loop : Option Loop) :
    Step ⟨d, waiting, done⟩ ⟨{ d with loop }, waiting, done⟩

/-- One course becomes the other by steps. -/
abbrev Reaches : Course → Course → Prop :=
  Relation.ReflTransGen Step

/-- A course in which all that is known and counted comes from the refreshes that have ended: each call of the
resolver is one refresh, on its way or ended; it ends when the resolver answers or at the limit, with what the
resolver answered or, if that would have come later, with a failure for that; and the refreshes that have ended
stand in the order of the times at which they did. -/
structure Recorded (limit : Nat) (resolver : Nat → Resolution) (c : Course) : Prop where
  limit_eq : c.discovery.limit = limit
  resolver_eq : c.discovery.resolver = resolver
  reflects : Reflects c.outcomes c.discovery.topology c.discovery.metrics
  calls : (↑c.done + c.waiting).map Ticket.number = Multiset.range c.discovery.calls
  flights : ∀ t ∈ ↑c.done + c.waiting, t.flight.finish = t.begun + (resolver t.number).duration limit ∧
    t.flight.outcome = (resolver t.number).outcome limit
  ended : ∀ t ∈ c.done, t.flight.finish ≤ c.discovery.now
  pending : ∀ t ∈ c.waiting, c.discovery.now ≤ t.flight.finish
  order : c.done.Pairwise fun t u => t.flight.finish ≤ u.flight.finish

namespace Recorded

variable {interval limit : Nat} {resolver : Nat → Resolution} {c c' : Course}

/-- Where nothing was done there is nothing to record. -/
lemma new : Recorded limit resolver (Course.new interval limit resolver) := by
  refine ⟨rfl, rfl, Reflects.nil, rfl, ?_, ?_, ?_, List.Pairwise.nil⟩
  · exact fun t ht => absurd ht (Multiset.notMem_zero t)
  · exact fun t ht => absurd ht List.not_mem_nil
  · exact fun t ht => absurd ht (Multiset.notMem_zero t)

/-- A step leaves a recorded course recorded. -/
lemma step (h : Recorded limit resolver c) (hs : Step c c') : Recorded limit resolver c' := by
  cases hs with
  | ask d waiting done =>
    obtain ⟨rfl, rfl, hreflects, hcalls, hflights, hended, hpending, horder⟩ := h
    refine ⟨rfl, rfl, hreflects, ?_, ?_, hended, ?_, horder⟩
    · rw [Multiset.add_cons, Multiset.map_cons, hcalls, Multiset.range_succ]
    · intro t ht
      rw [Multiset.add_cons] at ht
      obtain rfl | ht := Multiset.mem_cons.mp ht
      · exact ⟨rfl, rfl⟩
      · exact hflights t ht
    · intro t ht
      obtain rfl | ht := Multiset.mem_cons.mp ht
      · exact Nat.le_add_right _ _
      · exact hpending t ht
  | answer d t waiting done hnow =>
    obtain ⟨hlimit, hresolver, hreflects, hcalls, hflights, hended, hpending, horder⟩ := h
    -- the refresh only moves from those on their way to those that have ended
    have hmoved : (↑(done ++ [t]) + waiting : Multiset Ticket) = ↑done + t ::ₘ waiting := by
      rw [← Multiset.coe_add, Multiset.coe_singleton, Multiset.add_assoc, Multiset.singleton_add]
    refine ⟨hlimit, hresolver, ?_, ?_, ?_, ?_, ?_, ?_⟩
    · have hsnoc := hreflects.snoc t.flight.outcome
      rw [outcomes, List.map_append]
      exact hsnoc
    · rw [hmoved]
      exact hcalls
    · rw [hmoved]
      exact hflights
    · intro u hu
      obtain hu | hu := List.mem_append.mp hu
      · exact hended u hu
      · rw [List.mem_singleton.mp hu]
        exact hnow.le
    · exact fun u hu => hpending u (Multiset.mem_cons_of_mem hu)
    · rw [List.pairwise_append]
      refine ⟨horder, List.pairwise_singleton _ _, ?_⟩
      intro u hu v hv
      rw [List.mem_singleton.mp hv, hnow]
      exact hended u hu
  | wait d waiting done now hle hpass =>
    obtain ⟨hlimit, hresolver, hreflects, hcalls, hflights, hended, _, horder⟩ := h
    exact ⟨hlimit, hresolver, hreflects, hcalls, hflights, fun t ht => (hended t ht).trans hle, hpass, horder⟩
  | plan d waiting done loop =>
    obtain ⟨hlimit, hresolver, hreflects, hcalls, hflights, hended, hpending, horder⟩ := h
    exact ⟨hlimit, hresolver, hreflects, hcalls, hflights, hended, hpending, horder⟩

/-- A course of any length leaves a recorded course recorded. -/
lemma reaches (h : Recorded limit resolver c) (hr : Reaches c c') : Recorded limit resolver c' := by
  induction hr with
  | refl => exact h
  | tail _ hs ih => exact ih.step hs

/-- A refresh whose answer would come later than the limit ends at the limit, with a failure for that. -/
lemma flight_of_late (h : Recorded limit resolver c) {t : Ticket} (ht : t ∈ c.done)
    (hlate : limit < (resolver t.number).delay) : t.flight = ⟨t.begun + limit, .error (.timeout limit)⟩ := by
  obtain ⟨hfinish, houtcome⟩ := h.flights t (Multiset.mem_add.mpr (.inl (Multiset.mem_coe.mpr ht)))
  rw [Resolution.duration, Nat.min_eq_right hlate.le] at hfinish
  rw [Resolution.outcome, if_neg (Nat.not_le_of_lt hlate)] at houtcome
  rw [← hfinish, ← houtcome]

/-- A snapshot that is published was answered within the limit, by a refresh that has ended. -/
lemma answered_of_snapshot (h : Recorded limit resolver c) {snapshot : Snapshot}
    (hs : c.discovery.topology.snapshot = some snapshot) :
    ∃ t ∈ c.done, (resolver t.number).delay ≤ limit ∧ (resolver t.number).answer = .ok snapshot := by
  obtain ⟨t, ht, hok⟩ := List.mem_map.mp (h.reflects.mem_of_snapshot hs)
  refine ⟨t, ht, ?_⟩
  have houtcome := (h.flights t (Multiset.mem_add.mpr (.inl (Multiset.mem_coe.mpr ht)))).2
  rw [hok, Resolution.outcome] at houtcome
  by_cases hle : (resolver t.number).delay ≤ limit
  · rw [if_pos hle] at houtcome
    exact ⟨hle, houtcome.symm⟩
  · rw [if_neg hle] at houtcome
    cases houtcome

end Recorded

/-- Steps only add to the refreshes that have ended. -/
lemma Reaches.prefix_done {c c' : Course} (h : Reaches c c') : c.done <+: c'.done := by
  induction h with
  | refl => exact List.prefix_rfl
  | tail _ hs ih =>
    cases hs with
    | ask d waiting done => exact ih
    | answer d t waiting done hnow => exact ih.trans (List.prefix_append _ _)
    | wait d waiting done now hle hpass => exact ih
    | plan d waiting done loop => exact ih

end Course

end ApiGateway.Discovery
