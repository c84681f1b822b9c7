import ApiGateway.Proofs.Limiter.Rate

/-!
# Who keeps to the rate is never refused

Where no window of a run holds more requests than the burst of all requests and one for every period of the
window, and the same is true of every client with its own quota, every request is allowed
(`allowed_of_conforms`). Together with `count_window_le` this says what rate a limiter stands for.

A level is a maximum over the past: it is the time of some earlier arrival with one period for every request
from then on. `Covered` says so as a bound, and that is the invariant of every bucket. A conforming request
then finds its bucket ahead of the clock by the tolerance at the most (`Covered.le_tolerance`). A client that
was forgotten has no bucket and so no level, which only makes the bound easier to keep.
-/

namespace ApiGateway.Limiter

/-- No window of the run holds more of the counted arrivals than the burst and one for every period. -/
def Conforms (q : Quota) (counted : Arrival → Bool) (arrivals : List Arrival) : Prop :=
  ∀ j (hj : j < arrivals.length) i (hij : i ≤ j),
    (arrivals.extract i (j + 1)).countP counted ≤
      q.burst + (arrivals[j].time - arrivals[i].time) / q.period

/-- Whether arrivals conform can be found out window by window. -/
instance (q : Quota) (counted : Arrival → Bool) (arrivals : List Arrival) :
    Decidable (Conforms q counted arrivals) :=
  inferInstanceAs (Decidable (∀ j (hj : j < arrivals.length) i (hij : i ≤ j),
    (arrivals.extract i (j + 1)).countP counted ≤
      q.burst + (arrivals[j].time - arrivals[i].time) / q.period))

/-- Where nothing is counted the run conforms. -/
lemma conforms_of_absent {q : Quota} {counted : Arrival → Bool} {arrivals : List Arrival}
    (h : ∀ a ∈ arrivals, counted a = false) : Conforms q counted arrivals := by
  intro j hj i hij
  have hzero : (arrivals.extract i (j + 1)).countP counted = 0 := by
    rw [List.countP_eq_zero, List.extract_eq_take_drop]
    intro a ha
    simp [h a (List.mem_of_mem_drop (List.mem_of_mem_take ha))]
  exact hzero.trans_le (Nat.zero_le _)

/-- A level before the arrival at position `k` is not after the start, or not after an earlier arrival with
one period for every counted one from it on. -/
def Covered (q : Quota) (counted : Arrival → Bool) (arrivals : List Arrival) (start k level : Nat) : Prop :=
  level ≤ start ∨ ∃ i, ∃ hi : i < arrivals.length,
    i < k ∧ level ≤ arrivals[i].time + (arrivals.extract i k).countP counted * q.period

variable {q : Quota} {counted : Arrival → Bool} {arrivals : List Arrival} {start k level : Nat}

/-- A window that is one position longer counts the arrival there. -/
lemma countP_extract_succ {i : Nat} (hik : i ≤ k) (hk : k < arrivals.length) :
    (arrivals.extract i (k + 1)).countP counted =
      (arrivals.extract i k).countP counted + if counted arrivals[k] then 1 else 0 := by
  rw [extract_succ hik (List.getElem?_eq_getElem hk), List.countP_append, List.countP_singleton]

namespace Covered

/-- What covers a level covers every lower one. -/
lemma of_le {lower : Nat} (h : Covered q counted arrivals start k level) (hle : lower ≤ level) :
    Covered q counted arrivals start k lower := by
  obtain h | ⟨i, hi, hik, h⟩ := h
  · exact .inl (hle.trans h)
  · exact .inr ⟨i, hi, hik, hle.trans h⟩

/-- A level that stays is still covered after an arrival. -/
lemma skip (h : Covered q counted arrivals start k level) (hk : k < arrivals.length) :
    Covered q counted arrivals start (k + 1) level := by
  obtain h | ⟨i, hi, hik, h⟩ := h
  · exact .inl h
  · refine .inr ⟨i, hi, Nat.lt_succ_of_lt hik, h.trans ?_⟩
    rw [countP_extract_succ hik.le hk]
    exact Nat.add_le_add_left (Nat.mul_le_mul_right _ (Nat.le_add_right _ _)) _

/-- The level that a counted arrival leaves is covered after it. -/
lemma take (h : Covered q counted arrivals start k level) (hk : k < arrivals.length)
    (hcounted : counted arrivals[k] = true) (hstart : start ≤ arrivals[k].time) :
    Covered q counted arrivals start (k + 1) (max level arrivals[k].time + q.period) := by
  by_cases hle : level ≤ arrivals[k].time
  · -- the level counts from this arrival on
    refine .inr ⟨k, hk, Nat.lt_succ_self k, ?_⟩
    rw [countP_extract_succ (le_refl k) hk, if_pos hcounted, max_eq_right hle, Nat.add_mul, Nat.one_mul]
    omega
  · obtain h | ⟨i, hi, hik, h⟩ := h
    · exact absurd (h.trans hstart) hle
    · refine .inr ⟨i, hi, Nat.lt_succ_of_lt hik, ?_⟩
      rw [countP_extract_succ hik.le hk, if_pos hcounted, max_eq_left (Nat.le_of_not_le hle), Nat.add_mul,
        Nat.one_mul]
      omega

/-- A covered level is ahead of a conforming arrival by the tolerance at the most. -/
lemma le_tolerance (h : Covered q counted arrivals start k level) (hconf : Conforms q counted arrivals)
    (hord : InOrder arrivals) (hk : k < arrivals.length) (hcounted : counted arrivals[k] = true)
    (hstart : start ≤ arrivals[k].time) : level ≤ arrivals[k].time + q.tolerance := by
  obtain h | ⟨i, hi, hik, h⟩ := h
  · omega
  · have hcount := hconf k hk i hik.le
    rw [countP_extract_succ hik.le hk, if_pos hcounted] at hcount
    have htime := hord.time_le hik.le hi hk
    -- what the quotient of the window rounds away only leaves more room
    have hspan : ((arrivals.extract i k).countP counted + 1) * q.period ≤
        q.burst * q.period + (arrivals[k].time - arrivals[i].time) :=
      calc ((arrivals.extract i k).countP counted + 1) * q.period
          ≤ (q.burst + (arrivals[k].time - arrivals[i].time) / q.period) * q.period :=
            Nat.mul_le_mul_right _ hcount
        _ = q.burst * q.period + (arrivals[k].time - arrivals[i].time) / q.period * q.period :=
            Nat.add_mul _ _ _
        _ ≤ q.burst * q.period + (arrivals[k].time - arrivals[i].time) :=
            Nat.add_le_add_left (Nat.div_mul_le_self _ _) _
    have htolerance := q.tolerance_add_period
    rw [Nat.add_mul, Nat.one_mul, Nat.mul_comm q.burst] at hspan
    omega

end Covered

/-! ### Buckets -/

/-- A bucket whose level is ahead of the clock by the tolerance at the most makes nobody wait. -/
lemma wait_eq_zero_of_le {b : Bucket} {now : Nat} (h : b.level ≤ now + q.tolerance) : b.wait q now = 0 := by
  rw [Bucket.wait_eq]
  omega

/-- Making room only lowers levels. -/
lemma level_held_roomy_le {l : Limiter} {now : Nat} (h : l.Sound now) (client c : Client) :
    Bucket.level? ((l.roomy now client).held c) ≤ Bucket.level? (l.table.held c) := by
  unfold Table.held
  cases hf : (l.roomy now client).find? c with
  | none => exact Nat.zero_le _
  | some e => rw [Table.find?_of_sublist h.table.distinct (Table.sublist_makeRoom _ _ _ _ _ _) hf]

/-! ### Runs -/

/-- A limiter before the arrival at position `k`: the level of all requests is covered by all arrivals, and that
of each client by its own. -/
structure Paced (arrivals : List Arrival) (start k : Nat) (l : Limiter) : Prop where
  shared : Covered l.sharedQuota (fun _ => true) arrivals start k l.shared.level
  held : ∀ c, Covered l.clientQuota (fun a => a.client = c) arrivals start k
    (Bucket.level? (l.table.held c))

namespace Paced

/-- A limiter that has just been set up is paced. -/
lemma ofSettings? {s : Settings} {listing : Listing} {l : Limiter} (h : Limiter.ofSettings? s start listing = .ok l)
    (arrivals : List Arrival) : Paced arrivals start 0 l := by
  obtain ⟨p, q, _, _, _, _, rfl⟩ := ofSettings?_eq_ok_iff.mp h
  exact ⟨.inl (le_refl start), fun _ => .inl (Nat.zero_le start)⟩

/-- A conforming request is allowed by a paced limiter, which is paced after it. -/
lemma check {l : Limiter} (h : Paced arrivals start k l) (hord : InOrder arrivals) (hk : k < arrivals.length)
    (hsound : l.Sound arrivals[k].time) (hstart : start ≤ arrivals[k].time)
    (hshared : Conforms l.sharedQuota (fun _ => true) arrivals)
    (hclients : ∀ c, Conforms l.clientQuota (fun a => a.client = c) arrivals) :
    (l.check arrivals[k].time arrivals[k].client).1 = .allowed ∧
      Paced arrivals start (k + 1) (l.check arrivals[k].time arrivals[k].client).2 := by
  have hpass : l.shared.wait l.sharedQuota arrivals[k].time = 0 :=
    wait_eq_zero_of_le (h.shared.le_tolerance hshared hord hk rfl hstart)
  have hheld (c : Client) := (h.held c).of_le (level_held_roomy_le hsound arrivals[k].client c)
  have hcounted : decide (arrivals[k].client = arrivals[k].client) = true := decide_eq_true rfl
  have hlevel : max ((l.roomy arrivals[k].time arrivals[k].client).bucket arrivals[k].time
        arrivals[k].client).level arrivals[k].time =
      max (Bucket.level? ((l.roomy arrivals[k].time arrivals[k].client).held arrivals[k].client))
        arrivals[k].time := Bucket.max_level_getD _ _
  have hwait : ((l.roomy arrivals[k].time arrivals[k].client).bucket arrivals[k].time
      arrivals[k].client).wait l.clientQuota arrivals[k].time = 0 := by
    have hle := (hheld arrivals[k].client).le_tolerance (hclients _) hord hk hcounted hstart
    apply wait_eq_zero_of_le
    omega
  rw [check_of_wait_eq_zero hpass]
  refine ⟨ofWait_eq_allowed_iff.mpr hwait, ?_, ?_⟩
  · rw [Bucket.level_take]
    exact h.shared.take hk rfl hstart
  · intro c
    rw [Table.held_put]
    by_cases hc : c = arrivals[k].client
    · subst hc
      rw [if_pos rfl, Bucket.level?_some, Bucket.level_check, if_pos hwait, hlevel]
      exact (hheld _).take hk hcounted hstart
    · rw [if_neg hc]
      exact (hheld c).skip hk

/-- The same of the limiter that the first arrivals of a run leave. -/
lemma check_take {l : Limiter} (h : Paced arrivals start k (l.after (arrivals.take k)))
    (hsound : ∀ now, l.Sound now) (hord : InOrder arrivals) (hstart : ∀ a ∈ arrivals, start ≤ a.time)
    (hshared : Conforms l.sharedQuota (fun _ => true) arrivals)
    (hclients : ∀ c, Conforms l.clientQuota (fun a => a.client = c) arrivals) (hk : k < arrivals.length) :
    ((l.after (arrivals.take k)).check arrivals[k].time arrivals[k].client).1 = .allowed ∧
      Paced arrivals start (k + 1)
        ((l.after (arrivals.take k)).check arrivals[k].time arrivals[k].client).2 := by
  obtain ⟨hs, hc⟩ := l.quotas_after (arrivals.take k)
  apply h.check hord hk
  · exact Sound.after_take hsound hord (Nat.le_succ k) hk
  · exact hstart _ (List.getElem_mem hk)
  · rw [hs]
    exact hshared
  · rw [hc]
    exact hclients

/-- A paced limiter is paced at every position of a conforming run. -/
lemma after_take {l : Limiter} (h : Paced arrivals start 0 l) (hsound : ∀ now, l.Sound now)
    (hord : InOrder arrivals) (hstart : ∀ a ∈ arrivals, start ≤ a.time)
    (hshared : Conforms l.sharedQuota (fun _ => true) arrivals)
    (hclients : ∀ c, Conforms l.clientQuota (fun a => a.client = c) arrivals) (hk : k ≤ arrivals.length) :
    Paced arrivals start k (l.after (arrivals.take k)) := by
  induction k with
  | zero => exact h
  | succ k ih =>
    rw [after_take_succ l hk]
    exact ((ih (Nat.le_of_succ_le hk)).check_take hsound hord hstart hshared hclients hk).2

end Paced

/-- There is a decision for each arrival. -/
lemma length_trace (l : Limiter) (arrivals : List Arrival) : (l.trace arrivals).length = arrivals.length := by
  induction arrivals generalizing l with
  | nil => rfl
  | cons a rest ih => exact congrArg Nat.succ (ih _)

/-- If in no window of a run there are more requests than the burst of all requests and one for every period,
and none of a client more than its burst and one for every period, every request is allowed. -/
theorem allowed_of_conforms {s : Settings} {listing : Listing} {l : Limiter} {p q : Quota}
    (hl : ofSettings? s start listing = .ok l)
    (hp : s.shared.quota? = .ok p) (hq : s.client.quota? = .ok q) (hord : InOrder arrivals)
    (hstart : ∀ a ∈ arrivals, start ≤ a.time) (hshared : Conforms p (fun _ => true) arrivals)
    (hclients : ∀ client, Conforms q (fun a => a.client = client) arrivals) :
    ∀ d ∈ l.decisions arrivals, d = .allowed := by
  have hsound : ∀ now, l.Sound now := Sound.ofSettings? hl
  have hpaced : Paced arrivals start 0 l := Paced.ofSettings? hl arrivals
  have hsharedQuota : l.sharedQuota = p := by rw [eq_of_ofSettings? hl hp hq]
  have hclientQuota : l.clientQuota = q := by rw [eq_of_ofSettings? hl hp hq]
  rw [← hsharedQuota] at hshared
  rw [← hclientQuota] at hclients
  -- a decision is that of the check at its place in the run
  intro d hd
  obtain ⟨x, hx, rfl⟩ := List.mem_map.mp hd
  obtain ⟨k, hk, rfl⟩ := List.mem_iff_getElem.mp hx
  rw [length_trace] at hk
  have hdecision := getElem?_trace l hk
  rw [List.getElem?_eq_getElem (by rwa [length_trace])] at hdecision
  rw [Option.some.inj hdecision]
  have hbefore := hpaced.after_take hsound hord hstart hshared hclients hk.le
  exact (hbefore.check_take hsound hord hstart hshared hclients hk).1

/-- Three clients at a table for two, each within its rate: two bursts at once, then one request for each
second. The first client is evicted by the third one and comes back. -/
def patient : List Arrival :=
  [⟨0, ['a']⟩, ⟨0, ['a']⟩, ⟨100000000, ['b']⟩, ⟨100000000, ['b']⟩, ⟨200000000, ['c']⟩,
    ⟨1000000000, ['a']⟩, ⟨2000000000, ['a']⟩]

/-- All of them are allowed. -/
theorem allowed_patient :
    ofSettings? small 0 .latest = .ok smallLimiter ∧ small.shared.quota? = .ok smallShared ∧
      small.client.quota? = .ok smallClient ∧ InOrder patient ∧ (∀ a ∈ patient, 0 ≤ a.time) ∧
      Conforms smallShared (fun _ => true) patient ∧
      (∀ client, Conforms smallClient (fun a => a.client = client) patient) ∧
      (smallLimiter.after (patient.take 5)).table.find? ['a'] = none ∧
      ∀ d ∈ smallLimiter.decisions patient, d = .allowed := by
  have hclients : ∀ client, Conforms smallClient (fun a => a.client = client) patient := by
    intro client
    by_cases ha : client = ['a']
    · subst ha
      decide
    by_cases hb : client = ['b']
    · subst hb
      decide
    by_cases hc : client = ['c']
    · subst hc
      decide
    · apply conforms_of_absent
      simp [patient, Ne.symm ha, Ne.symm hb, Ne.symm hc]
  exact ⟨ofSettings?_small, quota?_small_shared, quota?_small_client, by decide, by decide, by decide, hclients,
    by decide, allowed_of_conforms ofSettings?_small quota?_small_shared quota?_small_client (by decide)
      (by decide) (by decide) hclients⟩

end ApiGateway.Limiter
