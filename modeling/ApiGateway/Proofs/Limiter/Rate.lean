import ApiGateway.Proofs.Limiter.Run

/-!
# The rate is kept in every window

However requests come, of those between two arrivals of a run the bucket of all requests lets no more pass
than its burst and one for every period in between, and so does the bucket of a client as long as the client
stays in the table (`count_window_le`).

Every request that passes moves a level on by a period, so over a window the level grows by a period for
each of them (`level_shared_window`, `level_held_window`), and at the end it is ahead of the clock by the
burst in periods at the most, which is the invariant. Between the two there is no room for more.
-/

namespace ApiGateway.Limiter

/-- The bucket that refused the request, if one did. -/
def Decision.refusedBy? : Decision → Option Scope
  | .allowed => none
  | .limited scope _ => some scope

/-- The table as a check finds it: room was made if the bucket of all requests lets the request pass. -/
def found (l : Limiter) (a : Arrival) : Table :=
  if l.shared.wait l.sharedQuota a.time = 0 then l.roomy a.time a.client else l.table

/-- Holds if the check removes the entry of the client. -/
def removes (l : Limiter) (a : Arrival) (client : Client) : Bool :=
  (l.table.find? client).isSome && ((l.found a).find? client).isNone

/-- A count that fits into a time that a burst is added to in periods. -/
lemma Quota.count_le {q : Quota} {n span : Nat} (h : n * q.period ≤ span + q.period * q.burst) :
    n ≤ q.burst + span / q.period := by
  have hn : n ≤ (span + q.period * q.burst) / q.period := (Nat.le_div_iff_mul_le q.period_pos).mpr h
  rwa [Nat.add_mul_div_left _ _ q.period_pos, Nat.add_comm] at hn

/-- A window that is one position longer holds one element more. -/
lemma extract_succ {α : Type} {xs : List α} {i k : Nat} {x : α} (hik : i ≤ k) (hx : xs[k]? = some x) :
    xs.extract i (k + 1) = xs.extract i k ++ [x] := by
  have hlen : k + 1 - i = (k - i) + 1 := by omega
  have hget : (xs.drop i)[k - i]? = some x := by
    rw [List.getElem?_drop, show i + (k - i) = k by omega, hx]
  rw [List.extract_eq_take_drop, List.extract_eq_take_drop, hlen, List.take_add_one, hget]
  rfl

/-- What grows by a weight for every counted element of a window has grown by as many weights at its end. -/
lemma countP_extract_le {α : Type} {p : α → Bool} {xs : List α} {f : Nat → Nat} {weight i n : Nat}
    (hin : i ≤ n)
    (hstep : ∀ k, i ≤ k → k < n →
      ∃ x, xs[k]? = some x ∧ f k + (if p x then 1 else 0) * weight ≤ f (k + 1)) :
    f i + (xs.extract i n).countP p * weight ≤ f n := by
  induction n, hin using Nat.le_induction with
  | base => simp
  | succ n hin ih =>
    obtain ⟨x, hx, hle⟩ := hstep n hin (Nat.lt_succ_self n)
    have hprefix := ih fun k hk hkn => hstep k hk (Nat.lt_succ_of_lt hkn)
    rw [extract_succ hin hx, List.countP_append, List.countP_singleton, Nat.add_mul]
    omega

/-- A request is allowed by a bucket exactly if there is no wait. -/
lemma ofWait_eq_allowed_iff {scope : Scope} {wait : Nat} : Decision.ofWait scope wait = .allowed ↔ wait = 0 := by
  unfold Decision.ofWait
  split
  · next h => exact ⟨fun _ => h, fun _ => rfl⟩
  · next h => exact ⟨nofun, fun h' => absurd h' h⟩

/-! ### One check -/

/-- A request that passes the bucket of all requests moves its level on by a period. -/
lemma level_shared_check (l : Limiter) {base : Nat} {a : Arrival} (hle : base ≤ a.time) :
    max l.shared.level base +
        (if (l.check a.time a.client).1.refusedBy? ≠ some .shared then 1 else 0) * l.sharedQuota.period ≤
      max (l.check a.time a.client).2.shared.level base := by
  rw [shared_check, Bucket.level_check]
  by_cases hw : l.shared.wait l.sharedQuota a.time = 0
  · rw [if_pos hw]
    split <;> omega
  · rw [if_neg hw, check_of_wait_ne_zero hw, Decision.refusedBy?, if_neg (by simp)]
    omega

/-- A request that is allowed moves the level of its client on by a period, from what the check finds. -/
lemma level_held_check (l : Limiter) {base : Nat} {a : Arrival} (hle : base ≤ a.time) (client : Client) :
    max (Bucket.level? ((l.found a).held client)) base +
        (if a.client = client ∧ (l.check a.time a.client).1 = .allowed then 1 else 0) *
          l.clientQuota.period ≤
      max (Bucket.level? ((l.check a.time a.client).2.table.held client)) base := by
  unfold found
  by_cases hw : l.shared.wait l.sharedQuota a.time = 0
  · rw [if_pos hw, check_of_wait_eq_zero hw, Table.held_put]
    by_cases hc : client = a.client
    · subst hc
      have hnew : Bucket.level? ((l.roomy a.time a.client).held a.client) ≤
          ((l.roomy a.time a.client).bucket a.time a.client).level := Bucket.level?_le_level_getD _ _
      have hlevel := Bucket.level_check l.clientQuota ((l.roomy a.time a.client).bucket a.time a.client) a.time
      simp only [ofWait_eq_allowed_iff, true_and, if_true]
      rw [Bucket.level?_some, hlevel]
      split <;> omega
    · rw [if_neg hc, if_neg (fun h => hc h.1.symm)]
      omega
  · have hnot : ¬ (a.client = client ∧ (l.check a.time a.client).1 = .allowed) := by
      rw [check_of_wait_ne_zero hw]
      exact fun h => by cases h.2
    rw [if_neg hw, if_neg hnot, check_of_wait_ne_zero hw, Nat.zero_mul, Nat.add_zero]

/-- A check that does not remove the client's entry finds its bucket as it was. -/
lemma held_found {l : Limiter} {now : Nat} (h : l.Sound now) {a : Arrival} {client : Client}
    (hkeep : l.removes a client = false) : (l.found a).held client = l.table.held client := by
  have hsub : (l.found a).entries.Sublist l.table.entries := by
    unfold found
    split
    · exact Table.sublist_makeRoom _ _ _ _ _ _
    · exact List.Sublist.refl _
  unfold removes at hkeep
  unfold Table.held
  cases hfound : (l.found a).find? client with
  | some e => rw [Table.find?_of_sublist h.table.distinct hsub hfound]
  | none =>
    cases hf : l.table.find? client with
    | none => rfl
    | some e => simp [hfound, hf] at hkeep

/-! ### Windows -/

variable {l : Limiter} {arrivals : List Arrival} {i j : Nat}

/-- Over a window the level of all requests grows by a period for every request that passes. -/
lemma level_shared_window (hord : InOrder arrivals) (hij : i ≤ j) (hj : j < arrivals.length) :
    max (l.after (arrivals.take i)).shared.level arrivals[i].time +
        ((l.trace arrivals).extract i (j + 1)).countP (fun x => x.2.refusedBy? ≠ some .shared) *
          l.sharedQuota.period ≤
      max (l.after (arrivals.take (j + 1))).shared.level arrivals[i].time := by
  apply countP_extract_le (f := fun k => max (l.after (arrivals.take k)).shared.level arrivals[i].time)
    (Nat.le_succ_of_le hij)
  intro k hik hkj
  have hk : k < arrivals.length := by omega
  refine ⟨_, getElem?_trace l hk, ?_⟩
  have hstep := level_shared_check (l.after (arrivals.take k)) (hord.time_le hik (by omega) hk)
  rw [(quotas_after _ _).1] at hstep
  simpa [after_take_succ l hk] using hstep

/-- Over a window in which a client stays in the table its level grows by a period for every request of it
that is allowed. -/
lemma level_held_window (hsound : ∀ now, l.Sound now) (hord : InOrder arrivals) (hij : i ≤ j)
    (hj : j < arrivals.length) {client : Client}
    (hkeep : ∀ k (hk : k < arrivals.length), i < k → k ≤ j →
      (l.after (arrivals.take k)).removes arrivals[k] client = false) :
    arrivals[i].time + ((l.trace arrivals).extract i (j + 1)).countP
        (fun x => x.1.client = client ∧ x.2 = .allowed) * l.clientQuota.period ≤
      max (Bucket.level? ((l.after (arrivals.take (j + 1))).table.held client)) arrivals[i].time := by
  -- the first check of the window may still remove the entry, so the growth counts from the clock there
  let f := fun k => if k ≤ i then arrivals[i].time else
    max (Bucket.level? ((l.after (arrivals.take k)).table.held client)) arrivals[i].time
  have hgrow : f i + ((l.trace arrivals).extract i (j + 1)).countP
      (fun x => x.1.client = client ∧ x.2 = .allowed) * l.clientQuota.period ≤ f (j + 1) := by
    apply countP_extract_le (Nat.le_succ_of_le hij)
    intro k hik hkj
    have hk : k < arrivals.length := by omega
    refine ⟨_, getElem?_trace l hk, ?_⟩
    have hstep := level_held_check (l.after (arrivals.take k)) (hord.time_le hik (by omega) hk) client
    rw [(quotas_after _ _).2, ← after_take_succ l hk] at hstep
    have hnext : f (k + 1) =
        max (Bucket.level? ((l.after (arrivals.take (k + 1))).table.held client)) arrivals[i].time :=
      if_neg (by omega)
    have hnow : f k ≤ max (Bucket.level? (((l.after (arrivals.take k)).found arrivals[k]).held client))
        arrivals[i].time := by
      by_cases hki : k ≤ i
      · rw [show f k = arrivals[i].time from if_pos hki]
        exact le_max_right _ _
      · rw [show f k = _ from if_neg hki,
          held_found (Sound.after_take hsound hord (Nat.le_succ k) hk) (hkeep k hk (by omega) (by omega))]
    rw [hnext]
    simpa using (Nat.add_le_add_right hnow _).trans hstep
  rwa [show f i = arrivals[i].time from if_pos (le_refl i),
    show f (j + 1) = _ from if_neg (by omega)] at hgrow

/-- What the table holds of a client is ahead of the clock by the burst in periods at the most. -/
lemma level_held_le {now : Nat} (h : l.Sound now) (client : Client) :
    Bucket.level? (l.table.held client) ≤ now + l.clientQuota.period * l.clientQuota.burst := by
  unfold Table.held
  cases hf : l.table.find? client with
  | none => exact Nat.zero_le _
  | some e =>
    have he := h.table.of_find? hf
    have hlevel := he.level_le
    have hseen := he.seen
    rw [Option.map_some, Bucket.level?_some]
    omega

/-- A check leaves when the bucket of all requests was created, and so does a run. -/
lemma start_after (l : Limiter) (arrivals : List Arrival) :
    (l.after arrivals).shared.start = l.shared.start := by
  induction arrivals generalizing l with
  | nil => rfl
  | cons a rest ih =>
    have hcheck : (l.check a.time a.client).2.shared.start = l.shared.start := by
      rw [shared_check, Bucket.start_check]
    exact (ih (l.check a.time a.client).2).trans hcheck

/-- In every window of a run no more requests pass the bucket of all requests than its burst and one for
every period of the window, and no more of a client are allowed than its burst and one for every period,
if no check after the first removes the client's entry. -/
theorem count_window_le {s : Settings} {start : Nat} {listing : Listing} {p q : Quota}
    (hl : ofSettings? s start listing = .ok l)
    (hp : s.shared.quota? = .ok p) (hq : s.client.quota? = .ok q) (hord : InOrder arrivals) (hij : i ≤ j)
    (hj : j < arrivals.length) :
    ((l.trace arrivals).extract i (j + 1)).countP (fun x => x.2.refusedBy? ≠ some .shared) ≤
        s.shared.burst + (arrivals[j].time - arrivals[i].time) / p.period ∧
      ∀ client,
        (∀ k (hk : k < arrivals.length), i < k → k ≤ j →
          (l.after (arrivals.take k)).removes arrivals[k] client = false) →
        ((l.trace arrivals).extract i (j + 1)).countP (fun x => x.1.client = client ∧ x.2 = .allowed) ≤
          s.client.burst + (arrivals[j].time - arrivals[i].time) / q.period := by
  have hsound : ∀ now, l.Sound now := Sound.ofSettings? hl
  have hend := Sound.after_take hsound hord (le_refl (j + 1)) hj
  have htime := hord.time_le hij (by omega) hj
  have hshared : l.sharedQuota = p := by rw [eq_of_ofSettings? hl hp hq]
  have hclient : l.clientQuota = q := by rw [eq_of_ofSettings? hl hp hq]
  rw [(Rate.quota?_eq_ok_iff.mp hp).2, (Rate.quota?_eq_ok_iff.mp hq).2]
  refine ⟨?_, ?_⟩
  -- the level grows by a period for each request that passes and is never ahead of the clock by more than the burst
  · have hgrow := level_shared_window (l := l) hord hij hj
    have hwithin := hend.shared
    have hstart := (l.after (arrivals.take i)).shared.start_le_level
    rw [Bucket.Within, (quotas_after _ _).1, start_after] at hwithin
    rw [start_after] at hstart
    rw [hshared] at hgrow hwithin
    apply Quota.count_le
    omega
  · intro client hkeep
    have hgrow := level_held_window hsound hord hij hj hkeep
    have hlevel := level_held_le hend client
    rw [(quotas_after _ _).2] at hlevel
    rw [hclient] at hgrow hlevel
    apply Quota.count_le
    omega

/-- A client that comes four times in a second, and another one. -/
def crowded : List Arrival :=
  [⟨0, ['a']⟩, ⟨0, ['a']⟩, ⟨400000000, ['b']⟩, ⟨500000000, ['a']⟩, ⟨1000000000, ['a']⟩]

/-- Of the four requests of the client within the second three are allowed, which is as many as may be. -/
theorem count_crowded :
    ofSettings? small 0 .latest = .ok smallLimiter ∧ small.shared.quota? = .ok smallShared ∧
      small.client.quota? = .ok smallClient ∧ InOrder crowded ∧ 0 ≤ 4 ∧ 4 < crowded.length ∧
      (∀ k (hk : k < crowded.length), 0 < k → k ≤ 4 →
        (smallLimiter.after (crowded.take k)).removes crowded[k] ['a'] = false) ∧
      ((smallLimiter.trace crowded).extract 0 5).countP (fun x => x.2.refusedBy? ≠ some .shared) ≤
        small.shared.burst + (1000000000 - 0) / smallShared.period ∧
      ((smallLimiter.trace crowded).extract 0 5).countP
          (fun x => x.1.client = ['a'] ∧ x.2 = .allowed) ≤
        small.client.burst + (1000000000 - 0) / smallClient.period :=
  have hkeep : ∀ k (hk : k < crowded.length), 0 < k → k ≤ 4 →
      (smallLimiter.after (crowded.take k)).removes crowded[k] ['a'] = false := by decide
  have hbounds := count_window_le (i := 0) (j := 4) ofSettings?_small quota?_small_shared
    quota?_small_client (by decide : InOrder crowded) (by decide) (by decide)
  ⟨ofSettings?_small, quota?_small_shared, quota?_small_client, by decide, by decide, by decide, hkeep,
    hbounds.1, hbounds.2 ['a'] hkeep⟩

end ApiGateway.Limiter
