import ApiGateway.Proofs.Limiter.Rate

/-!
# The table of clients is bounded

There is no timer that clears the table, and yet it neither grows beyond its ceiling nor keeps a client for
ever (`table_bounds`). `Table.Bounded` is the invariant: the clients are not more than the ceiling, nothing
lies in the future, and every client was seen no longer before the last sweep than the idle time. A sweep is
made when the idle time has passed since the last one, so that after a check no client is idle for longer
than twice that time.

Room is made in two steps, a sweep and an eviction (`makeRoom_cases`), after which a new client fits
(`Bounded.makeRoom`); an eviction at a full table drops some client (`size_evict_lt`), in whatever order the
table is gone through.
-/

namespace ApiGateway.Limiter

namespace Table

/-! ### Evicting and inserting -/

/-- There is a client that was seen least recently unless there is none at all. -/
lemma leastRecent?_ne_none {e : Entry} {es : List Entry} : leastRecent? (e :: es) ≠ none := by
  rw [leastRecent?]
  split
  · nofun
  · split
    · nofun
    · nofun

/-- The client that was seen least recently is one of the table. -/
lemma mem_of_leastRecent? {es : List Entry} {e : Entry} (h : leastRecent? es = some e) : e ∈ es := by
  induction es generalizing e with
  | nil => cases h
  | cons x rest ih =>
    rw [leastRecent?] at h
    split at h
    · cases h
      exact List.mem_cons_self
    · next other hother =>
      split at h
      · cases h
        exact List.mem_cons_self
      · cases h
        exact List.mem_cons_of_mem x (ih hother)

/-- An eviction drops some client if there is one. -/
lemma size_evict_lt (listing : Listing) {t : Table} (h : 0 < t.size) : (t.evict listing).size < t.size := by
  have hperm := listing.perm t.evictions t.entries
  unfold evict
  cases hold : leastRecent? (listing.list t.evictions t.entries) with
  | none =>
    obtain ⟨e, es, hes⟩ := List.exists_cons_of_length_pos (hperm.length_eq.trans_gt h)
    rw [hes] at hold
    exact absurd hold leastRecent?_ne_none
  | some oldest =>
    apply List.length_filter_lt_length_iff_exists.mpr
    exact ⟨oldest, hperm.mem_iff.mp (mem_of_leastRecent? hold), by simp⟩

/-- An eviction is no sweep. -/
lemma lastSweep_evict (listing : Listing) (t : Table) : (t.evict listing).lastSweep = t.lastSweep := by
  unfold evict
  split
  · rfl
  · rfl

/-- An insert is no sweep. -/
lemma lastSweep_put (e : Entry) (t : Table) : (t.put e).lastSweep = t.lastSweep := by
  unfold put
  split
  · rfl
  · rfl

/-- An insert makes the table larger by one only if the client is new. -/
lemma size_put (e : Entry) (t : Table) :
    (t.put e).size = if (t.find? e.client).isSome then t.size else t.size + 1 := by
  unfold put size
  split
  · exact List.length_map _
  · exact List.length_append

/-- Room is made by a sweep, unless the table has room and was swept lately, and then by an eviction just if the
table is still full and the client is new. -/
lemma makeRoom_cases (listing : Listing) (maxClients idle now : Nat) (client : Client) (t : Table) :
    ∃ t', (t' = t.sweep idle now ∨ t' = t ∧ t.size < maxClients ∧ now - t.lastSweep < idle) ∧
      (t.makeRoom listing maxClients idle now client = t'.evict listing ∧ maxClients ≤ t'.size ∧ t'.find? client = none ∨
        t.makeRoom listing maxClients idle now client = t' ∧ (t'.find? client = none → t'.size < maxClients)) := by
  let t' := if maxClients ≤ t.size || idle ≤ now - t.lastSweep then t.sweep idle now else t
  have hroom : t.makeRoom listing maxClients idle now client =
      if maxClients ≤ t'.size && (t'.find? client).isNone then t'.evict listing else t' := rfl
  refine ⟨t', ?_, ?_⟩
  · by_cases hdue : (maxClients ≤ t.size || idle ≤ now - t.lastSweep) = true
    · exact .inl (if_pos hdue)
    · simp only [Bool.or_eq_true, decide_eq_true_eq, not_or, Nat.not_le] at hdue
      exact .inr ⟨if_neg (by simpa using hdue), hdue⟩
  · by_cases hfull : (maxClients ≤ t'.size && (t'.find? client).isNone) = true
    · exact .inl ⟨hroom.trans (if_pos hfull), by simpa using hfull⟩
    · refine .inr ⟨hroom.trans (if_neg hfull), ?_⟩
      intro hnone
      simpa [hnone] using hfull

/-! ### The invariant -/

/-- A table at a time: the clients are not more than the ceiling, nothing lies in the future, and no client
was idle for longer than the idle time at the last sweep. -/
structure Bounded (maxClients idle now : Nat) (t : Table) : Prop where
  size : t.size ≤ maxClients
  swept : t.lastSweep ≤ now
  seen : ∀ e ∈ t.entries, e.lastSeen ≤ now
  recent : ∀ e ∈ t.entries, t.lastSweep ≤ e.lastSeen + idle

namespace Bounded

variable {maxClients idle now : Nat} {t : Table}

/-- An empty table is bounded from its first sweep on. -/
lemma empty {start evictions : Nat} (h : start ≤ now) : (⟨[], start, evictions⟩ : Table).Bounded maxClients idle now :=
  ⟨Nat.zero_le _, h, nofun, nofun⟩

/-- A bounded table stays so while time passes. -/
lemma mono {later : Nat} (h : t.Bounded maxClients idle now) (hle : now ≤ later) :
    t.Bounded maxClients idle later :=
  ⟨h.size, h.swept.trans hle, fun e he => (h.seen e he).trans hle, h.recent⟩

/-- A bounded table stays so if it loses entries. -/
lemma of_sublist {t' : Table} (h : t.Bounded maxClients idle now) (hs : t'.entries.Sublist t.entries)
    (hsweep : t'.lastSweep = t.lastSweep) : t'.Bounded maxClients idle now := by
  refine ⟨hs.length_le.trans h.size, hsweep ▸ h.swept, ?_, ?_⟩
  · exact fun e he => h.seen e (hs.subset he)
  · intro e he
    rw [hsweep]
    exact h.recent e (hs.subset he)

/-- A sweep keeps a table bounded, and no client that is left is idle for longer than the idle time. -/
lemma sweep (h : t.Bounded maxClients idle now) : (t.sweep idle now).Bounded maxClients idle now := by
  have hs := sublist_sweep idle now t
  refine ⟨hs.length_le.trans h.size, le_refl now, fun e he => h.seen e (hs.subset he), ?_⟩
  intro e he
  have hidle : now - e.lastSeen ≤ idle := by simpa using (List.mem_filter.mp he).2
  exact Nat.sub_le_iff_le_add'.mp hidle

/-- Making room keeps a table bounded. A new client then fits, and no client that is left is idle for longer
than twice the idle time. -/
lemma makeRoom (listing : Listing) (h : t.Bounded maxClients idle now) (hmax : 0 < maxClients)
    (client : Client) :
    (t.makeRoom listing maxClients idle now client).Bounded maxClients idle now ∧
      ((t.makeRoom listing maxClients idle now client).find? client = none →
        (t.makeRoom listing maxClients idle now client).size < maxClients) ∧
      ∀ e ∈ (t.makeRoom listing maxClients idle now client).entries, now ≤ e.lastSeen + 2 * idle := by
  obtain ⟨t', hswept, hroom⟩ := makeRoom_cases listing maxClients idle now client t
  obtain ⟨hbounded, hage⟩ : t'.Bounded maxClients idle now ∧
      ∀ e ∈ t'.entries, now ≤ e.lastSeen + 2 * idle := by
    obtain rfl | ⟨rfl, _, hlately⟩ := hswept
    · refine ⟨h.sweep, ?_⟩
      intro e he
      have hrecent : now ≤ e.lastSeen + idle := h.sweep.recent e he
      omega
    · -- the last sweep is not long ago, and no client was idle for long then
      refine ⟨h, ?_⟩
      intro e he
      have hrecent := h.recent e he
      omega
  obtain ⟨heq, _⟩ | ⟨heq, hfits⟩ := hroom
  · rw [heq]
    have hs := sublist_evict listing t'
    refine ⟨hbounded.of_sublist hs (lastSweep_evict listing t'), ?_, fun e he => hage e (hs.subset he)⟩
    intro _
    -- an eviction drops nobody from an empty table, but there a client fits anyway
    obtain hzero | hpos := Nat.eq_zero_or_pos t'.size
    · exact hs.length_le.trans_lt (hzero.trans_lt hmax)
    · exact (size_evict_lt listing hpos).trans_le hbounded.size
  · rw [heq]
    exact ⟨hbounded, hfits, hage⟩

/-- Inserting a client that is seen now keeps a table bounded if the client is known or fits. -/
lemma put (h : t.Bounded maxClients idle now) {client : Client}
    (hfits : t.find? client = none → t.size < maxClients) (bucket : Bucket) :
    (t.put ⟨client, bucket, now⟩).Bounded maxClients idle now := by
  refine ⟨?_, ?_, ?_, ?_⟩
  · rw [size_put]
    split
    · exact h.size
    · next hnew => exact hfits (by simpa using hnew)
  · rw [lastSweep_put]
    exact h.swept
  · intro e he
    obtain rfl | he := mem_put he
    · exact le_refl now
    · exact h.seen e he
  · intro e he
    rw [lastSweep_put]
    obtain rfl | he := mem_put he
    · exact h.swept.trans (Nat.le_add_right now idle)
    · exact h.recent e he

end Bounded

end Table

/-! ### Runs -/

/-- A limiter is set up with the ceiling and the idle time of its settings, and its table is bounded. -/
lemma bounded_ofSettings? {s : Settings} {start : Nat} {listing : Listing} {l : Limiter}
    (h : ofSettings? s start listing = .ok l) :
    0 < l.maxClients ∧ l.maxClients = s.maxClients ∧ l.idle = s.idle ∧
      l.table.Bounded l.maxClients l.idle start := by
  obtain ⟨p, q, _, _, hmax, _, rfl⟩ := ofSettings?_eq_ok_iff.mp h
  exact ⟨Nat.pos_of_ne_zero hmax, rfl, rfl, Table.Bounded.empty (le_refl start)⟩

/-- A check keeps the table bounded. -/
lemma bounded_check {l : Limiter} {now : Nat} (hmax : 0 < l.maxClients)
    (h : l.table.Bounded l.maxClients l.idle now) (client : Client) :
    (l.check now client).2.table.Bounded l.maxClients l.idle now := by
  by_cases hw : l.shared.wait l.sharedQuota now = 0
  · rw [check_of_wait_eq_zero hw]
    obtain ⟨hbounded, hfits, _⟩ := h.makeRoom l.listing hmax client
    exact hbounded.put hfits _
  · rw [check_of_wait_ne_zero hw]
    exact h

/-- A bounded table stays so in a run of any length. -/
lemma bounded_after {l : Limiter} {start now : Nat} (hmax : 0 < l.maxClients)
    (h : l.table.Bounded l.maxClients l.idle start) {arrivals : List Arrival} (hord : InOrder arrivals)
    (hfrom : ∀ a ∈ arrivals, start ≤ a.time) (hto : ∀ a ∈ arrivals, a.time ≤ now) (hle : start ≤ now) :
    (l.after arrivals).table.Bounded l.maxClients l.idle now := by
  induction arrivals generalizing start l with
  | nil => exact h.mono hle
  | cons a rest ih =>
    obtain ⟨hhead, htail⟩ := List.pairwise_cons.mp hord
    obtain ⟨_, _, hceiling, hidle⟩ := l.bounds_check a.time a.client
    -- the table is brought to the time of the first arrival, from which on the rest of them come
    have hstep := bounded_check hmax (h.mono (hfrom a List.mem_cons_self)) a.client
    rw [← hceiling, ← hidle] at hstep
    have hrest := ih (hceiling ▸ hmax) hstep htail hhead (fun b hb => hto b (List.mem_cons_of_mem a hb))
      (hto a List.mem_cons_self)
    rw [hceiling, hidle] at hrest
    exact hrest

/-- A run leaves the ceiling and the idle time. -/
lemma ceiling_after (l : Limiter) (arrivals : List Arrival) :
    (l.after arrivals).maxClients = l.maxClients ∧ (l.after arrivals).idle = l.idle := by
  induction arrivals generalizing l with
  | nil => exact ⟨rfl, rfl⟩
  | cons a rest ih =>
    obtain ⟨_, _, hceiling, hidle⟩ := l.bounds_check a.time a.client
    obtain ⟨ihceiling, ihidle⟩ := ih (l.check a.time a.client).2
    exact ⟨ihceiling.trans hceiling, ihidle.trans hidle⟩

/-- In every state that a run leads to there are no more clients than the ceiling, and neither a last sight nor
the last sweep lies in the future. A check that the bucket of all requests refuses changes nothing; after any
other one the client was seen now, and no client is idle for longer than twice the idle time. -/
theorem table_bounds {s : Settings} {start now : Nat} {listing : Listing} {l : Limiter}
    (hl : ofSettings? s start listing = .ok l)
    {arrivals : List Arrival} (hord : InOrder arrivals) (hfrom : ∀ a ∈ arrivals, start ≤ a.time)
    (hto : ∀ a ∈ arrivals, a.time ≤ now) (hnow : start ≤ now) (client : Client) :
    ((l.after arrivals).tracked ≤ s.maxClients ∧ (l.after arrivals).table.lastSweep ≤ now ∧
        ∀ e ∈ (l.after arrivals).table.entries, e.lastSeen ≤ now) ∧
      (((l.after arrivals).check now client).1.refusedBy? = some .shared →
        ((l.after arrivals).check now client).2 = l.after arrivals) ∧
      (((l.after arrivals).check now client).1.refusedBy? ≠ some .shared →
        (∃ e, ((l.after arrivals).check now client).2.table.find? client = some e ∧ e.lastSeen = now) ∧
          ∀ e ∈ ((l.after arrivals).check now client).2.table.entries, now - e.lastSeen ≤ 2 * s.idle) := by
  obtain ⟨hceiling, hidle⟩ := l.ceiling_after arrivals
  obtain ⟨hpos, hmax, hs, hstart⟩ := bounded_ofSettings? hl
  have hbounded := bounded_after hpos hstart hord hfrom hto hnow
  rw [← hceiling, ← hidle] at hbounded
  rw [← hmax, ← hs, ← hceiling, ← hidle]
  refine ⟨⟨hbounded.size, hbounded.swept, hbounded.seen⟩, ?_⟩
  -- what the bucket of all requests refuses does not come to the table
  by_cases hw : (l.after arrivals).shared.wait (l.after arrivals).sharedQuota now = 0
  · rw [check_of_wait_eq_zero hw]
    obtain ⟨_, _, hage⟩ := hbounded.makeRoom (l.after arrivals).listing (hceiling ▸ hpos) client
    refine ⟨?_, ?_⟩
    · intro hrefused
      unfold Decision.ofWait at hrefused
      split at hrefused
      · cases hrefused
      · cases hrefused
    · intro _
      refine ⟨⟨_, (Table.find?_put _ _ client).trans (if_pos rfl), rfl⟩, ?_⟩
      intro e he
      obtain rfl | he := Table.mem_put he
      · exact (Nat.sub_self now).trans_le (Nat.zero_le _)
      · exact Nat.sub_le_iff_le_add'.mpr (hage e he)
  · rw [check_of_wait_ne_zero hw]
    exact ⟨fun _ => rfl, fun h => absurd rfl h⟩

/-- Three clients one after the other at a table for two, the last of which evicts the first. -/
def churning : List Arrival :=
  [⟨0, ['a']⟩, ⟨100000000, ['b']⟩, ⟨1900000000, ['b']⟩, ⟨1950000000, ['c']⟩]

/-- As many requests at once as all clients together may make. -/
def flooding : List Arrival :=
  List.replicate 20 ⟨0, ['a']⟩

/-- The client that was evicted comes back and evicts the next one, within the ceiling and the age; and after a
flood the next request changes nothing. -/
theorem table_bounds_churning :
    ofSettings? small 0 .latest = .ok smallLimiter ∧ InOrder churning ∧ (∀ a ∈ churning, 0 ≤ a.time) ∧
      (∀ a ∈ churning, a.time ≤ 3900000000) ∧ 0 ≤ 3900000000 ∧
      ((smallLimiter.after churning).tracked ≤ small.maxClients ∧
        (smallLimiter.after churning).table.lastSweep ≤ 3900000000 ∧
        ∀ e ∈ (smallLimiter.after churning).table.entries, e.lastSeen ≤ 3900000000) ∧
      ((smallLimiter.after churning).check 3900000000 ['a']).1.refusedBy? ≠ some .shared ∧
      ((∃ e, ((smallLimiter.after churning).check 3900000000 ['a']).2.table.find? ['a'] = some e ∧
          e.lastSeen = 3900000000) ∧
        ∀ e ∈ ((smallLimiter.after churning).check 3900000000 ['a']).2.table.entries,
          3900000000 - e.lastSeen ≤ 2 * small.idle) ∧
      ((smallLimiter.after flooding).check 0 ['b']).1.refusedBy? = some .shared ∧
      ((smallLimiter.after flooding).check 0 ['b']).2 = smallLimiter.after flooding := by
  have hto : ∀ a ∈ churning, a.time ≤ 3900000000 := by decide
  have hbounds := table_bounds ofSettings?_small (by decide : InOrder churning)
    (fun a _ => Nat.zero_le a.time) hto (Nat.zero_le _) ['a']
  have hpassed : ((smallLimiter.after churning).check 3900000000 ['a']).1.refusedBy? ≠ some .shared := by
    decide
  have hinstant : ∀ a ∈ flooding, a.time ≤ 0 := by decide
  have hflood := table_bounds ofSettings?_small (by decide : InOrder flooding)
    (fun a _ => Nat.zero_le a.time) hinstant (le_refl _) ['b']
  have hrefused : ((smallLimiter.after flooding).check 0 ['b']).1.refusedBy? = some .shared := by decide +kernel
  exact ⟨ofSettings?_small, by decide, fun a _ => Nat.zero_le a.time, hto, Nat.zero_le _, hbounds.1, hpassed,
    hbounds.2.2 hpassed, hrefused, hflood.2.1 hrefused⟩

end ApiGateway.Limiter
