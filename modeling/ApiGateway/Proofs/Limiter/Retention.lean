import ApiGateway.Proofs.Limiter.Bounds

/-!
# Clients that were seen recently stay

A client keeps its bucket for the idle time unless as many other clients come in between as the table can hold
(`find?_after_of_few`). What drops an entry is said once, for the table (`Table.of_dropped`): it was idle for too
long, or the table was full, the client that came was new and no other entry was seen earlier.

`Kept` is the invariant of a run: the entry stands in the table, and the clients that were seen since are among a set
that is too small to fill the table. If the entry were evicted, all others in the full table and the new client would
be in that set.

Which of several entries goes that were seen equally long ago is left to the `Listing` of the limiter, and everything
here holds for every listing: an entry that stays does not owe it to its place among those.
-/

namespace ApiGateway.Limiter

namespace Table

/-- No entry was seen earlier than the one that was seen least recently. -/
lemma lastSeen_le_of_leastRecent? {es : List Entry} {oldest : Entry} (h : leastRecent? es = some oldest) :
    ∀ e ∈ es, oldest.lastSeen ≤ e.lastSeen := by
  induction es generalizing oldest with
  | nil => nofun
  | cons x rest ih =>
    intro e he
    rw [leastRecent?] at h
    cases hrest : leastRecent? rest with
    | none =>
      rw [hrest] at h
      cases h
      cases he with
      | head => exact le_refl _
      | tail _ he =>
        cases rest with
        | nil => cases he
        | cons y rest => exact absurd hrest leastRecent?_ne_none
    | some other =>
      rw [hrest] at h
      have hother := ih hrest
      simp only at h
      split at h
      · next hle =>
        cases h
        cases he with
        | head => exact le_refl _
        | tail _ he => exact hle.trans (hother e he)
      · next hlt =>
        cases h
        cases he with
        | head => exact Nat.le_of_not_le hlt
        | tail _ he => exact hother e he

/-- The entry that an eviction drops is one that was seen least recently. -/
lemma lastSeen_le_of_evicted {listing : Listing} {t : Table} (h : t.Distinct) {e : Entry} (he : e ∈ t.entries)
    (hgone : (t.evict listing).find? e.client = none) : ∀ x ∈ t.entries, e.lastSeen ≤ x.lastSeen := by
  have hnone := find?_eq_none_iff.mp hgone
  unfold evict at hnone
  split at hnone
  · exact absurd rfl (hnone e he)
  · next oldest hold =>
    have hsame : e.client = oldest.client := by
      by_contra hne
      exact hnone e (List.mem_filter.mpr ⟨he, decide_eq_true hne⟩) rfl
    -- the listing has just the entries of the table, in whatever order
    have hperm := listing.perm t.evictions t.entries
    rw [List.inj_on_of_nodup_map h he (hperm.mem_iff.mp (mem_of_leastRecent? hold)) hsame]
    exact fun x hx => lastSeen_le_of_leastRecent? hold x (hperm.mem_iff.mpr hx)

/-- An entry is dropped when it was idle for longer than the idle time, or when a new client comes to a full table in
which no other entry was seen earlier. -/
lemma of_dropped {listing : Listing} {maxClients idle now : Nat} {client : Client} {t : Table} (h : t.Distinct)
    (hsize : t.size ≤ maxClients) {e : Entry} (he : e ∈ t.entries)
    (hgone : (t.makeRoom listing maxClients idle now client).find? e.client = none) :
    idle < now - e.lastSeen ∨
      maxClients ≤ t.size ∧ t.find? client = none ∧ ∀ x ∈ t.entries, e.lastSeen ≤ x.lastSeen := by
  by_cases hidle : now - e.lastSeen ≤ idle
  · right
    have hfound : t.find? e.client = some e := (find?_eq_some_iff h).mpr ⟨he, rfl⟩
    obtain ⟨t', hswept, hroom⟩ := makeRoom_cases listing maxClients idle now client t
    obtain ⟨hsub, hkept⟩ : t'.entries.Sublist t.entries ∧ t'.find? e.client = some e := by
      obtain hsweep | ⟨hsame, _⟩ := hswept
      · rw [hsweep, find?_sweep h, hfound, Option.filter_some, if_pos (decide_eq_true hidle)]
        exact ⟨sublist_sweep idle now t, rfl⟩
      · rw [hsame]
        exact ⟨List.Sublist.refl _, hfound⟩
    obtain ⟨heq, hfull, hnew⟩ | ⟨heq, _⟩ := hroom
    · -- a table that is still full after a sweep lost nothing in it
      have hentries : t'.entries = t.entries := hsub.eq_of_length_le (hsize.trans hfull)
      rw [heq] at hgone
      have hleast := lastSeen_le_of_evicted (h.of_sublist hsub) (hentries ▸ he) hgone
      rw [hentries] at hleast
      rw [find?, hentries] at hnew
      exact ⟨hfull.trans hsub.length_le, hnew, hleast⟩
    · rw [heq, hkept] at hgone
      cases hgone
  · exact .inl (Nat.lt_of_not_le hidle)

end Table

/-! ### What is known of a limiter -/

/-- A limiter of settings at a time, however it was used until then. -/
structure Reached (s : Settings) (now : Nat) (l : Limiter) : Prop where
  sound : l.Sound now
  bounded : l.table.Bounded l.maxClients l.idle now
  started : l.shared.start ≤ now
  maxClients : l.maxClients = s.maxClients
  idle : l.idle = s.idle
  room : 0 < s.maxClients

namespace Reached

variable {s : Settings} {now : Nat} {l : Limiter}

/-- What was reached by a time was reached by every later one. -/
lemma mono {later : Nat} (h : Reached s now l) (hle : now ≤ later) : Reached s later l :=
  ⟨h.sound.mono hle, h.bounded.mono hle, h.started.trans hle, h.maxClients, h.idle, h.room⟩

/-- Setting it up reaches a limiter. -/
lemma ofSettings? {listing : Listing} (h : Limiter.ofSettings? s now listing = .ok l) : Reached s now l := by
  obtain ⟨hpos, hmax, hidle, hbounded⟩ := bounded_ofSettings? h
  have hsound := Sound.ofSettings? h now
  obtain ⟨_, _, _, _, _, _, rfl⟩ := ofSettings?_eq_ok_iff.mp h
  exact ⟨hsound, hbounded, le_refl now, hmax, hidle, hmax ▸ hpos⟩

/-- A check leads to what can be reached at its time. -/
lemma check (h : Reached s now l) (client : Client) : Reached s now (l.check now client).2 := by
  obtain ⟨_, _, hmax, hidle⟩ := l.bounds_check now client
  refine ⟨h.sound.check client, ?_, ?_, hmax.trans h.maxClients, hidle.trans h.idle, h.room⟩
  · rw [hmax, hidle]
    exact bounded_check (h.maxClients ▸ h.room) h.bounded client
  · rw [shared_check, Bucket.start_check]
    exact h.started

/-- A run leads to what can be reached at its end. -/
lemma after {later : Nat} (h : Reached s now l) {arrivals : List Arrival} (hord : InOrder arrivals)
    (hfrom : ∀ a ∈ arrivals, now ≤ a.time) (hto : ∀ a ∈ arrivals, a.time ≤ later) (hle : now ≤ later) :
    Reached s later (l.after arrivals) := by
  induction arrivals generalizing now l with
  | nil => exact h.mono hle
  | cons a rest ih =>
    obtain ⟨hhead, htail⟩ := List.pairwise_cons.mp hord
    have hstep := (h.mono (hfrom a List.mem_cons_self)).check a.client
    exact ih hstep htail hhead (fun b hb => hto b (List.mem_cons_of_mem a hb)) (hto a List.mem_cons_self)

/-- A check drops an entry that was idle for longer than the idle time, or one that was seen least recently when its
client is new and the table is full. -/
lemma of_dropped (h : Reached s now l) {client : Client} {e : Entry} (he : e ∈ l.table.entries)
    (hgone : (l.check now client).2.table.find? e.client = none) :
    s.idle < now - e.lastSeen ∨
      l.tracked = s.maxClients ∧ l.table.find? client = none ∧ ∀ x ∈ l.table.entries, e.lastSeen ≤ x.lastSeen := by
  have hdistinct := h.sound.table.distinct
  have hroomy : (l.roomy now client).find? e.client = none := by
    by_cases hw : l.shared.wait l.sharedQuota now = 0
    · rw [check_of_wait_eq_zero hw, Table.find?_put] at hgone
      split at hgone
      · cases hgone
      · exact hgone
    · rw [check_of_wait_ne_zero hw] at hgone
      exact absurd rfl (Table.find?_eq_none_iff.mp hgone e he)
  obtain hlong | ⟨hfull, hnew⟩ := Table.of_dropped hdistinct h.bounded.size he hroomy
  · exact .inl (h.idle ▸ hlong)
  · exact .inr ⟨h.maxClients ▸ le_antisymm h.bounded.size hfull, hnew⟩

end Reached

/-! ### Who was let pass -/

/-- The bucket of all requests refuses a request exactly if it makes it wait. -/
lemma refusedBy?_check_eq_shared_iff {l : Limiter} {now : Nat} {client : Client} :
    (l.check now client).1.refusedBy? = some .shared ↔ l.shared.wait l.sharedQuota now ≠ 0 := by
  by_cases hw : l.shared.wait l.sharedQuota now = 0
  · rw [check_of_wait_eq_zero hw, Decision.ofWait]
    split
    · exact ⟨nofun, fun h => absurd hw h⟩
    · exact ⟨nofun, fun h => absurd hw h⟩
  · rw [check_of_wait_ne_zero hw]
    exact ⟨fun _ => hw, fun _ => rfl⟩

/-- The clients but one that the bucket of all requests let pass at a time or later. -/
def rivals (since : Nat) (client : Client) (checks : List (Arrival × Decision)) : Finset Client :=
  ((checks.filter fun x => x.2.refusedBy? ≠ some .shared ∧ since ≤ x.1.time ∧ x.1.client ≠ client).map
    fun x => x.1.client).toFinset

/-- The rivals of a client are those that the bucket of all requests has let pass since. -/
lemma mem_rivals {since : Nat} {client c : Client} {checks : List (Arrival × Decision)} :
    c ∈ rivals since client checks ↔
      ∃ x ∈ checks, (x.2.refusedBy? ≠ some .shared ∧ since ≤ x.1.time ∧ x.1.client ≠ client) ∧ x.1.client = c := by
  simp [rivals, and_assoc]

/-- A limiter after two runs is that of the first after the second. -/
lemma after_append (l : Limiter) (arrivals later : List Arrival) :
    l.after (arrivals ++ later) = (l.after arrivals).after later :=
  List.foldl_append

/-- The decisions of two runs are those of the first and then those of the second. -/
lemma trace_append (l : Limiter) (arrivals later : List Arrival) :
    l.trace (arrivals ++ later) = l.trace arrivals ++ (l.after arrivals).trace later := by
  induction arrivals generalizing l with
  | nil => rfl
  | cons a rest ih =>
    rw [List.cons_append, trace, trace, ih]
    rfl

/-- Decisions are about the arrivals of the run. -/
lemma mem_of_mem_trace {l : Limiter} {arrivals : List Arrival} {x : Arrival × Decision} (h : x ∈ l.trace arrivals) :
    x.1 ∈ arrivals := by
  induction arrivals generalizing l with
  | nil => cases h
  | cons a rest ih =>
    cases h with
    | head => exact List.mem_cons_self
    | tail _ h => exact List.mem_cons_of_mem a (ih h)

/-- An entry after a check was there before, or it is that of a client that was let pass now. -/
lemma seen_check {l : Limiter} {now : Nat} {client : Client} {e : Entry}
    (he : e ∈ (l.check now client).2.table.entries) :
    e ∈ l.table.entries ∨
      e.client = client ∧ e.lastSeen = now ∧ (l.check now client).1.refusedBy? ≠ some .shared := by
  by_cases hw : l.shared.wait l.sharedQuota now = 0
  · have hpassed : (l.check now client).1.refusedBy? ≠ some .shared :=
      fun h => refusedBy?_check_eq_shared_iff.mp h hw
    rw [check_of_wait_eq_zero hw] at he
    obtain rfl | he := Table.mem_put he
    · exact .inr ⟨rfl, rfl, hpassed⟩
    · exact .inl ((Table.sublist_makeRoom _ _ _ _ _ _).subset he)
  · rw [check_of_wait_ne_zero hw] at he
    exact .inl he

/-- An entry after a run was there before, or its client was let pass in the run when it was seen last. -/
lemma seen_after {l : Limiter} {arrivals : List Arrival} {e : Entry} (he : e ∈ (l.after arrivals).table.entries) :
    e ∈ l.table.entries ∨
      ∃ x ∈ l.trace arrivals, x.1.client = e.client ∧ x.1.time = e.lastSeen ∧ x.2.refusedBy? ≠ some .shared := by
  induction arrivals generalizing l with
  | nil => exact .inl he
  | cons a rest ih =>
    obtain hstep | ⟨x, hx, hseen⟩ := ih (l := (l.check a.time a.client).2) he
    · obtain hold | ⟨hclient, htime, hpassed⟩ := seen_check hstep
      · exact .inl hold
      · exact .inr ⟨_, List.mem_cons_self, hclient.symm, htime.symm, hpassed⟩
    · exact .inr ⟨x, List.mem_cons_of_mem _ hx, hseen⟩

/-- From a new limiter on, the clients of the table that were seen at a time or later are rivals. -/
lemma mem_rivals_of_seen {s : Settings} {start : Nat} {listing : Listing} {l : Limiter}
    (hl : ofSettings? s start listing = .ok l) {arrivals : List Arrival} {since : Nat} {client : Client} {e : Entry}
    (he : e ∈ (l.after arrivals).table.entries) (hsince : since ≤ e.lastSeen) (hother : e.client ≠ client) :
    e.client ∈ rivals since client (l.trace arrivals) := by
  obtain hold | ⟨x, hx, hclient, htime, hpassed⟩ := seen_after he
  · obtain ⟨_, _, _, _, _, _, rfl⟩ := ofSettings?_eq_ok_iff.mp hl
    cases hold
  · exact mem_rivals.mpr ⟨x, hx, ⟨hpassed, htime ▸ hsince, hclient ▸ hother⟩, hclient⟩

/-- A client that is let pass is in the table from then on. -/
lemma exists_find?_check {l : Limiter} {now : Nat} {client : Client}
    (hpassed : (l.check now client).1.refusedBy? ≠ some .shared) :
    ∃ e, (l.check now client).2.table.find? client = some e ∧ e.client = client ∧ e.lastSeen = now := by
  have hw : l.shared.wait l.sharedQuota now = 0 := by
    by_contra hw
    exact hpassed (refusedBy?_check_eq_shared_iff.mpr hw)
  rw [check_of_wait_eq_zero hw]
  exact ⟨_, (Table.find?_put _ _ client).trans (if_pos rfl), rfl, rfl⟩

/-! ### The invariant -/

/-- A limiter that holds an entry at a time, while the clients that were seen since the entry was are among too few
to fill the table. -/
structure Kept (s : Settings) (clients : Finset Client) (e : Entry) (now : Nat) (l : Limiter) : Prop where
  reached : Reached s now l
  found : l.table.find? e.client = some e
  few : clients.card < s.maxClients
  since : ∀ x ∈ l.table.entries, e.lastSeen ≤ x.lastSeen → x.client ≠ e.client → x.client ∈ clients

namespace Kept

variable {s : Settings} {clients : Finset Client} {e : Entry} {l : Limiter} {now : Nat}

/-- An entry that is kept stays so while time passes. -/
lemma mono {later : Nat} (h : Kept s clients e now l) (hle : now ≤ later) : Kept s clients e later l :=
  ⟨h.reached.mono hle, h.found, h.few, h.since⟩

/-- A check within the idle time keeps the entry, unless it lets pass the client itself or one that is not counted. -/
lemma check (h : Kept s clients e now l) (hidle : now - e.lastSeen ≤ s.idle) {client : Client}
    (hcome : (l.check now client).1.refusedBy? ≠ some .shared → client ≠ e.client ∧ client ∈ clients) :
    Kept s clients e now (l.check now client).2 := by
  have hdistinct := h.reached.sound.table.distinct
  by_cases hw : l.shared.wait l.sharedQuota now = 0
  · obtain ⟨hne, hmem⟩ := hcome fun hrefused => refusedBy?_check_eq_shared_iff.mp hrefused hw
    refine ⟨h.reached.check client, ?_, h.few, ?_⟩
    · cases hgone : (l.check now client).2.table.find? e.client with
      | some x =>
        rw [check_of_wait_eq_zero hw, Table.find?_put, if_neg hne.symm] at hgone
        have hold := Table.find?_of_sublist hdistinct (Table.sublist_makeRoom _ _ _ _ _ _) hgone
        exact hold.symm.trans h.found
      | none =>
        obtain hlong | ⟨hfull, hnew, hleast⟩ := h.reached.of_dropped (Table.mem_of_find? h.found).1 hgone
        · exact absurd hidle (Nat.not_le_of_lt hlong)
        · -- the others in the full table were seen since, and the new client is one more of the few
          have hsub : (l.table.entries.map Entry.client).toFinset ⊆ insert e.client (clients.erase client) := by
            intro c hc
            obtain ⟨x, hx, rfl⟩ := List.mem_map.mp (List.mem_toFinset.mp hc)
            rw [Finset.mem_insert, Finset.mem_erase]
            by_cases heq : x.client = e.client
            · exact .inl heq
            · exact .inr ⟨Table.find?_eq_none_iff.mp hnew x hx, h.since x hx (hleast x hx) heq⟩
          have hcard := (Finset.card_le_card hsub).trans (Finset.card_insert_le _ _)
          have hpos := Finset.card_pos.mpr ⟨client, hmem⟩
          have hfew := h.few
          rw [List.toFinset_card_of_nodup hdistinct, List.length_map, Finset.card_erase_of_mem hmem] at hcard
          rw [tracked, Table.size] at hfull
          omega
    · intro x hx hsince hother
      obtain hold | ⟨rfl, _⟩ := seen_check hx
      · exact h.since x hold hsince hother
      · exact hmem
  · rw [check_of_wait_ne_zero hw]
    exact h

/-- A run within the idle time keeps the entry, unless it lets pass the client itself or one that is not counted. -/
lemma after (h : Kept s clients e now l) {later : List Arrival} (hord : InOrder later)
    (hfrom : ∀ a ∈ later, now ≤ a.time) (hidle : ∀ a ∈ later, a.time - e.lastSeen ≤ s.idle)
    (hcome : ∀ x ∈ l.trace later, x.2.refusedBy? ≠ some .shared → x.1.client ≠ e.client ∧ x.1.client ∈ clients) :
    (l.after later).table.find? e.client = some e := by
  induction later generalizing now l with
  | nil => exact h.found
  | cons a rest ih =>
    obtain ⟨hhead, htail⟩ := List.pairwise_cons.mp hord
    have hstep := (h.mono (hfrom a List.mem_cons_self)).check (hidle a List.mem_cons_self)
      (hcome _ List.mem_cons_self)
    exact ih hstep htail hhead (fun b hb => hidle b (List.mem_cons_of_mem a hb))
      fun x hx => hcome x (List.mem_cons_of_mem _ hx)

end Kept

/-- A client that is let pass gets an entry that is kept, if its rivals are few from then on. -/
lemma exists_kept {s : Settings} {start : Nat} {listing : Listing} {l : Limiter}
    (hl : ofSettings? s start listing = .ok l) {before later : List Arrival} {a : Arrival}
    (hreached : Reached s a.time (l.after before))
    (hpassed : ((l.after before).check a.time a.client).1.refusedBy? ≠ some .shared)
    (hfew : (rivals a.time a.client (l.trace (before ++ a :: later))).card < s.maxClients) :
    ∃ e, e.client = a.client ∧ e.lastSeen = a.time ∧
      Kept s (rivals e.lastSeen e.client (l.trace (before ++ a :: later))) e a.time
        ((l.after before).check a.time a.client).2 := by
  obtain ⟨e, hfound, hclient, hseen⟩ := exists_find?_check hpassed
  rw [← hclient, ← hseen] at hfew
  refine ⟨e, hclient, hseen, hreached.check a.client, hclient ▸ hfound, hfew, ?_⟩
  intro x hx hsince hother
  -- who was seen since the entry was is a rival in the run up to it, and so in the whole run
  have hx' : x ∈ (l.after (before ++ [a])).table.entries := l.after_append before [a] ▸ hx
  obtain ⟨y, hy, hrival⟩ := mem_rivals.mp (mem_rivals_of_seen hl hx' hsince hother)
  refine mem_rivals.mpr ⟨y, ?_, hrival⟩
  rw [← List.singleton_append, ← List.append_assoc, trace_append]
  exact List.mem_append_left _ hy

/-- A client whose last request that passed the bucket of all requests came no longer ago than the idle time has its
entry as that request left it, if fewer other clients than the table can hold were let pass since. An entry is only
dropped if it was idle for longer, or if it was seen least recently when a new client came to the full table. -/
theorem find?_after_of_few {s : Settings} {start : Nat} {listing : Listing} {l : Limiter}
    (hl : ofSettings? s start listing = .ok l) {arrivals : List Arrival} (hord : InOrder arrivals)
    (hfrom : ∀ a ∈ arrivals, start ≤ a.time) :
    (∀ before a later, arrivals = before ++ a :: later →
      ((l.after before).check a.time a.client).1.refusedBy? ≠ some .shared →
      (∀ x ∈ ((l.after before).check a.time a.client).2.trace later,
        x.1.client = a.client → x.2.refusedBy? = some .shared) →
      (∀ b ∈ later, b.time ≤ a.time + s.idle) →
      (rivals a.time a.client (l.trace arrivals)).card < s.maxClients →
      ∃ e, ((l.after before).check a.time a.client).2.table.find? a.client = some e ∧ e.lastSeen = a.time ∧
        (l.after arrivals).table.find? a.client = some e) ∧
      ∀ now client, (∀ a ∈ arrivals, a.time ≤ now) → start ≤ now → ∀ e ∈ (l.after arrivals).table.entries,
        ((l.after arrivals).check now client).2.table.find? e.client = none →
        s.idle < now - e.lastSeen ∨
          (l.after arrivals).tracked = s.maxClients ∧ (l.after arrivals).table.find? client = none ∧
            ∀ x ∈ (l.after arrivals).table.entries, e.lastSeen ≤ x.lastSeen := by
  have hnew := Reached.ofSettings? hl
  refine ⟨?_, ?_⟩
  · rintro before a later rfl hpassed hlast hrecent hfew
    obtain ⟨hbefore, hlater, hacross⟩ := List.pairwise_append.mp hord
    obtain ⟨hhead, htail⟩ := List.pairwise_cons.mp hlater
    have hreached : Reached s a.time (l.after before) := by
      apply hnew.after hbefore
      · exact fun b hb => hfrom b (List.mem_append_left _ hb)
      · exact fun b hb => hacross b hb a List.mem_cons_self
      · exact hfrom a (List.mem_append_right _ List.mem_cons_self)
    obtain ⟨e, hclient, hseen, hkept⟩ := exists_kept hl hreached hpassed hfew
    refine ⟨e, hclient ▸ hkept.found, hseen, ?_⟩
    rw [← hclient, after_append]
    apply hkept.after htail hhead
    · exact fun b hb => hseen ▸ Nat.sub_le_iff_le_add'.mpr (hrecent b hb)
    · intro x hx hxpassed
      have hne : x.1.client ≠ e.client := fun heq => hxpassed (hlast x hx (heq.trans hclient))
      have htime : e.lastSeen ≤ x.1.time := hseen ▸ hhead x.1 (mem_of_mem_trace hx)
      refine ⟨hne, mem_rivals.mpr ⟨x, ?_, ⟨hxpassed, htime, hne⟩, rfl⟩⟩
      rw [trace_append]
      exact List.mem_append_right _ (List.mem_cons_of_mem _ hx)
  · intro now client hto hnow e he hgone
    exact (hnew.after hord hfrom hto hnow).of_dropped he hgone

/-- Two clients that fill the table, and a third one that comes twice. -/
def lingering : List Arrival :=
  [⟨0, ['c']⟩, ⟨1000000000, ['a']⟩, ⟨1500000000, ['b']⟩, ⟨3000000000, ['b']⟩]

/-- Two clients that are seen at the same time. -/
def tied : List Arrival :=
  [⟨0, ['a']⟩, ⟨0, ['b']⟩]

/-- The second client is still there after just the idle time, the third one having taken the place of the first. The
next client takes the place of the second. Of two clients that were seen at the same time it depends on the order in
which the table goes through them whose place is taken, and either is one that was seen least recently. -/
theorem find?_after_lingering :
    ofSettings? small 0 .latest = .ok smallLimiter ∧ InOrder lingering ∧ (∀ a ∈ lingering, 0 ≤ a.time) ∧
      lingering = lingering.take 1 ++ ⟨1000000000, ['a']⟩ :: lingering.drop 2 ∧
      ((smallLimiter.after (lingering.take 1)).check 1000000000 ['a']).1.refusedBy? ≠ some .shared ∧
      (∀ x ∈ ((smallLimiter.after (lingering.take 1)).check 1000000000 ['a']).2.trace (lingering.drop 2),
        x.1.client = ['a'] → x.2.refusedBy? = some .shared) ∧
      (∀ b ∈ lingering.drop 2, b.time ≤ 1000000000 + small.idle) ∧
      (rivals 1000000000 ['a'] (smallLimiter.trace lingering)).card < small.maxClients ∧
      (∃ e, ((smallLimiter.after (lingering.take 1)).check 1000000000 ['a']).2.table.find? ['a'] = some e ∧
        e.lastSeen = 1000000000 ∧ (smallLimiter.after lingering).table.find? ['a'] = some e) ∧
      (∀ a ∈ lingering, a.time ≤ 3000000000) ∧ 0 ≤ 3000000000 ∧
      (∃ e ∈ (smallLimiter.after lingering).table.entries,
        ((smallLimiter.after lingering).check 3000000000 ['d']).2.table.find? e.client = none ∧
        (small.idle < 3000000000 - e.lastSeen ∨
          (smallLimiter.after lingering).tracked = small.maxClients ∧
            (smallLimiter.after lingering).table.find? ['d'] = none ∧
            ∀ x ∈ (smallLimiter.after lingering).table.entries, e.lastSeen ≤ x.lastSeen)) ∧
      ∀ x ∈ [(Listing.latest, ['b']), (Listing.made, ['a'])],
        ofSettings? small 0 x.1 = .ok (smallLimiterOf x.1) ∧
          ∃ e ∈ ((smallLimiterOf x.1).after tied).table.entries, e.client = x.2 ∧
            (((smallLimiterOf x.1).after tied).check 1000000000 ['c']).2.table.find? e.client = none ∧
            (small.idle < 1000000000 - e.lastSeen ∨
              ((smallLimiterOf x.1).after tied).tracked = small.maxClients ∧
                ((smallLimiterOf x.1).after tied).table.find? ['c'] = none ∧
                ∀ y ∈ ((smallLimiterOf x.1).after tied).table.entries, e.lastSeen ≤ y.lastSeen) := by
  have hord : InOrder lingering := by decide
  have hfrom : ∀ a ∈ lingering, 0 ≤ a.time := fun a _ => Nat.zero_le a.time
  obtain ⟨hstays, hdropped⟩ := find?_after_of_few ofSettings?_small hord hfrom
  have hpassed : ((smallLimiter.after (lingering.take 1)).check 1000000000 ['a']).1.refusedBy? ≠ some .shared := by
    decide
  have hlast : ∀ x ∈ ((smallLimiter.after (lingering.take 1)).check 1000000000 ['a']).2.trace (lingering.drop 2),
      x.1.client = ['a'] → x.2.refusedBy? = some .shared := by
    decide
  have hrecent : ∀ b ∈ lingering.drop 2, b.time ≤ 1000000000 + small.idle := by decide
  have hfew : (rivals 1000000000 ['a'] (smallLimiter.trace lingering)).card < small.maxClients := by decide
  have hto : ∀ a ∈ lingering, a.time ≤ 3000000000 := by decide
  let e : Entry := ⟨['a'], ⟨1000000000, some 1000000000⟩, 1000000000⟩
  have he : e ∈ (smallLimiter.after lingering).table.entries := by decide
  have hgone : ((smallLimiter.after lingering).check 3000000000 ['d']).2.table.find? e.client = none := by decide
  refine ⟨ofSettings?_small, hord, hfrom, rfl, hpassed, hlast, hrecent, hfew,
    hstays (lingering.take 1) ⟨1000000000, ['a']⟩ (lingering.drop 2) rfl hpassed hlast hrecent hfew, hto,
    Nat.zero_le _, ⟨e, he, hgone, hdropped 3000000000 ['d'] hto (Nat.zero_le _) e he hgone⟩, ?_⟩
  have hties : ∀ a ∈ tied, a.time ≤ 1000000000 := by decide
  have hchoice := fun listing => (find?_after_of_few (ofSettings?_small_of listing)
    (by decide : InOrder tied) fun a _ => Nat.zero_le a.time).2 1000000000 ['c'] hties (Nat.zero_le _)
  intro x hx
  let e : Entry := ⟨x.2, ⟨0, some 1000000000⟩, 0⟩
  obtain rfl | hx := List.mem_cons.mp hx
  · have he : e ∈ ((smallLimiterOf .latest).after tied).table.entries := by decide
    have hgone : (((smallLimiterOf .latest).after tied).check 1000000000 ['c']).2.table.find? ['b'] = none := by
      decide
    exact ⟨ofSettings?_small_of .latest, e, he, rfl, hgone, hchoice .latest e he hgone⟩
  · cases List.mem_singleton.mp hx
    have he : e ∈ ((smallLimiterOf .made).after tied).table.entries := by decide
    have hgone : (((smallLimiterOf .made).after tied).check 1000000000 ['c']).2.table.find? ['a'] = none := by
      decide
    exact ⟨ofSettings?_small_of .made, e, he, rfl, hgone, hchoice .made e he hgone⟩

end ApiGateway.Limiter
