import ApiGateway.Limiter.Basic
import ApiGateway.Proofs.Limiter.Bucket
import Mathlib.Data.Finset.Card
import Mathlib.Data.List.Nodup

/-!
# The table of clients

What the table holds of a client is read by `Table.find?`. `find?_put` and `find?_sweep` say what an
insert and a sweep do to it; of everything that makes room the rest of the development needs only that
entries are left out and none is changed (`sublist_makeRoom`).

`Table.Sound` is the invariant of the table: every client stands in it once, and the bucket of an entry
is within its quota at the time at which the client was seen last. `makeRoom` and `put` keep it.
-/

namespace ApiGateway.Limiter

/-- An entry at a time: the client was seen by then, and its bucket is as old as the last sight and within
its quota there. -/
structure Entry.Sound (q : Quota) (now : Nat) (e : Entry) : Prop where
  seen : e.lastSeen ≤ now
  started : e.bucket.start ≤ e.lastSeen
  within : e.bucket.Within q e.lastSeen

namespace Entry.Sound

/-- Time keeps an entry sound. -/
lemma mono {q : Quota} {now later : Nat} {e : Entry} (h : e.Sound q now) (hle : now ≤ later) :
    e.Sound q later :=
  ⟨h.seen.trans hle, h.started, h.within⟩

/-- The level of an entry is ahead of the last sight by the burst in periods at the most. -/
lemma level_le {q : Quota} {now : Nat} {e : Entry} (h : e.Sound q now) :
    e.bucket.level ≤ e.lastSeen + q.period * q.burst := by
  have hw := h.within
  rwa [Bucket.Within, max_eq_right h.started] at hw

end Entry.Sound

namespace Table

/-- The bucket that the table holds of a client. -/
def held (t : Table) (client : Client) : Option Bucket :=
  (t.find? client).map Entry.bucket

/-- Every client has one entry at the most. -/
def Distinct (t : Table) : Prop :=
  (t.entries.map Entry.client).Nodup

/-- The entry that is found is one of the table, and the client's. -/
lemma mem_of_find? {t : Table} {client : Client} {e : Entry} (h : t.find? client = some e) :
    e ∈ t.entries ∧ e.client = client :=
  ⟨List.mem_of_find?_eq_some h, by simpa using List.find?_some h⟩

/-- No entry is found for clients that have none. -/
lemma find?_eq_none_iff {t : Table} {client : Client} :
    t.find? client = none ↔ ∀ e ∈ t.entries, e.client ≠ client := by
  simp [find?, List.find?_eq_none]

/-- Where clients have one entry at the most, the entry of a client is found. -/
lemma find?_eq_some_iff {t : Table} (h : t.Distinct) {client : Client} {e : Entry} :
    t.find? client = some e ↔ e ∈ t.entries ∧ e.client = client := by
  refine ⟨mem_of_find?, ?_⟩
  rintro ⟨hmem, rfl⟩
  cases hf : t.find? e.client with
  | none => exact absurd rfl (find?_eq_none_iff.mp hf e hmem)
  | some other =>
    obtain ⟨hother, hclient⟩ := mem_of_find? hf
    rw [List.inj_on_of_nodup_map h hother hmem hclient]

/-- Leaving entries out keeps the clients distinct. -/
lemma Distinct.of_sublist {t t' : Table} (h : t.Distinct) (hs : t'.entries.Sublist t.entries) :
    t'.Distinct :=
  List.Nodup.sublist (hs.map Entry.client) h

/-- An entry that is still found after entries were left out is the one that was found before. -/
lemma find?_of_sublist {t t' : Table} (h : t.Distinct) (hs : t'.entries.Sublist t.entries)
    {client : Client} {e : Entry} (hf : t'.find? client = some e) : t.find? client = some e := by
  obtain ⟨hmem, hclient⟩ := mem_of_find? hf
  exact (find?_eq_some_iff h).mpr ⟨hs.subset hmem, hclient⟩

/-! ### Inserting -/

/-- Putting an entry in the place of its client's changes what is found of this client only. -/
lemma find?_replace (e : Entry) (client : Client) (es : List Entry) :
    (es.map fun old => if old.client = e.client then e else old).find? (fun x => x.client = client) =
      if client = e.client then (es.find? fun x => x.client = client).map fun _ => e
      else es.find? fun x => x.client = client := by
  induction es with
  | nil => simp
  | cons x rest ih =>
    rw [List.map_cons, List.find?_cons, List.find?_cons, ih]
    by_cases hx : x.client = e.client
    · by_cases hc : client = e.client
      · simp [hx, hc]
      · simp [hx, hc, Ne.symm hc]
    · by_cases hc : client = e.client
      · subst hc
        simp [hx]
      · simp [hx, hc]

/-- After an insert the client has the new entry and all others have theirs. -/
lemma find?_put (t : Table) (e : Entry) (client : Client) :
    (t.put e).find? client = if client = e.client then some e else t.find? client := by
  unfold put
  split
  · next hsome =>
    obtain ⟨old, hold⟩ := Option.isSome_iff_exists.mp hsome
    rw [find?, find?_replace]
    split
    · next heq =>
      subst heq
      rw [find?] at hold
      rw [hold, Option.map_some]
    · rfl
  · next hnone =>
    have hnone : t.find? e.client = none := by simpa using hnone
    rw [find?, List.find?_append]
    split
    · next heq =>
      subst heq
      rw [find?] at hnone
      simp [hnone]
    · next hne =>
      simp [find?, Ne.symm hne]

/-- After an insert the client has the new bucket and all others have theirs. -/
lemma held_put (t : Table) (e : Entry) (client : Client) :
    (t.put e).held client = if client = e.client then some e.bucket else t.held client := by
  rw [held, find?_put]
  split <;> rfl

/-- The entries after an insert are the new one and entries that were there. -/
lemma mem_put {t : Table} {e x : Entry} (h : x ∈ (t.put e).entries) : x = e ∨ x ∈ t.entries := by
  unfold put at h
  split at h
  · obtain ⟨old, hold, rfl⟩ := List.mem_map.mp h
    split
    · exact .inl rfl
    · exact .inr hold
  · obtain hx | hx := List.mem_append.mp h
    · exact .inr hx
    · exact .inl (List.mem_singleton.mp hx)

/-- An insert keeps the clients distinct. -/
lemma Distinct.put {t : Table} (h : t.Distinct) (e : Entry) : (t.put e).Distinct := by
  unfold Distinct Table.put
  split
  · have hkeys : (t.entries.map fun old => if old.client = e.client then e else old).map Entry.client
        = t.entries.map Entry.client := by
      rw [List.map_map]
      apply List.map_congr_left
      intro old _
      by_cases hold : old.client = e.client <;> simp [hold]
    rw [hkeys]
    exact h
  · next hnone =>
    have hnone : t.find? e.client = none := by simpa using hnone
    rw [List.map_append, List.map_singleton, List.nodup_append]
    refine ⟨h, List.nodup_singleton _, ?_⟩
    intro a ha b hb
    obtain ⟨x, hx, rfl⟩ := List.mem_map.mp ha
    rw [List.mem_singleton.mp hb]
    exact find?_eq_none_iff.mp hnone x hx

/-! ### Making room -/

/-- A sweep only leaves entries out. -/
lemma sublist_sweep (idle now : Nat) (t : Table) : (t.sweep idle now).entries.Sublist t.entries :=
  List.filter_sublist

/-- An eviction only leaves entries out. -/
lemma sublist_evict (listing : Listing) (t : Table) : (t.evict listing).entries.Sublist t.entries := by
  unfold evict
  split
  · exact List.Sublist.refl _
  · exact List.filter_sublist

/-- Making room only leaves entries out. -/
lemma sublist_makeRoom (listing : Listing) (maxClients idle now : Nat) (client : Client) (t : Table) :
    (t.makeRoom listing maxClients idle now client).entries.Sublist t.entries := by
  unfold makeRoom
  simp only
  split
  · split
    · exact (sublist_evict listing _).trans (sublist_sweep idle now t)
    · exact sublist_sweep idle now t
  · split
    · exact sublist_evict listing t
    · exact List.Sublist.refl _

/-- After a sweep the clients that were seen within the idle time are found. -/
lemma find?_sweep {t : Table} (h : t.Distinct) (idle now : Nat) (client : Client) :
    (t.sweep idle now).find? client = (t.find? client).filter fun e => now - e.lastSeen ≤ idle := by
  have hd : (t.sweep idle now).Distinct := h.of_sublist (sublist_sweep idle now t)
  ext e
  rw [find?_eq_some_iff hd, Option.filter_eq_some_iff, find?_eq_some_iff h, sweep, List.mem_filter]
  tauto

/-- Where the clients of the table and one more are not too many for it, that one needs no eviction. -/
lemma makeRoom_of_card_le (listing : Listing) {maxClients : Nat} (idle now : Nat) {client : Client} {t : Table}
    (h : t.Distinct) {clients : Finset Client} (hcard : clients.card ≤ maxClients)
    (hmem : client ∈ clients) (hsub : ∀ e ∈ t.entries, e.client ∈ clients) :
    t.makeRoom listing maxClients idle now client = t ∨
      t.makeRoom listing maxClients idle now client = t.sweep idle now := by
  have hroom : ∀ t' : Table, t'.entries.Sublist t.entries →
      ¬ (maxClients ≤ t'.size && (t'.find? client).isNone) := by
    intro t' hs hfull
    obtain ⟨hsize, hnone⟩ : maxClients ≤ t'.size ∧ t'.find? client = none := by simpa using hfull
    -- the clients of the full table and the new one are more than there are
    have hnodup : (client :: t'.entries.map Entry.client).Nodup := by
      rw [List.nodup_cons]
      refine ⟨?_, h.of_sublist hs⟩
      intro hc
      obtain ⟨e, he, hclient⟩ := List.mem_map.mp hc
      exact find?_eq_none_iff.mp hnone e he hclient
    have hle : (client :: t'.entries.map Entry.client).toFinset.card ≤ clients.card := by
      apply Finset.card_le_card
      intro c hc
      obtain rfl | hc := List.mem_cons.mp (List.mem_toFinset.mp hc)
      · exact hmem
      · obtain ⟨e, he, rfl⟩ := List.mem_map.mp hc
        exact hsub e (hs.subset he)
    rw [List.toFinset_card_of_nodup hnodup, List.length_cons, List.length_map] at hle
    rw [size] at hsize
    omega
  unfold makeRoom
  simp only
  split
  · rw [if_neg (hroom _ (sublist_sweep idle now t))]
    exact .inr rfl
  · rw [if_neg (hroom _ (List.Sublist.refl _))]
    exact .inl rfl

/-! ### The invariant -/

/-- A table at a time: clients are distinct and entries are sound. -/
structure Sound (q : Quota) (now : Nat) (t : Table) : Prop where
  distinct : t.Distinct
  entries : ∀ e ∈ t.entries, e.Sound q now

namespace Sound

/-- An empty table is sound. -/
lemma empty (q : Quota) (now lastSweep evictions : Nat) : (⟨[], lastSweep, evictions⟩ : Table).Sound q now :=
  ⟨List.nodup_nil, nofun⟩

/-- Time keeps a table sound. -/
lemma mono {q : Quota} {now later : Nat} {t : Table} (h : t.Sound q now) (hle : now ≤ later) :
    t.Sound q later :=
  ⟨h.distinct, fun e he => (h.entries e he).mono hle⟩

/-- Leaving entries out keeps a table sound. -/
lemma of_sublist {q : Quota} {now : Nat} {t t' : Table} (h : t.Sound q now)
    (hs : t'.entries.Sublist t.entries) : t'.Sound q now :=
  ⟨h.distinct.of_sublist hs, fun e he => h.entries e (hs.subset he)⟩

/-- Inserting a sound entry keeps a table sound. -/
lemma put {q : Quota} {now : Nat} {t : Table} {e : Entry} (h : t.Sound q now) (he : e.Sound q now) :
    (t.put e).Sound q now := by
  refine ⟨h.distinct.put e, ?_⟩
  intro x hx
  obtain rfl | hx := mem_put hx
  · exact he
  · exact h.entries x hx

/-- What is found in a sound table is sound. -/
lemma of_find? {q : Quota} {now : Nat} {t : Table} (h : t.Sound q now) {client : Client} {e : Entry}
    (hf : t.find? client = some e) : e.Sound q now :=
  h.entries e (mem_of_find? hf).1

/-- The bucket of a client, old or new, was created by now and is within its quota. -/
lemma bucket {q : Quota} {now : Nat} {t : Table} (h : t.Sound q now) (client : Client) :
    (t.bucket now client).start ≤ now ∧ (t.bucket now client).Within q now := by
  unfold Table.bucket
  cases hf : t.find? client with
  | none => exact ⟨le_refl now, Bucket.Within.new q now now⟩
  | some e =>
    have he := h.of_find? hf
    exact ⟨he.started.trans he.seen, he.within.mono he.seen⟩

end Sound

end Table

end ApiGateway.Limiter
