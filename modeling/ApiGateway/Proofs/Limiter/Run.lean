import ApiGateway.Proofs.Limiter.Setup
import ApiGateway.Proofs.Limiter.Table

/-!
# Runs of a limiter

A run is a list of arrivals, each a client at a time. `Limiter.trace` says what is decided about each and
`Limiter.after` is the limiter that they leave. A check does one of two things (`check_of_wait_ne_zero`,
`check_of_wait_eq_zero`): it is refused by the bucket of all requests and nothing changes, or it makes room
and asks the bucket of the client.

`Limiter.Sound` is the invariant of a limiter at a time: all its buckets are within their quotas. A limiter
is set up with it (`Sound.ofSettings?`), a check keeps it, and so does every run (`Sound.after`).
-/

namespace ApiGateway

/-- A request as the limiter sees it: when it comes, and whose it is. -/
structure Limiter.Arrival where
  time : Nat
  client : Limiter.Client
  deriving DecidableEq, Repr

namespace Limiter

/-- The arrivals come in the order of their times. -/
abbrev InOrder (arrivals : List Arrival) : Prop :=
  arrivals.Pairwise fun a b => a.time ≤ b.time

/-- An arrival is not before those that stand before it. -/
lemma InOrder.time_le {arrivals : List Arrival} (h : InOrder arrivals) {i k : Nat} (hik : i ≤ k)
    (hi : i < arrivals.length) (hk : k < arrivals.length) : arrivals[i].time ≤ arrivals[k].time := by
  obtain rfl | hlt := Nat.eq_or_lt_of_le hik
  · exact le_refl _
  · exact List.pairwise_iff_getElem.mp h i k hi hk hlt

/-- The limiter that a run leaves. -/
def after (l : Limiter) (arrivals : List Arrival) : Limiter :=
  arrivals.foldl (fun l a => (l.check a.time a.client).2) l

/-- The arrivals of a run, each with the decision about it. -/
def trace (l : Limiter) : List Arrival → List (Arrival × Decision)
  | [] => []
  | a :: rest => (a, (l.check a.time a.client).1) :: trace (l.check a.time a.client).2 rest

/-- The decisions of a run. -/
def decisions (l : Limiter) (arrivals : List Arrival) : List Decision :=
  (l.trace arrivals).map Prod.snd

/-- The table as a client's bucket is looked up in it. -/
def roomy (l : Limiter) (now : Nat) (client : Client) : Table :=
  l.table.makeRoom l.listing l.maxClients l.idle now client

/-- What a run leaves is what its last check leaves. -/
lemma after_take_succ (l : Limiter) {arrivals : List Arrival} {k : Nat} (hk : k < arrivals.length) :
    l.after (arrivals.take (k + 1)) =
      ((l.after (arrivals.take k)).check arrivals[k].time arrivals[k].client).2 := by
  rw [after, ← List.take_append_getElem hk, List.foldl_append]
  rfl

/-- Every decision of a run is about the limiter that the arrivals before leave. -/
lemma getElem?_trace (l : Limiter) {arrivals : List Arrival} {k : Nat} (hk : k < arrivals.length) :
    (l.trace arrivals)[k]? =
      some (arrivals[k], ((l.after (arrivals.take k)).check arrivals[k].time arrivals[k].client).1) := by
  induction arrivals generalizing l k with
  | nil => cases hk
  | cons a rest ih =>
    cases k with
    | zero => rfl
    | succ k => exact ih _ (Nat.lt_of_succ_lt_succ hk)

/-! ### One check -/

/-- A request that the bucket of all requests makes wait changes nothing. -/
lemma check_of_wait_ne_zero {l : Limiter} {now : Nat} (h : l.shared.wait l.sharedQuota now ≠ 0)
    (client : Client) :
    l.check now client = (.limited .shared (l.shared.wait l.sharedQuota now), l) := by
  unfold check
  rw [Bucket.check_eq, if_neg h]
  split
  · next heq => exact absurd (congrArg Prod.fst heq) h
  · next heq => cases heq; rfl

/-- A request that the bucket of all requests lets pass is decided by the bucket of its client, after room
was made in the table. -/
lemma check_of_wait_eq_zero {l : Limiter} {now : Nat} (h : l.shared.wait l.sharedQuota now = 0)
    (client : Client) :
    l.check now client =
      (.ofWait .client (((l.roomy now client).bucket now client).wait l.clientQuota now),
        { l with
          shared := l.shared.take l.sharedQuota now
          table := (l.roomy now client).put
            ⟨client, (((l.roomy now client).bucket now client).check l.clientQuota now).2, now⟩ }) := by
  unfold check
  rw [Bucket.check_eq, if_pos h, ← Bucket.fst_check]
  rfl

/-- A check leaves the quotas and the bounds of the table. -/
lemma bounds_check (l : Limiter) (now : Nat) (client : Client) :
    (l.check now client).2.sharedQuota = l.sharedQuota ∧
      (l.check now client).2.clientQuota = l.clientQuota ∧
      (l.check now client).2.maxClients = l.maxClients ∧ (l.check now client).2.idle = l.idle := by
  by_cases h : l.shared.wait l.sharedQuota now = 0
  · rw [check_of_wait_eq_zero h]
    exact ⟨rfl, rfl, rfl, rfl⟩
  · rw [check_of_wait_ne_zero h]
    exact ⟨rfl, rfl, rfl, rfl⟩

/-- A check does with the bucket of all requests what that bucket's own check does. -/
lemma shared_check (l : Limiter) (now : Nat) (client : Client) :
    (l.check now client).2.shared = (l.shared.check l.sharedQuota now).2 := by
  by_cases h : l.shared.wait l.sharedQuota now = 0
  · rw [check_of_wait_eq_zero h, Bucket.check_eq l.sharedQuota l.shared, if_pos h]
  · rw [check_of_wait_ne_zero h, Bucket.check_eq l.sharedQuota l.shared, if_neg h]

/-- The entries after a check are the one of its client and entries that were there. -/
lemma client_of_mem_check {l : Limiter} {now : Nat} {client : Client} {e : Entry}
    (he : e ∈ (l.check now client).2.table.entries) : e.client = client ∨ e ∈ l.table.entries := by
  by_cases h : l.shared.wait l.sharedQuota now = 0
  · rw [check_of_wait_eq_zero h] at he
    obtain rfl | he := Table.mem_put he
    · exact .inl rfl
    · exact .inr ((Table.sublist_makeRoom _ _ _ _ _ _).subset he)
  · rw [check_of_wait_ne_zero h] at he
    exact .inr he

/-- A run leaves the quotas. -/
lemma quotas_after (l : Limiter) (arrivals : List Arrival) :
    (l.after arrivals).sharedQuota = l.sharedQuota ∧ (l.after arrivals).clientQuota = l.clientQuota := by
  induction arrivals generalizing l with
  | nil => exact ⟨rfl, rfl⟩
  | cons a rest ih =>
    obtain ⟨hs, hc, _⟩ := l.bounds_check a.time a.client
    obtain ⟨ihs, ihc⟩ := ih (l.check a.time a.client).2
    exact ⟨ihs.trans hs, ihc.trans hc⟩

/-! ### The invariant -/

/-- A limiter at a time: the bucket of all requests is within its quota and the table is sound. -/
structure Sound (now : Nat) (l : Limiter) : Prop where
  shared : l.shared.Within l.sharedQuota now
  table : l.table.Sound l.clientQuota now

namespace Sound

/-- Time keeps a limiter sound. -/
lemma mono {now later : Nat} {l : Limiter} (h : l.Sound now) (hle : now ≤ later) : l.Sound later :=
  ⟨h.shared.mono hle, h.table.mono hle⟩

/-- A new limiter is sound at every time. -/
lemma ofSettings? {s : Settings} {start : Nat} {listing : Listing} {l : Limiter}
    (h : Limiter.ofSettings? s start listing = .ok l) (now : Nat) : l.Sound now := by
  obtain ⟨p, q, _, _, _, _, rfl⟩ := ofSettings?_eq_ok_iff.mp h
  exact ⟨Bucket.Within.new p start now, Table.Sound.empty q now start 0⟩

/-- The table is sound when room was made. -/
lemma roomy {now : Nat} {l : Limiter} (h : l.Sound now) (client : Client) :
    (l.roomy now client).Sound l.clientQuota now :=
  h.table.of_sublist (Table.sublist_makeRoom _ _ _ _ _ _)

/-- A check keeps a limiter sound. -/
lemma check {now : Nat} {l : Limiter} (h : l.Sound now) (client : Client) :
    (l.check now client).2.Sound now := by
  obtain ⟨hs, hc, _⟩ := l.bounds_check now client
  refine ⟨?_, ?_⟩
  · rw [hs, shared_check]
    exact h.shared.check
  · rw [hc]
    by_cases hw : l.shared.wait l.sharedQuota now = 0
    · rw [check_of_wait_eq_zero hw]
      obtain ⟨hstart, hwithin⟩ := (h.roomy client).bucket client
      refine (h.roomy client).put ⟨le_refl now, ?_, hwithin.check⟩
      rw [Bucket.start_check]
      exact hstart
    · rw [check_of_wait_ne_zero hw]
      exact h.table

/-- A run keeps a limiter sound. -/
lemma after {now later : Nat} {l : Limiter} (h : l.Sound now) {arrivals : List Arrival}
    (hord : InOrder arrivals) (hfrom : ∀ a ∈ arrivals, now ≤ a.time) (hto : ∀ a ∈ arrivals, a.time ≤ later)
    (hle : now ≤ later) : (l.after arrivals).Sound later := by
  induction arrivals generalizing now l with
  | nil => exact h.mono hle
  | cons a rest ih =>
    obtain ⟨hhead, htail⟩ := List.pairwise_cons.mp hord
    have hstep := (h.mono (hfrom a List.mem_cons_self)).check a.client
    exact ih hstep htail hhead (fun b hb => hto b (List.mem_cons_of_mem a hb)) (hto a List.mem_cons_self)

/-- At the time of an arrival the limiter is sound as the arrivals up to it leave it. -/
lemma after_take {l : Limiter} (h : ∀ now, l.Sound now) {arrivals : List Arrival} (hord : InOrder arrivals)
    {m k : Nat} (hm : m ≤ k + 1) (hk : k < arrivals.length) :
    (l.after (arrivals.take m)).Sound arrivals[k].time := by
  apply (h 0).after (hord.sublist (List.take_sublist _ _))
  · exact fun a _ => Nat.zero_le a.time
  · intro a ha
    obtain ⟨n, hn, rfl⟩ := List.mem_take_iff_getElem.mp ha
    exact hord.time_le (by omega) _ hk
  · exact Nat.zero_le _

end Sound

/-! ### Buckets that the clock cannot count -/

/-- A check leaves a bucket that the clock cannot count exactly if the period of clients is such, and the check lets
its client have a bucket or some client had one before. -/
lemma isBroken_check_iff {l : Limiter} {now : Nat} {client : Client} :
    (l.check now client).2.isBroken = true ↔
      l.clientQuota.isCountable = false ∧ (l.shared.wait l.sharedQuota now = 0 ∨ l.tracked ≠ 0) := by
  obtain ⟨_, hquota, _⟩ := l.bounds_check now client
  rw [isBroken, hquota, Bool.and_eq_true, Bool.not_eq_true', bne_iff_ne]
  apply and_congr_right
  intro _
  by_cases hw : l.shared.wait l.sharedQuota now = 0
  · refine iff_of_true ?_ (.inl hw)
    intro hnone
    rw [check_of_wait_eq_zero hw, tracked, Table.size, List.length_eq_zero_iff] at hnone
    have hfound := (Table.find?_put (l.roomy now client)
      ⟨client, (((l.roomy now client).bucket now client).check l.clientQuota now).2, now⟩ client).trans (if_pos rfl)
    rw [Table.find?, hnone] at hfound
    cases hfound
  · rw [check_of_wait_ne_zero hw]
    exact ⟨.inr, fun h => h.resolve_left hw⟩

/-- A new limiter is broken by its first request if the clock cannot count the period of clients. -/
lemma isBroken_check_of_new {s : Settings} {start : Nat} {listing : Listing} {l : Limiter}
    (hl : ofSettings? s start listing = .ok l) (hlong : l.clientQuota.isCountable = false) (now : Nat)
    (client : Client) : (l.check now client).2.isBroken = true := by
  obtain ⟨p, q, _, _, _, _, rfl⟩ := ofSettings?_eq_ok_iff.mp hl
  exact isBroken_check_iff.mpr ⟨hlong, .inl (Bucket.wait_new p start now)⟩

/-- A limiter decides about every request of every run if the clock can count the period of its clients, and
otherwise not even about the first one. -/
theorem check?_after {s : Settings} {start : Nat} {listing : Listing} {l : Limiter}
    (hl : ofSettings? s start listing = .ok l) (arrivals : List Arrival) (now : Nat) (client : Client) :
    (l.clientQuota.isCountable = true →
        (l.after arrivals).check? now client = some ((l.after arrivals).check now client)) ∧
      (l.clientQuota.isCountable = false → l.check? now client = none) := by
  constructor
  · intro hcountable
    refine if_neg ?_
    intro hbroken
    rw [isBroken_check_iff, (l.quotas_after arrivals).2, hcountable] at hbroken
    cases hbroken.1
  · exact fun hlong => if_pos (isBroken_check_of_new hl hlong now client)

end Limiter

end ApiGateway
