import ApiGateway.Proofs.Limiter.Run

/-!
# Forgetting idle clients cannot be noticed

`Unbounded` is a limiter whose table has no bound and is never swept: a client gets its bucket with the
first request that the bucket of all requests lets pass and keeps it for ever. The limiter forgets clients,
and a client that comes back gets a full bucket. If a client may be forgotten only after a time in which a
bucket refills, then the bucket that is dropped is as good as new, and the two limiters decide alike
(`decisions_eq_unbounded`).

`Follows` is what ties the two together: for every client the levels of its two buckets are the same from
the clock on, where no bucket counts as level zero. A sweep keeps it because the level of an entry is ahead
of the last sight by the burst in periods at the most (`level_roomy`).
-/

namespace ApiGateway.Limiter

/-- A limiter that forgets no client: the two quotas, the bucket of all requests, and that of each client that has
one. -/
structure Unbounded where
  sharedQuota : Quota
  clientQuota : Quota
  shared : Bucket
  clients : Client → Option Bucket

namespace Unbounded

/-- A limiter that has seen no request. -/
def new (sharedQuota clientQuota : Quota) (now : Nat) : Unbounded :=
  ⟨sharedQuota, clientQuota, Bucket.new now, fun _ => none⟩

/-- The bucket of a client, a new one if it has none. -/
def bucket (u : Unbounded) (now : Nat) (client : Client) : Bucket :=
  (u.clients client).getD (Bucket.new now)

/-- Decides about a request of a client and gives the limiter after it. The bucket of all requests is
asked first; if it refuses, nothing changes. -/
def check (now : Nat) (client : Client) (u : Unbounded) : Decision × Unbounded :=
  match u.shared.check u.sharedQuota now with
  | (0, shared) =>
    let (wait, bucket) := (u.bucket now client).check u.clientQuota now
    (.ofWait .client wait,
      { u with shared, clients := fun c => if c = client then some bucket else u.clients c })
  | (wait, _) => (.limited .shared wait, u)

/-- The decisions of a run. -/
def decisions (u : Unbounded) : List Arrival → List Decision
  | [] => []
  | a :: rest => (u.check a.time a.client).1 :: decisions (u.check a.time a.client).2 rest

/-- A request that the bucket of all requests makes wait changes nothing. -/
lemma check_of_wait_ne_zero {u : Unbounded} {now : Nat} (h : u.shared.wait u.sharedQuota now ≠ 0)
    (client : Client) :
    u.check now client = (.limited .shared (u.shared.wait u.sharedQuota now), u) := by
  unfold check
  rw [Bucket.check_eq, if_neg h]
  split
  · next heq => exact absurd (congrArg Prod.fst heq) h
  · next heq => cases heq; rfl

/-- A request that the bucket of all requests lets pass is decided by the bucket of its client. -/
lemma check_of_wait_eq_zero {u : Unbounded} {now : Nat} (h : u.shared.wait u.sharedQuota now = 0)
    (client : Client) :
    u.check now client =
      (.ofWait .client ((u.bucket now client).wait u.clientQuota now),
        { u with
          shared := u.shared.take u.sharedQuota now
          clients := fun c =>
            if c = client then some ((u.bucket now client).check u.clientQuota now).2
            else u.clients c }) := by
  unfold check
  rw [Bucket.check_eq, if_pos h, ← Bucket.fst_check]
  rfl

end Unbounded

/-- A limiter and one that forgets no client, at a time: they have the same quotas and the same bucket of
all requests, and the buckets that they hold of a client have the same level from the time on. -/
structure Follows (now : Nat) (l : Limiter) (u : Unbounded) : Prop where
  sharedQuota : u.sharedQuota = l.sharedQuota
  clientQuota : u.clientQuota = l.clientQuota
  shared : u.shared = l.shared
  level : ∀ c, max (Bucket.level? (u.clients c)) now = max (Bucket.level? (l.table.held c)) now
  started : ∀ c b, u.clients c = some b → b.start ≤ now

/-- Making room drops clients only whose level is not after the clock, if the idle time is one in which a
bucket refills and the clients are not too many for the table. -/
lemma level_roomy {l : Limiter} {now : Nat} (h : l.Sound now)
    (hidle : l.clientQuota.burst * l.clientQuota.period ≤ l.idle) {clients : Finset Client}
    (hcard : clients.card ≤ l.maxClients) (hsub : ∀ e ∈ l.table.entries, e.client ∈ clients)
    {client : Client} (hmem : client ∈ clients) (c : Client) :
    max (Bucket.level? ((l.roomy now client).held c)) now =
      max (Bucket.level? (l.table.held c)) now := by
  rw [roomy]
  obtain heq | heq := Table.makeRoom_of_card_le l.listing l.idle now h.table.distinct hcard hmem hsub
  · rw [heq]
  · rw [heq, Table.held, Table.held, Table.find?_sweep h.table.distinct]
    cases hf : l.table.find? c with
    | none => rfl
    | some e =>
      rw [Option.filter_some]
      split
      · rfl
      · next hold =>
        -- the entry is dropped: its client was last seen longer ago than its bucket takes to refill
        have hlevel := (h.table.of_find? hf).level_le
        have hold : l.idle + e.lastSeen < now := by simpa using hold
        rw [Nat.mul_comm] at hidle
        rw [Option.map_none, Option.map_some, Bucket.level?_none, Bucket.level?_some]
        omega

namespace Follows

/-- Limiters of the same settings that have seen no request follow each other. -/
lemma new {s : Settings} {p q : Quota} {start : Nat} {listing : Listing} {l : Limiter}
    (h : ofSettings? s start listing = .ok l)
    (hp : s.shared.quota? = .ok p) (hq : s.client.quota? = .ok q) (now : Nat) :
    Follows now l (Unbounded.new p q start) := by
  obtain rfl := eq_of_ofSettings? h hp hq
  exact ⟨rfl, rfl, rfl, fun _ => rfl, nofun⟩

/-- Time keeps limiters that follow each other. -/
lemma mono {now later : Nat} {l : Limiter} {u : Unbounded} (h : Follows now l u) (hle : now ≤ later) :
    Follows later l u := by
  refine ⟨h.sharedQuota, h.clientQuota, h.shared, ?_, ?_⟩
  · intro c
    have hc := h.level c
    omega
  · intro c b hb
    exact (h.started c b hb).trans hle

/-- The bucket of a client was created by now. -/
lemma start_bucket_le {now : Nat} {l : Limiter} {u : Unbounded} (h : Follows now l u) (client : Client) :
    (u.bucket now client).start ≤ now := by
  unfold Unbounded.bucket
  cases hb : u.clients client with
  | none => exact le_refl now
  | some b => exact h.started client b hb

/-- A check is decided alike by limiters that follow each other, and they still do after it. -/
lemma check {now : Nat} {l : Limiter} {u : Unbounded} (h : Follows now l u) (hsound : l.Sound now)
    (hidle : l.clientQuota.burst * l.clientQuota.period ≤ l.idle) {clients : Finset Client}
    (hcard : clients.card ≤ l.maxClients) (hsub : ∀ e ∈ l.table.entries, e.client ∈ clients)
    {client : Client} (hmem : client ∈ clients) :
    (l.check now client).1 = (u.check now client).1 ∧
      Follows now (l.check now client).2 (u.check now client).2 := by
  -- making room does not change the level of any client from now on
  have hroomy := level_roomy hsound hidle hcard hsub hmem
  by_cases hw : l.shared.wait l.sharedQuota now = 0
  · have hw' : u.shared.wait u.sharedQuota now = 0 := by rw [h.shared, h.sharedQuota, hw]
    rw [check_of_wait_eq_zero hw, Unbounded.check_of_wait_eq_zero hw', h.clientQuota, h.sharedQuota, h.shared]
    have hstart := ((hsound.roomy client).bucket client).1
    have hlevel : max ((l.roomy now client).bucket now client).level now =
        max (u.bucket now client).level now :=
      calc max ((l.roomy now client).bucket now client).level now
          = max (Bucket.level? ((l.roomy now client).held client)) now := Bucket.max_level_getD _ now
        _ = max (Bucket.level? (l.table.held client)) now := hroomy client
        _ = max (Bucket.level? (u.clients client)) now := (h.level client).symm
        _ = max (u.bucket now client).level now := (Bucket.max_level_getD _ now).symm
    refine ⟨?_, ?_⟩
    · rw [Bucket.wait_congr hstart (h.start_bucket_le client) hlevel]
    · refine ⟨rfl, rfl, rfl, ?_, ?_⟩
      · intro c
        rw [Table.held_put]
        by_cases hc : c = client
        · simp only [if_pos hc]
          exact (Bucket.level_check_congr hstart (h.start_bucket_le client) hlevel).symm
        · simp only [if_neg hc]
          rw [h.level c, hroomy c]
      · intro c b hb
        by_cases hc : c = client
        · simp only [if_pos hc] at hb
          cases hb
          rw [Bucket.start_check]
          exact h.start_bucket_le client
        · simp only [if_neg hc] at hb
          exact h.started c b hb
  · have hw' : u.shared.wait u.sharedQuota now ≠ 0 := by rw [h.shared, h.sharedQuota]; exact hw
    rw [check_of_wait_ne_zero hw, Unbounded.check_of_wait_ne_zero hw', h.shared, h.sharedQuota]
    exact ⟨rfl, h⟩

end Follows

/-- Limiters that follow each other decide a run alike. -/
lemma decisions_eq_of_follows {now : Nat} {l : Limiter} {u : Unbounded} (h : Follows now l u)
    (hsound : l.Sound now) (hidle : l.clientQuota.burst * l.clientQuota.period ≤ l.idle)
    {clients : Finset Client} (hcard : clients.card ≤ l.maxClients)
    (hsub : ∀ e ∈ l.table.entries, e.client ∈ clients) {arrivals : List Arrival}
    (hord : InOrder arrivals) (hfrom : ∀ a ∈ arrivals, now ≤ a.time)
    (hmem : ∀ a ∈ arrivals, a.client ∈ clients) : l.decisions arrivals = u.decisions arrivals := by
  induction arrivals generalizing now l u with
  | nil => rfl
  | cons a rest ih =>
    obtain ⟨hhead, htail⟩ := List.pairwise_cons.mp hord
    have hle : now ≤ a.time := hfrom a List.mem_cons_self
    have hclient : a.client ∈ clients := hmem a List.mem_cons_self
    obtain ⟨hdecision, hnext⟩ := (h.mono hle).check (hsound.mono hle) hidle hcard hsub hclient
    obtain ⟨_, hquota, hmax, hidle'⟩ := l.bounds_check a.time a.client
    have hknown : ∀ e ∈ (l.check a.time a.client).2.table.entries, e.client ∈ clients := by
      intro e he
      obtain hc | he := client_of_mem_check he
      · exact hc ▸ hclient
      · exact hsub e he
    rw [decisions, trace, List.map_cons, Unbounded.decisions, hdecision]
    congr 1
    exact ih hnext ((hsound.mono hle).check a.client) (by rw [hquota, hidle']; exact hidle)
      (by rw [hmax]; exact hcard) hknown htail hhead (fun b hb => hmem b (List.mem_cons_of_mem a hb))

/-- If clients may be forgotten only after a time in which a bucket refills, and no more clients come than
the table may hold, every decision is that of a limiter that forgets no client. -/
theorem decisions_eq_unbounded {s : Settings} {start : Nat} {listing : Listing} {l : Limiter} {p q : Quota}
    (hl : ofSettings? s start listing = .ok l) (hp : s.shared.quota? = .ok p) (hq : s.client.quota? = .ok q)
    (hidle : s.client.burst * q.period ≤ s.idle) {arrivals : List Arrival} (hord : InOrder arrivals)
    (hclients : (arrivals.map Arrival.client).toFinset.card ≤ s.maxClients) :
    l.decisions arrivals = (Unbounded.new p q start).decisions arrivals := by
  have hsound : l.Sound 0 := Sound.ofSettings? hl 0
  have hfollows : Follows 0 l (Unbounded.new p q start) := Follows.new hl hp hq 0
  obtain rfl := eq_of_ofSettings? hl hp hq
  rw [(Rate.quota?_eq_ok_iff.mp hq).2] at hidle
  apply decisions_eq_of_follows hfollows hsound hidle hclients nofun hord
  · exact fun a _ => Nat.zero_le a.time
  · exact fun a ha => List.mem_toFinset.mpr (List.mem_map_of_mem ha)

/-- Two clients, the first of which is forgotten when the second comes and then comes back. -/
def returning : List Arrival :=
  [⟨0, ['a']⟩, ⟨0, ['a']⟩, ⟨500000000, ['a']⟩, ⟨3000000000, ['b']⟩, ⟨3000000000, ['a']⟩]

/-- The client that comes back is treated as if it had not been forgotten. -/
theorem decisions_returning :
    ofSettings? small 0 .latest = .ok smallLimiter ∧ small.shared.quota? = .ok smallShared ∧
      small.client.quota? = .ok smallClient ∧ small.client.burst * smallClient.period ≤ small.idle ∧
      InOrder returning ∧ (returning.map Arrival.client).toFinset.card ≤ small.maxClients ∧
      (smallLimiter.after (returning.take 4)).table.find? ['a'] = none ∧
      smallLimiter.decisions returning =
        (Unbounded.new smallShared smallClient 0).decisions returning :=
  ⟨ofSettings?_small, quota?_small_shared, quota?_small_client, by decide, by decide, by decide, by decide,
    decisions_eq_unbounded ofSettings?_small quota?_small_shared quota?_small_client (by decide)
      (by decide) (by decide)⟩

end ApiGateway.Limiter
