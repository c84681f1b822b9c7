import ApiGateway.Proofs.Limiter.Eviction
import ApiGateway.Proofs.Limiter.Rate

/-!
# What a client over its limit costs the others

The bucket of all requests is asked before the bucket of the client, and what it gave is not given back if the
client's bucket refuses then. So a client over its own limit costs the others something (`refused_client_costs`),
and this module says what: one draw from the bucket of all requests for each request that was refused, and nothing
else (`trace_without_refused`). Put such a draw in the place of every request that its client's bucket refused, and
all others are decided as before. Leave these requests out altogether, and the others are decided as before up to
the first one that the bucket of all requests refused.

As long as no entry can be dropped from the table (`Lasting`), a check is that of a limiter that forgets no client
(`check_unbounded`), and there a refused request does nothing but draw (`Unbounded.check_of_refused`). A bucket of
which less was drawn is at a lower level, and lets pass whatever the other one lets pass (`Lower.check`).
-/

namespace ApiGateway.Limiter

/-- A turn of a run: a request is checked, or one only draws from the bucket of all requests. -/
inductive Turn where
  | check (a : Arrival)
  | draw (now : Nat)
  deriving DecidableEq, Repr

/-- The limiter after a draw from the bucket of all requests alone. -/
def draw (now : Nat) (l : Limiter) : Limiter :=
  { l with shared := (l.shared.check l.sharedQuota now).2 }

/-- The requests that are checked in a run of turns, each with the decision about it. -/
def answers (l : Limiter) : List Turn → List (Arrival × Decision)
  | [] => []
  | .check a :: rest => (a, (l.check a.time a.client).1) :: answers (l.check a.time a.client).2 rest
  | .draw now :: rest => answers (l.draw now) rest

/-- Holds unless the client's bucket refused the request. -/
def remains (x : Arrival × Decision) : Bool :=
  x.2.refusedBy? ≠ some .client

/-- The turn of a request, which is only a draw if the client's bucket refused it. -/
def charge (x : Arrival × Decision) : Turn :=
  if remains x then .check x.1 else .draw x.1.time

/-- The arrivals of a run without those that their client's bucket refused. -/
def kept (l : Limiter) (arrivals : List Arrival) : List Arrival :=
  ((l.trace arrivals).filter remains).map Prod.fst

/-! ### Refused requests -/

/-- A client whose bucket refuses is one that has a bucket, and of the limiter only the bucket of all requests
changes. -/
lemma Unbounded.check_of_refused {u : Unbounded} {now : Nat} {client : Client}
    (h : (u.check now client).1.refusedBy? = some .client) :
    u.shared.wait u.sharedQuota now = 0 ∧
      (u.check now client).2 = { u with shared := (u.shared.check u.sharedQuota now).2 } := by
  by_cases hw : u.shared.wait u.sharedQuota now = 0
  · rw [check_of_wait_eq_zero hw] at h ⊢
    have hwait : (u.bucket now client).wait u.clientQuota now ≠ 0 := by
      intro hzero
      rw [Decision.ofWait, if_pos hzero] at h
      cases h
    cases hb : u.clients client with
    | none =>
      -- a new bucket refuses nobody
      rw [bucket, hb] at hwait
      exact absurd (Bucket.wait_new _ now now) hwait
    | some b =>
      have hbucket : u.bucket now client = b := by rw [bucket, hb]; rfl
      have hsame : (fun c => if c = client then some b else u.clients c) = u.clients := by
        funext c
        split
        · next hc => rw [hc, hb]
        · rfl
      rw [hbucket] at hwait ⊢
      rw [Bucket.check_eq u.clientQuota, if_neg hwait, hsame, Bucket.check_eq u.sharedQuota, if_pos hw]
      exact ⟨hw, rfl⟩
  · rw [check_of_wait_ne_zero hw] at h
    cases h

/-! ### Limiters that forget nobody for a while -/

/-- The limiter without the bounds of its table. -/
def unbounded (l : Limiter) : Unbounded :=
  ⟨l.sharedQuota, l.clientQuota, l.shared, l.table.held⟩

/-- A limiter with room for all clients, whose entries were all seen from the time `base` on. -/
structure Lasting (clients : Finset Client) (base : Nat) (l : Limiter) : Prop where
  distinct : l.table.Distinct
  room : clients.card ≤ l.maxClients
  known : ∀ e ∈ l.table.entries, e.client ∈ clients
  recent : ∀ e ∈ l.table.entries, base ≤ e.lastSeen

/-- Arrivals of these clients within the idle time from `base` on. -/
def Brief (clients : Finset Client) (base idle : Nat) (arrivals : List Arrival) : Prop :=
  ∀ a ∈ arrivals, a.client ∈ clients ∧ base ≤ a.time ∧ a.time ≤ base + idle

variable {l l' : Limiter} {clients : Finset Client} {base : Nat} {arrivals : List Arrival}

/-- Within the idle time making room drops nobody. -/
lemma held_roomy (h : Lasting clients base l) {now : Nat} (hnow : now ≤ base + l.idle) {client : Client}
    (hmem : client ∈ clients) : (l.roomy now client).held = l.table.held := by
  obtain heq | heq := Table.makeRoom_of_card_le l.listing l.idle now h.distinct h.room hmem h.known
  · exact congrArg Table.held heq
  · funext c
    rw [roomy, heq, Table.held, Table.held, Table.find?_sweep h.distinct]
    cases hf : l.table.find? c with
    | none => rfl
    | some e =>
      have hseen : base ≤ e.lastSeen := h.recent e (Table.mem_of_find? hf).1
      have hidle : now - e.lastSeen ≤ l.idle := by omega
      rw [Option.filter_some, if_pos (decide_eq_true hidle)]

/-- Within the idle time a check is that of a limiter that forgets no client. -/
lemma check_unbounded (h : Lasting clients base l) {now : Nat} (hnow : now ≤ base + l.idle) {client : Client}
    (hmem : client ∈ clients) :
    (l.check now client).1 = (l.unbounded.check now client).1 ∧
      (l.check now client).2.unbounded = (l.unbounded.check now client).2 := by
  have hheld := held_roomy h hnow hmem
  have hbucket : (l.roomy now client).bucket now client = l.unbounded.bucket now client :=
    congrArg (fun held => (held client).getD (Bucket.new now)) hheld
  by_cases hw : l.shared.wait l.sharedQuota now = 0
  · have hw' : l.unbounded.shared.wait l.unbounded.sharedQuota now = 0 := hw
    rw [check_of_wait_eq_zero hw, Unbounded.check_of_wait_eq_zero hw', hbucket]
    refine ⟨rfl, ?_⟩
    unfold unbounded
    simp only [Unbounded.mk.injEq, true_and]
    funext c
    rw [Table.held_put, hheld]
  · have hw' : l.unbounded.shared.wait l.unbounded.sharedQuota now ≠ 0 := hw
    rw [check_of_wait_ne_zero hw, Unbounded.check_of_wait_ne_zero hw']
    exact ⟨rfl, rfl⟩

namespace Lasting

/-- A limiter with room for all clients that has just been set up is lasting. -/
lemma ofSettings? {s : Settings} {start : Nat} {listing : Listing} (h : Limiter.ofSettings? s start listing = .ok l)
    (hcard : clients.card ≤ s.maxClients) : Lasting clients base l := by
  obtain ⟨p, q, _, _, _, _, rfl⟩ := ofSettings?_eq_ok_iff.mp h
  exact ⟨List.nodup_nil, hcard, nofun, nofun⟩

/-- A check for one of the clients leaves a lasting limiter lasting. -/
lemma check (h : Lasting clients base l) {now : Nat} (hnow : base ≤ now) {client : Client}
    (hmem : client ∈ clients) : Lasting clients base (l.check now client).2 := by
  by_cases hw : l.shared.wait l.sharedQuota now = 0
  · rw [check_of_wait_eq_zero hw]
    have hs : (l.roomy now client).entries.Sublist l.table.entries := Table.sublist_makeRoom _ _ _ _ _ _
    refine ⟨(h.distinct.of_sublist hs).put _, h.room, ?_, ?_⟩
    · intro e he
      obtain rfl | he := Table.mem_put he
      · exact hmem
      · exact h.known e (hs.subset he)
    · intro e he
      obtain rfl | he := Table.mem_put he
      · exact hnow
      · exact h.recent e (hs.subset he)
  · rw [check_of_wait_ne_zero hw]
    exact h

/-- A draw on the bucket of all requests leaves a lasting limiter lasting. -/
lemma draw (h : Lasting clients base l) (now : Nat) : Lasting clients base (l.draw now) :=
  ⟨h.distinct, h.room, h.known, h.recent⟩

end Lasting

/-! ### A draw in the place of a refused request -/

/-- With a draw in the place of every request that its client's bucket refused, all others are decided as before. -/
lemma answers_charge (h : Lasting clients base l) (h' : Lasting clients base l')
    (hsame : l'.unbounded = l.unbounded) (hidle : l'.idle = l.idle) (hbrief : Brief clients base l.idle arrivals) :
    l'.answers ((l.trace arrivals).map charge) = (l.trace arrivals).filter remains := by
  induction arrivals generalizing l l' with
  | nil => rfl
  | cons a rest ih =>
    obtain ⟨⟨hmem, hfrom, hto⟩, hrest⟩ := List.forall_mem_cons.mp hbrief
    obtain ⟨hdecision, hafter⟩ := check_unbounded h hto hmem
    obtain ⟨hdecision', hafter'⟩ := check_unbounded h' (hidle ▸ hto) hmem
    obtain ⟨_, _, _, hkept⟩ := l.bounds_check a.time a.client
    obtain ⟨_, _, _, hkept'⟩ := l'.bounds_check a.time a.client
    rw [hsame] at hdecision' hafter'
    rw [trace, List.map_cons, charge]
    cases hr : remains (a, (l.check a.time a.client).1) with
    | true =>
      rw [if_pos rfl, List.filter_cons_of_pos hr, answers, hdecision', ← hdecision]
      congr 1
      exact ih (h.check hfrom hmem) (h'.check hfrom hmem) (hafter'.trans hafter.symm)
        (hkept'.trans (hidle.trans hkept.symm)) (hkept ▸ hrest)
    | false =>
      have hrefused : (l.unbounded.check a.time a.client).1.refusedBy? = some .client := by
        rw [← hdecision]
        simpa [remains] using hr
      have hdraw : (l'.draw a.time).unbounded = (l.check a.time a.client).2.unbounded := by
        rw [hafter, (Unbounded.check_of_refused hrefused).2, ← hsame]
        rfl
      rw [if_neg Bool.false_ne_true, List.filter_cons_of_neg (by simp [hr]), answers]
      exact ih (h.check hfrom hmem) (h'.draw a.time) hdraw (hidle.trans hkept.symm) (hkept ▸ hrest)

/-! ### Leaving refused requests out -/

/-- The first limiter differs from the second in that less was drawn from its bucket of all requests. -/
structure Lower (u' u : Unbounded) : Prop where
  sharedQuota : u'.sharedQuota = u.sharedQuota
  clientQuota : u'.clientQuota = u.clientQuota
  clients : u'.clients = u.clients
  start : u'.shared.start = u.shared.start
  level : u'.shared.level ≤ u.shared.level

namespace Lower

variable {u u' : Unbounded} {now : Nat} {client : Client}

/-- A limiter is as low as itself. -/
lemma refl (u : Unbounded) : Lower u u :=
  ⟨rfl, rfl, rfl, rfl, le_refl _⟩

/-- What passes the bucket of all requests passes it where less was drawn. -/
lemma wait_eq_zero (h : Lower u' u) (hw : u.shared.wait u.sharedQuota now = 0) :
    u'.shared.wait u'.sharedQuota now = 0 := by
  have hlevel := h.level
  rw [Bucket.wait_eq] at hw ⊢
  rw [h.sharedQuota, h.start]
  omega

/-- A request that passes the bucket of all requests is decided alike where less was drawn. -/
lemma check (h : Lower u' u) (hw : u.shared.wait u.sharedQuota now = 0) :
    (u'.check now client).1 = (u.check now client).1 ∧
      Lower (u'.check now client).2 (u.check now client).2 := by
  have hw' := h.wait_eq_zero hw
  have hbucket : u'.bucket now client = u.bucket now client := by
    rw [Unbounded.bucket, h.clients, Unbounded.bucket]
  rw [Unbounded.check_of_wait_eq_zero hw, Unbounded.check_of_wait_eq_zero hw', hbucket, h.clientQuota, h.clients]
  refine ⟨rfl, h.sharedQuota, rfl, rfl, h.start, ?_⟩
  simp only [Bucket.level_take, h.sharedQuota]
  exact Nat.add_le_add_right (max_le_max h.level (le_refl now)) _

/-- A refused request only adds to what was drawn. -/
lemma refused (h : Lower u' u) (hr : (u.check now client).1.refusedBy? = some .client) :
    Lower u' (u.check now client).2 := by
  obtain ⟨hw, hcheck⟩ := Unbounded.check_of_refused hr
  rw [hcheck]
  refine ⟨h.sharedQuota, h.clientQuota, h.clients, h.start.trans (Bucket.start_check _ _ _).symm, ?_⟩
  have hlevel := h.level
  simp only [Bucket.level_check, if_pos hw]
  omega

end Lower

/-- Without the requests that their client's bucket refused, all others are decided as before up to the first one
that the bucket of all requests refused. -/
lemma prefix_trace_kept (h : Lasting clients base l) (h' : Lasting clients base l')
    (hlower : Lower l'.unbounded l.unbounded) (hidle : l'.idle = l.idle)
    (hbrief : Brief clients base l.idle arrivals) {k : Nat}
    (hpass : ∀ x ∈ (l.trace arrivals).take k, x.2.refusedBy? ≠ some .shared) :
    ((l.trace arrivals).take k).filter remains <+: l'.trace (l.kept arrivals) := by
  induction arrivals generalizing l l' k with
  | nil =>
    rw [trace, List.take_nil]
    exact List.nil_prefix
  | cons a rest ih =>
    cases k with
    | zero => exact List.nil_prefix
    | succ k =>
      obtain ⟨⟨hmem, hfrom, hto⟩, hrest⟩ := List.forall_mem_cons.mp hbrief
      obtain ⟨hdecision, hafter⟩ := check_unbounded h hto hmem
      obtain ⟨hdecision', hafter'⟩ := check_unbounded h' (hidle ▸ hto) hmem
      obtain ⟨_, _, _, hkept⟩ := l.bounds_check a.time a.client
      obtain ⟨_, _, _, hkept'⟩ := l'.bounds_check a.time a.client
      rw [trace, List.take_succ_cons] at hpass ⊢
      obtain ⟨hhead, htail⟩ := List.forall_mem_cons.mp hpass
      have hw : l.shared.wait l.sharedQuota a.time = 0 := by
        by_contra hw
        rw [check_of_wait_ne_zero hw] at hhead
        exact hhead rfl
      cases hr : remains (a, (l.check a.time a.client).1) with
      | true =>
        -- a request that stays comes to both limiters, which decide alike
        obtain ⟨hsame, hlower'⟩ :
            (l'.unbounded.check a.time a.client).1 = (l.unbounded.check a.time a.client).1 ∧
              Lower (l'.unbounded.check a.time a.client).2 (l.unbounded.check a.time a.client).2 := hlower.check hw
        rw [kept, trace, List.filter_cons_of_pos hr, List.filter_cons_of_pos hr, List.map_cons, trace, hdecision',
          hsame, ← hdecision]
        apply (List.prefix_cons_inj _).mpr
        exact ih (h.check hfrom hmem) (h'.check hfrom hmem) (hafter' ▸ hafter ▸ hlower')
          (hkept'.trans (hidle.trans hkept.symm)) (hkept ▸ hrest) htail
      | false =>
        -- a refused request is left out, and the limiter that is spared it stays the lower one
        have hrefused : (l.unbounded.check a.time a.client).1.refusedBy? = some .client := by
          rw [← hdecision]
          simpa [remains] using hr
        have hneg : ¬ remains (a, (l.check a.time a.client).1) = true := by simp [hr]
        rw [kept, trace, List.filter_cons_of_neg hneg, List.filter_cons_of_neg hneg]
        exact ih (h.check hfrom hmem) h' (hafter ▸ hlower.refused hrefused) (hidle.trans hkept.symm)
          (hkept ▸ hrest) htail

/-- In a run in which no entry is dropped, a request that its client's bucket refuses costs the others one draw from
the bucket of all requests and nothing else: with a draw in its place all others are decided as before. If such
requests are left out altogether, the others are decided as before up to the first one that the bucket of all requests
refused. -/
theorem trace_without_refused {s : Settings} {start : Nat} {listing : Listing} (hl : ofSettings? s start listing = .ok l)
    (hord : InOrder arrivals) (hclients : (arrivals.map Arrival.client).toFinset.card ≤ s.maxClients)
    (hbrief : ∀ a ∈ arrivals, ∀ b ∈ arrivals, b.time ≤ a.time + s.idle) :
    l.answers ((l.trace arrivals).map charge) = (l.trace arrivals).filter remains ∧
      ∀ k, (∀ x ∈ (l.trace arrivals).take k, x.2.refusedBy? ≠ some .shared) →
        ((l.trace arrivals).take k).filter remains <+: l.trace (l.kept arrivals) := by
  have hidle : l.idle = s.idle := by
    obtain ⟨p, q, _, _, _, _, rfl⟩ := ofSettings?_eq_ok_iff.mp hl
    rfl
  have hlasting (base : Nat) : Lasting (arrivals.map Arrival.client).toFinset base l :=
    Lasting.ofSettings? hl hclients
  -- the idle time counts from the first arrival
  obtain ⟨base, hbase⟩ : ∃ base, Brief (arrivals.map Arrival.client).toFinset base l.idle arrivals := by
    cases arrivals with
    | nil => exact ⟨0, nofun⟩
    | cons first rest =>
      refine ⟨first.time, ?_⟩
      intro a ha
      refine ⟨List.mem_toFinset.mpr (List.mem_map_of_mem ha), ?_, ?_⟩
      · obtain rfl | ha := List.mem_cons.mp ha
        · exact le_refl _
        · exact (List.pairwise_cons.mp hord).1 a ha
      · rw [hidle]
        exact hbrief first List.mem_cons_self a ha
  refine ⟨answers_charge (hlasting base) (hlasting base) rfl rfl hbase, ?_⟩
  intro k hpass
  exact prefix_trace_kept (hlasting base) (hlasting base) (Lower.refl _) rfl hbase hpass

/-- Two requests at once and one a second in all, one at once and one a second of each client. -/
def tight : Settings :=
  ⟨⟨.ofNat 1, 2⟩, ⟨.ofNat 1, 1⟩, 2, 60000000000⟩

/-- The quota of each client; the one of all requests is the client's of the small limiter. -/
def tightClient : Quota :=
  ⟨1000000000, 1, smallClient.period_pos, Nat.one_pos⟩

/-- The limiter of these settings. -/
def tightLimiter : Limiter :=
  ⟨smallClient, tightClient, 2, 60000000000, .made, Bucket.new 0, ⟨[], 0, 0⟩⟩

/-- The tight settings set up the tight limiter. -/
lemma ofSettings?_tight : ofSettings? tight 0 .made = .ok tightLimiter :=
  ofSettings?_eq_ok_iff.mpr
    ⟨smallClient, tightClient, Rate.quota?_eq_ok_iff.mpr ⟨by decide, rfl⟩, Rate.quota?_eq_ok_iff.mpr ⟨by decide, rfl⟩,
      by decide, by decide, rfl⟩

/-- A client that comes twice at once, and another one after it. -/
def greedy : List Arrival :=
  [⟨0, ['a']⟩, ⟨0, ['a']⟩, ⟨0, ['b']⟩]

/-- The second request of the first client is refused by its own bucket, and yet the other client is refused for it:
without that request it is allowed. -/
theorem refused_client_costs :
    ofSettings? tight 0 .made = .ok tightLimiter ∧ InOrder greedy ∧
      (greedy.map Arrival.client).toFinset.card ≤ tight.maxClients ∧
      (∀ a ∈ greedy, ∀ b ∈ greedy, b.time ≤ a.time + tight.idle) ∧
      tightLimiter.decisions greedy =
        [.allowed, .limited .client 1000000000, .limited .shared 1000000000] ∧
      tightLimiter.decisions (tightLimiter.kept greedy) = [.allowed, .allowed] ∧
      tightLimiter.trace (tightLimiter.kept greedy) ≠ (tightLimiter.trace greedy).filter remains :=
  ⟨ofSettings?_tight, by decide, by decide, by decide, by decide, by decide, by decide⟩

/-- With a draw in the place of the refused request the other client is refused as before, and up to the request
before it nothing changes without. -/
theorem trace_without_refused_greedy :
    ofSettings? tight 0 .made = .ok tightLimiter ∧ InOrder greedy ∧
      (greedy.map Arrival.client).toFinset.card ≤ tight.maxClients ∧
      (∀ a ∈ greedy, ∀ b ∈ greedy, b.time ≤ a.time + tight.idle) ∧
      tightLimiter.answers [.check ⟨0, ['a']⟩, .draw 0, .check ⟨0, ['b']⟩] =
        [(⟨0, ['a']⟩, .allowed), (⟨0, ['b']⟩, .limited .shared 1000000000)] ∧
      (∀ x ∈ (tightLimiter.trace greedy).take 2, x.2.refusedBy? ≠ some .shared) ∧
      ((tightLimiter.trace greedy).take 2).filter remains <+: tightLimiter.trace (tightLimiter.kept greedy) := by
  have hbrief : ∀ a ∈ greedy, ∀ b ∈ greedy, b.time ≤ a.time + tight.idle := by decide
  have hcosts := trace_without_refused ofSettings?_tight (by decide : InOrder greedy) (by decide) hbrief
  have hturns : (tightLimiter.trace greedy).map charge = [.check ⟨0, ['a']⟩, .draw 0, .check ⟨0, ['b']⟩] := by decide
  have hremains : (tightLimiter.trace greedy).filter remains =
      [(⟨0, ['a']⟩, .allowed), (⟨0, ['b']⟩, .limited .shared 1000000000)] := by decide
  have hpass : ∀ x ∈ (tightLimiter.trace greedy).take 2, x.2.refusedBy? ≠ some .shared := by decide
  rw [hturns, hremains] at hcosts
  exact ⟨ofSettings?_tight, by decide, by decide, hbrief, hcosts.1, hpass, hcosts.2 2 hpass⟩

end ApiGateway.Limiter
