import ApiGateway.Gateway.Pipeline
import ApiGateway.Proofs.Limiter.Retention
import Mathlib.Order.Bounds.Defs

/-!
# Waiting is enough, and nothing less is

A client that is refused is told how long to wait. Its next request after that time is not refused by the same bucket,
and one before it is refused again, by a bucket whose entry was not swept meanwhile (`retry_of_limited`). The header
of the answer has the least number of whole seconds, but at least one, that covers the wait.

Both buckets are read as they were left: the one of all requests by `check_of_wait_ne_zero`, which changes nothing, and
the one of the client by `check_of_found`, from the entry that a refused request leaves (`find?_of_refused`).
-/

namespace ApiGateway

namespace Limiter

variable {s : Settings} {now : Nat} {l : Limiter} {client : Client}

/-- A request of a known client that passes the bucket of all requests is decided by the client's bucket as the table
has it, or else the entry was idle for too long and the request is allowed. -/
lemma check_of_found (h : Reached s now l) {e : Entry} (hfound : l.table.find? client = some e)
    (hw : l.shared.wait l.sharedQuota now = 0) :
    (l.check now client).1 = .ofWait .client (e.bucket.wait l.clientQuota now) ∨
      s.idle < now - e.lastSeen ∧ (l.check now client).1 = .allowed := by
  obtain ⟨hmem, hclient⟩ := Table.mem_of_find? hfound
  have hdecision : (l.check now client).1 =
      .ofWait .client (((l.roomy now client).bucket now client).wait l.clientQuota now) := by
    rw [check_of_wait_eq_zero hw]
  rw [hdecision, Table.bucket]
  cases hroomy : (l.roomy now client).find? client with
  | some x =>
    have hold := Table.find?_of_sublist h.sound.table.distinct (Table.sublist_makeRoom _ _ _ _ _ _) hroomy
    cases hfound.symm.trans hold
    exact .inl rfl
  | none =>
    subst hclient
    obtain hlong | ⟨_, hnew, _⟩ := Table.of_dropped h.sound.table.distinct h.bounded.size hmem hroomy
    · exact .inr ⟨h.idle ▸ hlong, ofWait_eq_allowed_iff.mpr (Bucket.wait_new l.clientQuota now now)⟩
    · cases hfound.symm.trans hnew

/-- A request that the bucket of its client refuses leaves that bucket in the table, as it was. -/
lemma find?_of_refused (h : Reached s now l) {wait : Nat} (hc : (l.check now client).1 = .limited .client wait) :
    wait ≠ 0 ∧ ∃ b : Bucket, b.start ≤ now ∧ b.wait l.clientQuota now = wait ∧
      (l.check now client).2.table.find? client = some ⟨client, b, now⟩ := by
  by_cases hw : l.shared.wait l.sharedQuota now = 0
  · rw [check_of_wait_eq_zero hw] at hc ⊢
    unfold Decision.ofWait at hc
    split at hc
    · cases hc
    · next hne =>
      cases hc
      refine ⟨hne, _, ((h.sound.roomy client).bucket client).1, rfl, ?_⟩
      rw [Table.find?_put, if_pos rfl, Bucket.check_eq, if_neg hne]
  · rw [check_of_wait_ne_zero hw] at hc
    cases hc

/-- After a request that the bucket of all requests refused, that bucket refuses the next one just until the wait is
over. -/
lemma again_of_shared (h : Reached s now l) {wait : Nat}
    (hlimited : (l.check now client).1 = .limited .shared wait) :
    0 < wait ∧
      (∀ later, now + wait ≤ later → ((l.check now client).2.check later client).1.refusedBy? ≠ some .shared) ∧
      ∀ early, early < wait →
        ((l.check now client).2.check (now + early) client).1 = .limited .shared (wait - early) := by
  have hw : l.shared.wait l.sharedQuota now ≠ 0 := by
    apply refusedBy?_check_eq_shared_iff.mp
    rw [hlimited]
    rfl
  have hcheck := check_of_wait_ne_zero hw client
  have hsame : (l.check now client).2 = l := congrArg Prod.snd hcheck
  rw [hcheck] at hlimited
  cases hlimited
  rw [hsame]
  refine ⟨Nat.pos_of_ne_zero hw, ?_, ?_⟩
  · intro later hle hrefused
    have hleft := Bucket.wait_later (q := l.sharedQuota) h.started (Nat.le_of_add_right_le hle)
    exact refusedBy?_check_eq_shared_iff.mp hrefused (by omega)
  · intro early hearly
    have hleft := Bucket.wait_later (q := l.sharedQuota) h.started (Nat.le_add_right now early)
    rw [Nat.add_sub_cancel_left] at hleft
    have hagain : l.shared.wait l.sharedQuota (now + early) ≠ 0 := by omega
    rw [check_of_wait_ne_zero hagain, hleft]

/-- After a request that the bucket of its client refused, that bucket does not refuse the next one once the wait is
over. Until then one of the two buckets refuses it, unless the client may have been forgotten. -/
lemma again_of_client (h : Reached s now l) {wait : Nat}
    (hlimited : (l.check now client).1 = .limited .client wait) :
    0 < wait ∧
      (∀ later, now + wait ≤ later → ((l.check now client).2.check later client).1.refusedBy? ≠ some .client) ∧
      ∀ early, early < wait → early ≤ s.idle →
        ((l.check now client).2.check (now + early) client).1.isAllowed = false := by
  obtain ⟨hne, b, hstart, hwait, hfound⟩ := find?_of_refused h hlimited
  have hreached := h.check client
  rw [← (l.bounds_check now client).2.1] at hwait
  -- from here on nothing counts but the entry that the refused request has left
  generalize (l.check now client).2 = l' at hfound hreached hwait ⊢
  refine ⟨Nat.pos_of_ne_zero hne, ?_, ?_⟩
  · intro later hle
    have hnow := Nat.le_of_add_right_le hle
    by_cases hw : l'.shared.wait l'.sharedQuota later = 0
    · have hleft := Bucket.wait_later (q := l'.clientQuota) hstart hnow
      have hover : b.wait l'.clientQuota later = 0 := by omega
      have hallowed : (l'.check later client).1 = .allowed := by
        obtain heq | ⟨_, heq⟩ := check_of_found (hreached.mono hnow) hfound hw
        · exact heq.trans (ofWait_eq_allowed_iff.mpr hover)
        · exact heq
      rw [hallowed]
      nofun
    · rw [check_of_wait_ne_zero hw]
      nofun
  · intro early hearly hidle
    have hnow := Nat.le_add_right now early
    by_cases hw : l'.shared.wait l'.sharedQuota (now + early) = 0
    · have hleft := Bucket.wait_later (q := l'.clientQuota) hstart hnow
      rw [Nat.add_sub_cancel_left] at hleft
      have hagain : b.wait l'.clientQuota (now + early) ≠ 0 := by omega
      obtain heq | ⟨hlong, _⟩ := check_of_found (hreached.mono hnow) hfound hw
      · rw [heq, Decision.ofWait, if_neg hagain]
        rfl
      · -- the entry was seen when the request was refused
        rw [Nat.add_sub_cancel_left] at hlong
        exact absurd hidle (Nat.not_le_of_lt hlong)
    · rw [check_of_wait_ne_zero hw]
      rfl

end Limiter

namespace Gateway

/-- The seconds that a client is told to wait are the least number from one on that covers the wait. -/
lemma isLeast_retryAfterSecs (wait : Nat) :
    IsLeast {n | 1 ≤ n ∧ wait ≤ Time.ofSeconds n} (retryAfterSecs wait) := by
  refine ⟨⟨le_max_left _ _, ?_⟩, ?_⟩
  · exact (Time.le_secondsUp wait).trans (Nat.mul_le_mul_right _ (le_max_right _ _))
  · rintro n ⟨hone, hcovers⟩
    exact max_le hone (Time.secondsUp_le_iff.mpr hcovers)

/-- The answer to a refused request tells these seconds in one header field. -/
lemma values_tooManyRequests (wait : Nat) :
    (tooManyRequests wait).headers.values "retry-after" =
      [.ofAscii (Number.digits (retryAfterSecs wait))] := by
  rfl

end Gateway

namespace Limiter

/-- A refused request has a wait ahead of it. If its client makes no other request until it is over, the next one is
not refused by the same bucket; one that comes earlier is refused again, by the bucket of all requests if that did it
before, and by one of the two if the client's bucket did and the entry cannot have been swept. -/
theorem retry_of_limited {s : Settings} {start now : Nat} {listing : Listing} {l : Limiter}
    (hl : ofSettings? s start listing = .ok l)
    {arrivals : List Arrival} (hord : InOrder arrivals) (hfrom : ∀ a ∈ arrivals, start ≤ a.time)
    (hto : ∀ a ∈ arrivals, a.time ≤ now) (hnow : start ≤ now) {client : Client} {scope : Scope} {wait : Nat}
    (hlimited : ((l.after arrivals).check now client).1 = .limited scope wait) :
    0 < wait ∧
      (∀ later, now + wait ≤ later →
        (((l.after arrivals).check now client).2.check later client).1.refusedBy? ≠ some scope) ∧
      (∀ early, early < wait → scope = .shared →
        (((l.after arrivals).check now client).2.check (now + early) client).1 = .limited .shared (wait - early)) ∧
      (∀ early, early < wait → scope = .client → early ≤ s.idle →
        (((l.after arrivals).check now client).2.check (now + early) client).1.isAllowed = false) ∧
      (Gateway.tooManyRequests wait).headers.values "retry-after" =
        [.ofAscii (Number.digits (Gateway.retryAfterSecs wait))] ∧
      IsLeast {n | 1 ≤ n ∧ wait ≤ Time.ofSeconds n} (Gateway.retryAfterSecs wait) ∧
      ∀ later, now + Time.ofSeconds (Gateway.retryAfterSecs wait) ≤ later →
        (((l.after arrivals).check now client).2.check later client).1.refusedBy? ≠ some scope := by
  have hreached := (Reached.ofSettings? hl).after hord hfrom hto hnow
  have hheader := Gateway.values_tooManyRequests wait
  have hleast := Gateway.isLeast_retryAfterSecs wait
  -- whole seconds are no shorter than the wait
  have hcovers : ∀ later, now + Time.ofSeconds (Gateway.retryAfterSecs wait) ≤ later → now + wait ≤ later :=
    fun _ hle => (Nat.add_le_add_left hleast.1.2 now).trans hle
  cases scope with
  | shared =>
    obtain ⟨hwait, hlater, hearly⟩ := again_of_shared hreached hlimited
    exact ⟨hwait, hlater, fun early h _ => hearly early h, nofun, hheader, hleast,
      fun later hle => hlater later (hcovers later hle)⟩
  | client =>
    obtain ⟨hwait, hlater, hearly⟩ := again_of_client hreached hlimited
    exact ⟨hwait, hlater, nofun, fun early h _ => hearly early h, hheader, hleast,
      fun later hle => hlater later (hcovers later hle)⟩

/-- Three requests at once of a client that may make two. -/
def impatient : List Arrival :=
  List.replicate 2 ⟨0, ['a']⟩

/-- The third request has to wait for a second, and after a flood the next one of another client for a tenth of that.
Half of the time is not enough for either. -/
theorem retry_impatient :
    ofSettings? small 0 .latest = .ok smallLimiter ∧ InOrder impatient ∧ InOrder flooding ∧ (∀ a ∈ impatient, 0 ≤ a.time) ∧
      (∀ a ∈ flooding, 0 ≤ a.time) ∧ (∀ a ∈ impatient, a.time ≤ 0) ∧ (∀ a ∈ flooding, a.time ≤ 0) ∧ 0 ≤ 0 ∧
      ((smallLimiter.after impatient).check 0 ['a']).1 = .limited .client 1000000000 ∧
      (((smallLimiter.after impatient).check 0 ['a']).2.check 1000000000 ['a']).1.refusedBy? ≠ some .client ∧
      (((smallLimiter.after impatient).check 0 ['a']).2.check 500000000 ['a']).1.isAllowed = false ∧
      IsLeast {n | 1 ≤ n ∧ 1000000000 ≤ Time.ofSeconds n} (Gateway.retryAfterSecs 1000000000) ∧
      ((smallLimiter.after flooding).check 0 ['b']).1 = .limited .shared 100000000 ∧
      (((smallLimiter.after flooding).check 0 ['b']).2.check 100000000 ['b']).1.refusedBy? ≠ some .shared ∧
      (((smallLimiter.after flooding).check 0 ['b']).2.check 50000000 ['b']).1 = .limited .shared 50000000 ∧
      IsLeast {n | 1 ≤ n ∧ 100000000 ≤ Time.ofSeconds n} (Gateway.retryAfterSecs 100000000) := by
  have hord : InOrder impatient := by decide
  have hinstant : ∀ a ∈ impatient, a.time ≤ 0 := by decide
  have hlimited : ((smallLimiter.after impatient).check 0 ['a']).1 = .limited .client 1000000000 := by decide
  obtain ⟨_, hlater, _, hearly, _, hleast, _⟩ := retry_of_limited ofSettings?_small hord
    (fun a _ => Nat.zero_le a.time) hinstant (le_refl 0) hlimited
  have hford : InOrder flooding := by decide
  have hfinstant : ∀ a ∈ flooding, a.time ≤ 0 := by decide
  have hflimited : ((smallLimiter.after flooding).check 0 ['b']).1 = .limited .shared 100000000 := by decide +kernel
  obtain ⟨_, hflater, hfearly, _, _, hfleast, _⟩ := retry_of_limited ofSettings?_small hford
    (fun a _ => Nat.zero_le a.time) hfinstant (le_refl 0) hflimited
  exact ⟨ofSettings?_small, hord, hford, fun a _ => Nat.zero_le a.time, fun a _ => Nat.zero_le a.time, hinstant,
    hfinstant, le_refl 0, hlimited, hlater 1000000000 (le_refl _), hearly 500000000 (by decide) rfl (by decide), hleast,
    hflimited, hflater 100000000 (le_refl _), hfearly 50000000 (by decide) rfl, hfleast⟩

end Limiter

end ApiGateway
