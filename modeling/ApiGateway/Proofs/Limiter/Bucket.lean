import ApiGateway.Limiter.Bucket
import Mathlib.Tactic.Lemma

/-!
# Buckets on one clock

A bucket counts its due time from its own creation. `Bucket.level` is the same time on the clock that
all buckets share, and it is all that later requests can tell of a bucket: the wait is what the level
exceeds the time and the tolerance by (`Bucket.wait_eq`), and a request that may come moves the level on
by a period (`Bucket.level_check`). A clock that stands before the creation of a bucket reads as the
creation, hence the `max` with `start`.

`Bucket.Within` is the invariant of a bucket: its level is ahead of the clock by the burst in periods at
the most. Every check keeps it (`Bucket.Within.check`), whatever was asked before.
-/

namespace ApiGateway.Limiter

/-- The tolerance and one period are the burst in periods. -/
lemma Quota.tolerance_add_period (q : Quota) : q.tolerance + q.period = q.period * q.burst := by
  obtain ⟨n, hn⟩ := Nat.exists_eq_add_of_le' q.burst_pos
  rw [Quota.tolerance, hn, Nat.add_sub_cancel, Nat.mul_succ]

namespace Bucket

/-- When the next request is due, on the clock of all buckets; for a new bucket its creation. -/
def level (b : Bucket) : Nat :=
  b.start + b.due.getD 0

/-- The level of a new bucket is its creation. -/
lemma level_new (now : Nat) : (new now).level = now := rfl

/-- The level is never before the creation. -/
lemma start_le_level (b : Bucket) : b.start ≤ b.level :=
  Nat.le_add_right _ _

/-- The wait is what the level exceeds the clock and the tolerance by. -/
lemma wait_eq (q : Quota) (b : Bucket) (now : Nat) :
    b.wait q now = b.level - (q.tolerance + max b.start now) := by
  obtain ⟨start, due⟩ := b
  cases due with
  | none => simp only [wait, earliest, dueAt, level, Option.getD_none]; omega
  | some d => simp only [wait, earliest, dueAt, level, Option.getD_some]; omega

/-- A bucket that has seen no request lets one pass at once. -/
lemma wait_new (q : Quota) (start now : Nat) : (new start).wait q now = 0 := by
  have hstart : (new start).start = start := rfl
  rw [wait_eq, level_new, hstart]
  omega

/-- What is left of a wait shrinks as the clock goes on. -/
lemma wait_later {q : Quota} {b : Bucket} {now later : Nat} (hstart : b.start ≤ now) (hle : now ≤ later) :
    b.wait q later = b.wait q now - (later - now) := by
  rw [wait_eq, wait_eq, Nat.max_eq_right hstart, Nat.max_eq_right (Nat.le_trans hstart hle)]
  omega

/-- The level after a request that may come is a period after the level or the clock. -/
lemma level_take (q : Quota) (b : Bucket) (now : Nat) :
    (b.take q now).level = max b.level now + q.period := by
  obtain ⟨start, due⟩ := b
  cases due with
  | none => simp only [take, dueAt, level, Option.getD_none, Option.getD_some]; omega
  | some d => simp only [take, dueAt, level, Option.getD_some]; omega

/-- A check takes from the bucket exactly if there is no wait. -/
lemma check_eq (q : Quota) (b : Bucket) (now : Nat) :
    b.check q now = if b.wait q now = 0 then (0, b.take q now) else (b.wait q now, b) := rfl

/-- A check answers with the wait. -/
lemma fst_check (q : Quota) (b : Bucket) (now : Nat) : (b.check q now).1 = b.wait q now := by
  rw [check_eq]
  split
  · next h => exact h.symm
  · rfl

/-- A check leaves the creation of the bucket. -/
lemma start_check (q : Quota) (b : Bucket) (now : Nat) : (b.check q now).2.start = b.start := by
  rw [check_eq]
  split <;> rfl

/-- The level after a check. -/
lemma level_check (q : Quota) (b : Bucket) (now : Nat) :
    (b.check q now).2.level =
      if b.wait q now = 0 then max b.level now + q.period else b.level := by
  rw [check_eq]
  split
  · exact level_take q b now
  · rfl

/-- Where two levels differ before the clock only, both buckets make a request wait the same time. -/
lemma wait_congr {q : Quota} {a b : Bucket} {now : Nat} (ha : a.start ≤ now) (hb : b.start ≤ now)
    (h : max a.level now = max b.level now) : a.wait q now = b.wait q now := by
  rw [wait_eq, wait_eq, Nat.max_eq_right ha, Nat.max_eq_right hb]
  omega

/-- Where two levels differ before the clock only, they do so after a check of both buckets. -/
lemma level_check_congr {q : Quota} {a b : Bucket} {now : Nat} (ha : a.start ≤ now) (hb : b.start ≤ now)
    (h : max a.level now = max b.level now) :
    max (a.check q now).2.level now = max (b.check q now).2.level now := by
  rw [level_check, level_check, wait_congr ha hb h, h]
  split
  · rfl
  · exact h

/-- The level of a bucket that need not be there; without one it is zero. -/
def level? (b : Option Bucket) : Nat :=
  (b.map level).getD 0

/-- Without a bucket the level is zero. -/
@[simp] lemma level?_none : level? none = 0 := rfl

/-- With a bucket the level is that of the bucket. -/
@[simp] lemma level?_some (b : Bucket) : level? (some b) = b.level := rfl

/-- A new bucket in the place of none does not change what the level is from the clock on. -/
lemma max_level_getD (b : Option Bucket) (now : Nat) :
    max (b.getD (new now)).level now = max (level? b) now := by
  cases b with
  | none => rw [Option.getD_none, level_new, level?_none]; omega
  | some b => rfl

/-- A new bucket in the place of none only raises the level. -/
lemma level?_le_level_getD (b : Option Bucket) (now : Nat) : level? b ≤ (b.getD (new now)).level := by
  cases b with
  | none => exact Nat.zero_le _
  | some b => exact Nat.le_refl _

/-- The level is ahead of the clock by the burst in periods at the most. -/
def Within (q : Quota) (now : Nat) (b : Bucket) : Prop :=
  b.level ≤ max b.start now + q.period * q.burst

namespace Within

/-- A new bucket is within its quota at every time. -/
lemma new (q : Quota) (now later : Nat) : (Bucket.new now).Within q later := by
  have h : (Bucket.new now).level = (Bucket.new now).start := rfl
  rw [Within, h]
  omega

/-- Time only brings a bucket further within its quota. -/
lemma mono {q : Quota} {now later : Nat} {b : Bucket} (h : b.Within q now) (hle : now ≤ later) :
    b.Within q later := by
  unfold Within at h ⊢
  omega

/-- A check keeps a bucket within its quota. -/
lemma check {q : Quota} {now : Nat} {b : Bucket} (h : b.Within q now) :
    (b.check q now).2.Within q now := by
  unfold Within at h ⊢
  rw [start_check, level_check]
  split
  · next hw =>
    -- the request came early by the tolerance at most, and a period on top of it is the burst
    rw [wait_eq] at hw
    have ht := q.tolerance_add_period
    have hs := b.start_le_level
    omega
  · exact h

end Within

end Bucket

end ApiGateway.Limiter
