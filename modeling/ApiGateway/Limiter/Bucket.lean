import ApiGateway.Limiter.Quota

/-!
# Buckets

A bucket admits requests at the pace of its quota. It keeps one time, the *due time*: when the next
request would be due if requests came one per period. A request may come early by the tolerance of the
quota; it then moves the due time on by a period. Times count from the bucket's creation.
-/

namespace ApiGateway.Limiter

/-- A bucket: when it was created and, once there was a request, when the next one is due, counted from then. -/
structure Bucket where
  start : Nat
  due : Option Nat
  deriving DecidableEq, Repr

namespace Bucket

/-- A bucket that has seen no request. -/
def new (now : Nat) : Bucket :=
  ⟨now, none⟩

/-- When the next request is due, counted from `start`. -/
def dueAt (b : Bucket) (now : Nat) : Nat :=
  b.due.getD (now - b.start)

/-- The earliest time at which a request may come, counted from `start`. -/
def earliest (q : Quota) (b : Bucket) (now : Nat) : Nat :=
  b.dueAt now - q.tolerance

/-- How long a request has to wait; nothing if it may come. -/
def wait (q : Quota) (b : Bucket) (now : Nat) : Nat :=
  b.earliest q now - (now - b.start)

/-- The bucket after a request that may come. -/
def take (q : Quota) (b : Bucket) (now : Nat) : Bucket :=
  { b with due := some (max (b.dueAt now) (now - b.start) + q.period) }

/-- Decides about a request: the wait that is left, and the bucket after it. A request that has to wait
leaves the bucket as it was. -/
def check (q : Quota) (b : Bucket) (now : Nat) : Nat × Bucket :=
  let w := b.wait q now
  if w = 0 then (0, b.take q now) else (w, b)

end Bucket

end ApiGateway.Limiter
