import ApiGateway.Discovery.Error
import ApiGateway.Metrics.Basic
import ApiGateway.Topology

/-!
# One refresh

A resolver answers after some time. A refresh waits for the answer no longer than its limit and then
records what came of it: a snapshot is published, and a failure takes the readiness away.
-/

namespace ApiGateway.Discovery

/-- How a resolver answers one call, and after what time. -/
structure Resolution where
  delay : Nat
  answer : Except Error Snapshot

namespace Resolution

/-- How long a refresh with the limit takes. -/
def duration (limit : Nat) (r : Resolution) : Nat :=
  min r.delay limit

/-- What comes of a refresh with the limit: an answer that comes later is a failure. -/
def outcome (limit : Nat) (r : Resolution) : Except Error Snapshot :=
  if r.delay ≤ limit then r.answer else .error (.timeout limit)

/-- No refresh takes longer than the limit. -/
theorem duration_le (limit : Nat) (r : Resolution) : r.duration limit ≤ limit :=
  Nat.min_le_right _ _

end Resolution

/-- What is known after a refresh. -/
def settle (outcome : Except Error Snapshot) (t : Topology) : Topology :=
  match outcome with
  | .ok snapshot => t.publish snapshot
  | .error e => t.fail e.message

/-- The metrics after a refresh. -/
def count (outcome : Except Error Snapshot) (m : Metrics) : Metrics :=
  match outcome with
  | .ok snapshot => m.recordSuccess snapshot.resolvedAt.unixSeconds
  | .error _ => m.recordFailure

end ApiGateway.Discovery
