import ApiGateway.Backend
import ApiGateway.Url.Basic

/-!
# The published topology

A snapshot says where the backends are. The topology holds the last snapshot that was resolved, and
whether the last resolution succeeded. A failed resolution takes the readiness away and leaves the
snapshot.
-/

namespace ApiGateway

/-- A reading of the wall clock: the seconds since the epoch, and the time as text. -/
structure Stamp where
  unixSeconds : Int
  text : String
  deriving DecidableEq, Repr, Inhabited

/-- Where the backends are, and when this was found. -/
structure Snapshot where
  primary : Option Url
  analyzer : Option Url
  resolvedAt : Stamp
  deriving DecidableEq, Repr, Inhabited

namespace Snapshot

/-- Where a backend is. -/
def url? (s : Snapshot) : Backend → Option Url
  | .primary => s.primary
  | .analyzer => s.analyzer

end Snapshot

/-- What is known of the backends: the last snapshot, whether the last resolution succeeded, and why it failed if
it did. -/
structure Topology where
  snapshot : Option Snapshot := none
  ready : Bool := false
  lastError : Option String := none
  deriving DecidableEq, Repr, Inhabited

namespace Topology

/-- After a resolution that succeeded. -/
def publish (snapshot : Snapshot) (_ : Topology) : Topology :=
  { snapshot := some snapshot, ready := true, lastError := none }

/-- After a resolution that failed. -/
def fail (message : String) (t : Topology) : Topology :=
  { t with ready := false, lastError := some message }

/-- A failure leaves the last snapshot. -/
theorem snapshot_fail (message : String) (t : Topology) :
    (t.fail message).snapshot = t.snapshot := rfl

end Topology

end ApiGateway
