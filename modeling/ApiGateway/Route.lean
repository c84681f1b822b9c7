import ApiGateway.Backend
import ApiGateway.Text.Blank

/-!
# Routes

A path is served by the gateway itself if it is one of the probe paths, and otherwise by the backend of
the first rule that matches it. A rule matches the paths that begin with its text; a rule for whole
segments asks that the text ends at a slash or at the end of the path. `Route.label` names the family of
a path in metrics, so that there are as many names as families and not as many as paths.
-/

namespace ApiGateway

/-- A path that the gateway answers itself: whether the process lives, whether the last resolution succeeded, or
its metrics. -/
inductive Probe where
  | health
  | readiness
  | metrics
  deriving DecidableEq, Repr

namespace Probe

/-- All probes. -/
def all : List Probe := [.health, .readiness, .metrics]

/-- The name of the probe in metrics. -/
def name : Probe → String
  | .health => "healthz"
  | .readiness => "readyz"
  | .metrics => "metrics"

/-- The path of the probe. -/
def path (p : Probe) : List Char :=
  '/' :: p.name.toList

/-- The probe of a path. -/
def ofPath? (path : List Char) : Option Probe :=
  all.find? fun p => p.path = path

/-- The paths that need no credential and are never limited. -/
def exemptPaths : List (List Char) :=
  ["/healthz".toList, "/readyz".toList, "/metrics".toList]

/-- Holds for these paths. -/
def isExempt (path : List Char) : Bool :=
  exemptPaths.contains path

/-- There are no other probes. -/
theorem mem_all (p : Probe) : p ∈ all := by
  cases p <;> simp [all]

/-- The path of a probe is recognised. -/
theorem ofPath?_path (p : Probe) : ofPath? p.path = some p := by
  cases p <;> decide

/-- A path that is recognised is that of the probe. -/
theorem path_of_ofPath? {path : List Char} {p : Probe} (h : ofPath? path = some p) :
    p.path = path := by
  simpa using List.find?_some h

/-- The exempt paths are those of the probes. -/
theorem isExempt_eq (path : List Char) : isExempt path = (ofPath? path).isSome := by
  have hpaths : exemptPaths = all.map Probe.path := by decide
  have hone (p : Probe) : (path == p.path) = decide (p.path = path) := by
    rw [Bool.eq_iff_iff, beq_iff_eq, decide_eq_true_iff, eq_comm]
  rw [isExempt, hpaths, ofPath?, List.isSome_find?, List.contains_eq_any_beq, List.any_map]
  exact congrArg all.any (funext hone)

end Probe

namespace Route

/-- Which paths a rule matches: those that begin with the text, or those that begin with it followed by a slash or
nothing. -/
inductive Pattern where
  | leading (text : List Char)
  | segments (text : List Char)
  deriving DecidableEq, Repr

namespace Pattern

/-- The text of the pattern. -/
def text : Pattern → List Char
  | .leading t => t
  | .segments t => t

/-- Holds for the paths of the pattern. -/
def isMatch (p : Pattern) (path : List Char) : Bool :=
  match p, Text.after? p.text path with
  | _, none => false
  | .leading _, some _ => true
  | .segments _, some rest => rest.head?.all (· == '/')

end Pattern

/-- A rule: the paths of the pattern belong to the backend. -/
structure Rule where
  pattern : Pattern
  backend : Backend
  deriving DecidableEq, Repr

/-- The rules, the most specific one first. -/
def rules : List Rule :=
  [ ⟨.leading "/api/v1/release-analyzer".toList, .analyzer⟩,
    ⟨.leading "/ws".toList, .primary⟩,
    ⟨.segments "/api".toList, .primary⟩ ]

/-- The first rule that matches the path. -/
def rule? (path : List Char) : Option Rule :=
  rules.find? fun r => r.pattern.isMatch path

/-- The backend that serves the path. -/
def backend? (path : List Char) : Option Backend :=
  (rule? path).map Rule.backend

/-- The name that metrics give to a backend's paths. -/
def familyName : Option Backend → String
  | some .primary => "primary"
  | some .analyzer => "analyzer"
  | none => "unmatched"

/-- The name that metrics give to the family of a path. -/
def label (path : List Char) : String :=
  match Probe.ofPath? path with
  | some p => p.name
  | none => familyName (backend? path)

end Route

end ApiGateway
