import ApiGateway.Discovery.Refresh
import ApiGateway.Registry.Service
import ApiGateway.Settings.Basic

/-!
# Resolution through a registry

The primary backend is looked up first and has to be there; the analyzer is looked up after it. A
registry that does not answer fails the resolution, whichever backend it was asked for. Both look-ups
share one limit.
-/

namespace ApiGateway.Registry

/-- A registry: the services that carry the labels of a selector, or why it does not answer. -/
abbrev Listing := String → Except Discovery.Error (List Service)

/-- The message for a registry that does not answer. -/
def listingFailure (selector detail : String) : String :=
  "listing services '" ++ selector ++ "'" ++ detail

/-- The message for a registry to which there is no way. -/
def clientMessage : String := "Failed to create Kubernetes client"

/-- The URL of a backend according to the registry. -/
def resolveBackend? (list : Listing) (settings : Settings) (backend : Backend) (selector : String)
    (required : Bool) : Except Discovery.Error (Option Url) := do
  let services ← list selector
  select? services backend selector required settings.discoveryNamespace settings.clusterDomain

/-- Where the backends are according to the registry. -/
def resolve? (list : Listing) (settings : Settings) (now : Stamp) :
    Except Discovery.Error Snapshot := do
  let primary ← resolveBackend? list settings .primary settings.primarySelector true
  let analyzer ←
    resolveBackend? list settings .analyzer settings.analyzerSelector settings.analyzerRequired
  return { primary, analyzer, resolvedAt := now }

/-- The resolution through a registry that takes a time of its own for each selector. The analyzer is
asked for once the primary backend is found. -/
def resolution (list : Listing) (wait : String → Nat) (settings : Settings) (now : Stamp) :
    Discovery.Resolution where
  delay :=
    match resolveBackend? list settings .primary settings.primarySelector true with
    | .ok _ => wait settings.primarySelector + wait settings.analyzerSelector
    | .error _ => wait settings.primarySelector
  answer := resolve? list settings now

end ApiGateway.Registry
