/-!
# Backends

The gateway stands in front of two services: the primary one, and an analyzer that need not be deployed.
-/

namespace ApiGateway

/-- A service behind the gateway: that of the metrics, or the release analyzer. -/
inductive Backend where
  | primary
  | analyzer
  deriving DecidableEq, Repr, Inhabited

namespace Backend

/-- The name of the backend in messages and metrics. -/
def name : Backend → String
  | .primary => "primary-api"
  | .analyzer => "analyzer"

/-- The backend of a name. -/
def ofName? (name : String) : Option Backend :=
  [Backend.primary, .analyzer].find? fun b => b.name = name

end Backend

end ApiGateway
