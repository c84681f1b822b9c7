import ApiGateway.Backend
import ApiGateway.Time.Duration

/-!
# Why a resolution fails
-/

namespace ApiGateway.Discovery

/-- Why the backends could not be found: it took longer than it may; no service carries the labels of a backend
that there has to be; the service of a backend has no port; the registry did not answer; or the location of a
backend is no URL. -/
inductive Error where
  | timeout (limit : Nat)
  | noMatch (backend : Backend) (selector : String)
  | noPort (backend : Backend) (service : String)
  | registry (message : String)
  | invalidUrl (url reason : String)
  deriving DecidableEq, Repr

namespace Error

/-- The message for the error. -/
def message : Error → String
  | .timeout limit => "Topology resolution timed out after " ++ Time.durationText limit
  | .noMatch backend selector =>
    "No service matches selector '" ++ selector ++ "' for required backend " ++ backend.name
  | .noPort backend service =>
    "Service '" ++ service ++ "' selected for " ++ backend.name ++ " exposes no ports"
  | .registry message => "Service registry query failed: " ++ message
  | .invalidUrl url reason => "Invalid upstream URL '" ++ url ++ "': " ++ reason

end Error

end ApiGateway.Discovery
