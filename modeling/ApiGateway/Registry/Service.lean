import ApiGateway.Discovery.Error
import ApiGateway.Url.Parser

/-!
# Services of a registry

A registry lists services by a selector. Of several services for one backend the one with the least name
is taken, whatever the order of the list, and of its ports the one named `http` or else the first. The
URL of a service is made of its name, its namespace and the domain of the cluster.
-/

namespace ApiGateway.Registry

/-- A port of a service. -/
structure ServicePort where
  name : Option String
  number : Int
  deriving DecidableEq, Repr, Inhabited

/-- A service of the registry: its name, its namespace and its ports. -/
structure Service where
  name : Option String
  home : Option String
  ports : List ServicePort
  deriving DecidableEq, Repr, Inhabited

/-- The service with the lesser name, the first one if the names are equal. -/
def lesser (a b : Service) : Service :=
  match a.name, b.name with
  | some n, some m => if m < n then b else a
  | none, some _ => b
  | _, none => a

/-- The service with the least name among those that have one, the first of equals. -/
def pick (services : List Service) : Option Service :=
  match services.filter fun s => s.name.isSome with
  | [] => none
  | s :: rest => some (rest.foldl lesser s)

/-- The name of the port that is preferred. -/
def preferredPort : String := "http"

/-- The preferred port, or else the first one. -/
def pickPort (ports : List ServicePort) : Option ServicePort :=
  match ports.find? fun p => p.name = some preferredPort with
  | some p => some p
  | none => ports.head?

/-- The text of the URL of a service. -/
def urlText (name home domain : String) (port : Int) : List Char :=
  "http://".toList ++ name.toList ++ '.' :: home.toList ++ ".svc.".toList ++
    Text.strip (· == '.') domain.toList ++ ':' :: (Number.intText port).toList

/-- The URL of a service. -/
def serviceUrl? (s : Service) (home domain : String) (backend : Backend) :
    Except Discovery.Error Url :=
  let name := s.name.getD ""
  match pickPort s.ports with
  | none => .error (.noPort backend name)
  | some port =>
    let raw := urlText name (s.home.getD home) domain port.number
    match Url.ofChars? raw with
    | .ok url => .ok url
    | .error e => .error (.invalidUrl (String.ofList raw) e.message)

/-- The URL of a backend for which the registry lists the services. A backend that need not be there is
absent if it has no usable URL. -/
def select? (services : List Service) (backend : Backend) (selector : String) (required : Bool)
    (home domain : String) : Except Discovery.Error (Option Url) :=
  match pick services with
  | none => if required then .error (.noMatch backend selector) else .ok none
  | some s =>
    match serviceUrl? s home domain backend with
    | .ok url => .ok (some url)
    | .error e => if required then .error e else .ok none

end ApiGateway.Registry
