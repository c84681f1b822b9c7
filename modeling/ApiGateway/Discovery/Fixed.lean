import ApiGateway.Discovery.Error
import ApiGateway.Topology
import ApiGateway.Url.Parser

/-!
# Fixed locations

Backends that are not looked up have locations in the settings, which are read once.
-/

namespace ApiGateway.Discovery

/-- The URL that a text gives for a backend; blanks around it are dropped. -/
def location? (raw : String) : Except Error Url :=
  match Url.ofChars? (Text.trim raw.toList) with
  | .ok url => .ok url
  | .error e => .error (.invalidUrl raw e.message)

/-- The fixed locations of the backends; a blank one for the analyzer means that there is none. -/
def fixed? (primary : String) (analyzer : Option String) (resolvedAt : Stamp) :
    Except Error Snapshot := do
  let primary ← location? primary
  let analyzer ← match (analyzer.map Text.trimmed).filter (· != "") with
    | none => pure none
    | some raw => some <$> location? raw
  return { primary := some primary, analyzer, resolvedAt }

/-- The message for fixed locations that cannot be read. -/
def fixedMessage (e : Error) : String :=
  "Invalid static upstream configuration: " ++ e.message

end ApiGateway.Discovery
