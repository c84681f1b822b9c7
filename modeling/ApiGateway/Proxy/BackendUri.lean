import ApiGateway.Http.Uri
import ApiGateway.Url.Basic

/-!
# Where a request goes

The target of a request to a backend is the base URL of the backend with the path and the query of the
inbound target after it. The authority is the base URL's alone.
-/

namespace ApiGateway.Proxy

open Http

/-- Why there is no target: the base URL has no host, or the parts do not make up a target. -/
inductive BackendUriError where
  | noHost
  | invalid (error : UriError)
  deriving DecidableEq, Repr

namespace BackendUriError

/-- The message for the error. -/
def message : BackendUriError → String
  | .noHost => "upstream URL has no host"
  | .invalid e => e.message

end BackendUriError

/-- The path of the base URL without slashes at its end. -/
def basePath (base : Url) : List Char :=
  (base.path.reverse.dropWhile (· == '/')).reverse

/-- The path and query of the inbound target; an authority alone asks for a slash. -/
def inboundChars (inbound : Uri) : List Char :=
  match inbound.pathAndQuery? with
  | none => ['/']
  | some pq => pq.nonEmptyChars

/-- The target of a request to the backend. -/
def backendUri? (base : Url) (inbound : Uri) : Except BackendUriError Uri :=
  match base.host? with
  | none => .error .noHost
  | some host =>
    let authority := Url.Authority.hostPort host.chars base.port?
    let text := base.scheme ++ "://".toList ++ authority ++ basePath base ++ inboundChars inbound
    match Uri.ofChars? text with
    | .ok uri => .ok uri
    | .error e => .error (.invalid e)

end ApiGateway.Proxy
