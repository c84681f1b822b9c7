import ApiGateway.Http.Header
import ApiGateway.Route

/-!
# Bearer authentication

An auth gate with a token lets a request pass only if its first `Authorization` value is the scheme
`Bearer` with that token, with blanks around both. Probe paths, and every path if the gate has no token,
need no credential.
-/

namespace ApiGateway.Auth

/-- Why a request was refused: there is no credential; it is no text or of another scheme; or its token is another
one. -/
inductive Failure where
  | missing
  | malformed
  | invalid
  deriving DecidableEq, Repr

namespace Failure

/-- The name of the failure in metrics. -/
def name : Failure → String
  | .missing => "missing"
  | .malformed => "malformed"
  | .invalid => "invalid"

end Failure

/-- What the gate decides about a request: no credential was asked for, it is the right one, or the request is
refused. -/
inductive Decision where
  | bypass
  | authorized
  | denied (failure : Failure)
  deriving DecidableEq, Repr

namespace Decision

/-- The failure of a refused request. -/
def failure? : Decision → Option Failure
  | .denied f => some f
  | _ => none

end Decision

/-- The gate: the token that it asks for, if it asks for one. -/
structure Gate where
  token : Option (List Char)
  deriving DecidableEq, Repr, Inhabited

namespace Gate

/-- Holds if the gate asks for a token. -/
def isEnabled (g : Gate) : Bool :=
  g.token.isSome

/-- The field that carries the credential. -/
def fieldName : Http.FieldName := "authorization"

/-- What comes before the token in a credential. -/
def scheme : List Char := "Bearer ".toList

/-- The decision on the text of a credential. -/
def judge (token text : List Char) : Decision :=
  match Text.after? scheme (Text.trim text) with
  | none => .denied .malformed
  | some presented =>
    if Text.trim presented = token then .authorized else .denied .invalid

/-- The decision on a request. -/
def check (g : Gate) (path : List Char) (headers : Http.Fields) : Decision :=
  match g.token with
  | none => .bypass
  | some token =>
    if Probe.isExempt path then .bypass
    else
      match headers.first? fieldName with
      | none => .denied .missing
      | some value =>
        match value.text? with
        | none => .denied .malformed
        | some text => judge token text

end Gate

end ApiGateway.Auth
