import ApiGateway.Address.Socket
import ApiGateway.Http.Header
import ApiGateway.Http.Uri

/-!
# Requests and responses

A message has header fields and a body, which is a sequence of octets. A method is any token.
-/

namespace ApiGateway.Http

/-- A request method. -/
abbrev Method := String

/-- The method that a text spells, if it is a token. -/
def method? (s : String) : Option Method :=
  if isToken s.toList then some s else none

/-- The message for a text that is no method. -/
def methodMessage : String := "invalid HTTP method"

/-- The octets of a body. -/
abbrev Body := List UInt8

/-- A request, with the address that it came from if that is known. -/
structure Request where
  method : Method := "GET"
  uri : Uri
  headers : Fields := []
  body : Body := []
  peer : Option SocketAddress := none
  deriving DecidableEq, Repr, Inhabited

/-- A response. -/
structure Response where
  status : Nat
  headers : Fields := []
  body : Body := []
  deriving DecidableEq, Repr, Inhabited

namespace Response

/-- The field with the media type. -/
def contentType : FieldName := "content-type"

/-- The field with the number of octets of the body. -/
def contentLength : FieldName := "content-length"

/-- A response with the given body of a media type. -/
def ofContent (status : Nat) (mediaType body : String) : Response :=
  { status, headers := [⟨contentType, .ofText mediaType⟩], body := body.toUTF8.toList }

/-- A response with a text. -/
def ofText (status : Nat) (body : String) : Response :=
  ofContent status "text/plain; charset=utf-8" body

/-- The response with one more header field. -/
def withField (r : Response) (name : FieldName) (value : FieldValue) : Response :=
  { r with headers := r.headers.insert name value }

/-- Holds for the statuses of success. -/
def isSuccess (r : Response) : Bool :=
  200 ≤ r.status && r.status < 300

/-- With the number of octets of the body, unless one is given. -/
def withLength (r : Response) : Response :=
  if r.headers.has contentLength then r
  else r.withField contentLength (.ofAscii (Number.digits r.body.length))

/-- The response as it leaves for a request of the method: a `HEAD` is answered without the body, and a
`CONNECT` that succeeds has none. -/
def finish (method : Method) (r : Response) : Response :=
  if method = "CONNECT" && r.isSuccess then { r with body := [] }
  else
    let r := r.withLength
    if method = "HEAD" then { r with body := [] } else r

end Response

end ApiGateway.Http
