import ApiGateway.Address.Socket
import ApiGateway.Http.Header

/-!
# Who a client is

Requests are limited per client. A client is known by the first entry of `X-Forwarded-For`, or else by
the address of its connection without the port; requests with neither are one client. No other field
has a part in it (`clientKey_congr`).
-/

namespace ApiGateway.Limiter

/-- The field with the chain of addresses that a request came through. -/
def forwardedFor : Http.FieldName := "x-forwarded-for"

/-- The key of requests of which nothing is known. -/
def unknownClient : List Char := "unknown".toList

/-- The first entry of the chain, if it is text and not blank. -/
def forwardedClient? (headers : Http.Fields) : Option (List Char) := do
  let value ← headers.first? forwardedFor
  let chain ← value.text?
  let entry ← (Text.fields ',' chain).head?
  let client := Text.trim entry
  if client.isEmpty then none else some client

/-- The key of the client of a request. -/
def clientKey (headers : Http.Fields) (peer : Option SocketAddress) : List Char :=
  match forwardedClient? headers, peer with
  | some client, _ => client
  | none, some peer => peer.ip.chars
  | none, none => unknownClient

/-- Of the header fields only the first `x-forwarded-for` tells clients apart. -/
theorem clientKey_congr {headers headers' : Http.Fields}
    (h : headers.first? forwardedFor = headers'.first? forwardedFor) (peer : Option SocketAddress) :
    clientKey headers peer = clientKey headers' peer := by
  unfold clientKey forwardedClient?
  rw [h]

end ApiGateway.Limiter
