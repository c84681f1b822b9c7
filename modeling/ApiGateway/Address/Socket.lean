import ApiGateway.Address.Reader

/-!
# Socket addresses

A socket address is an IP address and a port; a version 6 address stands in brackets and may have a
scope. `SocketAddress.ofText?` accepts a text that is read to its end.
-/

namespace ApiGateway

/-- A port number. -/
abbrev Port := UInt16

/-- Where a connection comes from or goes to: an address and a port. -/
structure SocketAddress where
  ip : IpAddress
  port : Port
  deriving DecidableEq, Repr

namespace SocketAddress

open IpAddress

/-- A colon and a port. -/
def colonPort : Reader Port := fun cs => do
  let (_, cs) ← expect ':' cs
  let (n, cs) ← number 10 cs.length 65536 true cs
  return (UInt16.ofNat n, cs)

/-- A percent sign and the number of a scope, which may be missing. -/
def scope (cs : List Char) : List Char :=
  match (expect '%' cs).bind fun (_, cs) => number 10 cs.length (Nat.pow 2 32) true cs with
  | some (_, rest) => rest
  | none => cs

/-- A version 4 address and a port. -/
def socketV4 : Reader SocketAddress := fun cs => do
  let (ip, cs) ← ipv4 cs
  let (port, cs) ← colonPort cs
  return (⟨.v4 ip, port⟩, cs)

/-- A version 6 address in brackets and a port. -/
def socketV6 : Reader SocketAddress := fun cs => do
  let (_, cs) ← expect '[' cs
  let (ip, cs) ← ipv6 cs
  let (_, cs) ← expect ']' (scope cs)
  let (port, cs) ← colonPort cs
  return (⟨.v6 ip, port⟩, cs)

/-- Reads a socket address to the end of the text. -/
def ofChars? (cs : List Char) : Option SocketAddress :=
  (whole socketV4 cs).orElse fun _ => whole socketV6 cs

/-- `ofChars?` on a string. -/
def ofText? (s : String) : Option SocketAddress :=
  ofChars? s.toList

/-- The message for a text that is no socket address. -/
def syntaxMessage : String := "invalid socket address syntax"

/-- The text of a socket address. -/
def text (a : SocketAddress) : String :=
  let port := String.ofList (':' :: Number.digits a.port.toNat)
  match a.ip with
  | .v4 ip => String.ofList ip.chars ++ port
  | .v6 ip => "[" ++ String.ofList ip.chars ++ "]" ++ port

end SocketAddress

end ApiGateway
