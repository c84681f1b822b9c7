import ApiGateway.Address.Socket
import ApiGateway.Limiter.ClientKey

/-!
# Forwarded fields

A request that is passed on says whom it came from: the chain of addresses grows by the peer, and the
host and the protocol that the client asked for are noted.
-/

namespace ApiGateway.Proxy

open Http

/-- The field with the host that the client asked for. -/
def forwardedHost : FieldName := "x-forwarded-host"

/-- The field with the protocol that the client used. -/
def forwardedProto : FieldName := "x-forwarded-proto"

/-- The chain with the peer at its end. -/
def chainWith (fs : Fields) (peer : SocketAddress) : List Char :=
  let ip := peer.ip.chars
  match (fs.first? Limiter.forwardedFor).bind FieldValue.text? with
  | none => ip
  | some chain => if chain.all Text.isBlank then ip else chain ++ ", ".toList ++ ip

/-- With the peer in the chain. -/
def addPeer (fs : Fields) (peer : Option SocketAddress) : Fields :=
  match peer with
  | none => fs
  | some peer => fs.insert Limiter.forwardedFor (.ofAscii (chainWith fs peer))

/-- With the host that the client asked for. -/
def addHost (fs : Fields) (host : Option FieldValue) : Fields :=
  match host with
  | none => fs
  | some host => fs.insert forwardedHost host

/-- With a protocol, unless the request has one. -/
def addProto (fs : Fields) : Fields :=
  if fs.has forwardedProto then fs else fs.insert forwardedProto (.ofText "http")

/-- With the fields that say whom the request came from. -/
def addForwarded (fs : Fields) (peer : Option SocketAddress) (host : Option FieldValue) : Fields :=
  addProto (addHost (addPeer fs peer) host)

end ApiGateway.Proxy
