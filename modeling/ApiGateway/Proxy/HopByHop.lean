import ApiGateway.Http.Header

/-!
# Header fields of one hop

Some fields speak only of the connection that carries the message: eight well-known ones, and those that
`Connection` lists. They are removed before a message is passed on. A request to change the protocol is
passed on as such, with `Connection: upgrade` and its `Upgrade` values.
-/

namespace ApiGateway.Proxy

open Http

/-- The field that lists the fields of the connection. -/
def connection : FieldName := "connection"

/-- The field that names the protocol to change to. -/
def upgrade : FieldName := "upgrade"

/-- The well-known fields of one hop. -/
def hopByHop : List FieldName :=
  [ connection, "keep-alive", "proxy-authenticate", "proxy-authorization", "te", "trailer",
    "transfer-encoding", upgrade ]

/-- Holds if `Connection` lists the name. -/
def isListed (fs : Fields) (name : FieldName) : Bool :=
  (fs.listed connection).any fun token => fieldName? token = some name

/-- Holds for the fields that are not passed on. -/
def isOfHop (fs : Fields) (keepUpgrade : Bool) (name : FieldName) : Bool :=
  (hopByHop.contains name || isListed fs name) &&
    !(keepUpgrade && (name = connection || name = upgrade))

/-- Holds if the request asks to change the protocol. -/
def isUpgrade (fs : Fields) : Bool :=
  fs.has upgrade && (fs.listed connection).any fun token => Text.lowerAscii token = upgrade.toList

/-- Without the fields of the hop. With `keepUpgrade` the request to change the protocol stays. -/
def stripHop (fs : Fields) (keepUpgrade : Bool) : Fields :=
  let kept := fs.removeAll (isOfHop fs keepUpgrade)
  if keepUpgrade then kept.insert connection (.ofText "upgrade") else kept

end ApiGateway.Proxy
