import ApiGateway.Url.Host
import ApiGateway.Address.Socket

/-!
# URLs

A URL has a scheme and a path, and may have an authority, a query and a fragment. Every part is kept as
it is written, that is percent-encoded. A port that is the usual one of its scheme is not written.
-/

namespace ApiGateway.Url

/-- How much is known of a scheme: it is one of the web, whose URLs always have a host, that of local files, or any
other. -/
inductive SchemeKind where
  | web
  | file
  | other
  deriving DecidableEq, Repr

namespace SchemeKind

/-- The kind of a scheme in lower case. -/
def ofScheme (scheme : List Char) : SchemeKind :=
  if ["http", "https", "ws", "wss", "ftp"].contains (String.ofList scheme) then .web
  else if scheme = "file".toList then .file
  else .other

/-- Holds for the well-known schemes. -/
def isSpecial (k : SchemeKind) : Bool :=
  k != .other

end SchemeKind

/-- The usual port of a scheme. -/
def defaultPort? (scheme : List Char) : Option Port :=
  match String.ofList scheme with
  | "http" => some 80
  | "ws" => some 80
  | "https" => some 443
  | "wss" => some 443
  | "ftp" => some 21
  | _ => none

/-- What stands between the two slashes and the path of a URL. Some schemes may leave out the host, and the port is
there if it is not the usual one. -/
structure Authority where
  username : List Char := []
  password : Option (List Char) := none
  host : Option Host := none
  port : Option Port := none
  deriving DecidableEq, Repr, Inhabited

namespace Authority

/-- The user name, the password and the `@` after them, if there are any. -/
def userChars (a : Authority) : List Char :=
  let password := match a.password with
    | none => []
    | some p => ':' :: p
  let user := a.username ++ password
  if user.isEmpty then [] else user ++ ['@']

/-- A host and a port. -/
def hostPort (host : List Char) (port : Option Port) : List Char :=
  match port with
  | none => host
  | some p => host ++ ':' :: Number.digits p.toNat

/-- The authority as it is written. -/
def chars (a : Authority) : List Char :=
  a.userChars ++ hostPort ((a.host.map Host.chars).getD []) a.port

end Authority

end Url

/-- A URL. Its scheme is in lower case; the query stands after the question mark, and the fragment after the number
sign. -/
structure Url where
  scheme : List Char
  authority : Option Url.Authority
  path : List Char
  query : Option (List Char)
  fragment : Option (List Char)
  deriving DecidableEq, Repr, Inhabited

namespace Url

/-- The host. -/
def host? (u : Url) : Option Host :=
  u.authority.bind Authority.host

/-- The port, if it is not the usual one. -/
def port? (u : Url) : Option Port :=
  u.authority.bind Authority.port

/-- A mark and the part that follows it, if there is one. -/
def marked (mark : Char) (part : Option (List Char)) : List Char :=
  match part with
  | none => []
  | some cs => mark :: cs

/-- The authority after its two slashes. A path that begins with two slashes and has no authority
before it is set apart by a point. -/
def leadChars (u : Url) : List Char :=
  match u.authority with
  | some a => '/' :: '/' :: a.chars
  | none =>
    match u.path with
    | '/' :: '/' :: _ => ['/', '.']
    | _ => []

/-- The URL as it is written. -/
def chars (u : Url) : List Char :=
  u.scheme ++ ':' :: u.leadChars ++ u.path ++ marked '?' u.query ++ marked '#' u.fragment

/-- The URL as a string. -/
def text (u : Url) : String :=
  String.ofList u.chars

end Url

end ApiGateway
