import ApiGateway.Address.Reader
import ApiGateway.Url.Idna
import ApiGateway.Url.Percent

/-!
# Hosts of URLs

The host of a URL is a domain name or an IP address. In a URL with a well-known scheme the name is
percent-decoded and brought into ASCII form, and a name whose last label is a number is a version 4
address, whose parts may be written in base 8, 10 or 16. In other URLs the name stays as it is written.
-/

namespace ApiGateway

/-- Why a text is no URL: it begins with no scheme, or the scheme calls for a host; the domain name has no ASCII
form; the port is no number that a port can be; the name ends in a number and is no version 4 address; the brackets
hold no version 6 address; or the host has a character that no host has. -/
inductive UrlError where
  | emptyHost
  | invalidDomain
  | invalidPort
  | invalidIpv4
  | invalidIpv6
  | invalidHostCharacter
  | noScheme
  deriving DecidableEq, Repr

namespace UrlError

/-- The message for the error. -/
def message : UrlError → String
  | .emptyHost => "empty host"
  | .invalidDomain => "invalid international domain name"
  | .invalidPort => "invalid port number"
  | .invalidIpv4 => "invalid IPv4 address"
  | .invalidIpv6 => "invalid IPv6 address"
  | .invalidHostCharacter => "invalid domain character"
  | .noScheme => "relative URL without a base"

end UrlError

namespace Url

/-- The host of a URL: a name in ASCII, or an address of either version. -/
inductive Host where
  | domain (name : List Char)
  | ipv4 (ip : Ipv4)
  | ipv6 (ip : Ipv6)
  deriving DecidableEq, Repr

namespace Host

/-- The host as it is written; a version 6 address stands in brackets. -/
def chars : Host → List Char
  | .domain name => name
  | .ipv4 ip => ip.chars
  | .ipv6 ip => '[' :: Ipv6.compressed ip.segments ++ [']']

/-- The digits of a part of a version 4 address, and their base. -/
def baseOfPart : List Char → Nat × List Char
  | '0' :: 'x' :: rest => (16, rest)
  | '0' :: 'X' :: rest => (16, rest)
  | '0' :: d :: rest => (8, d :: rest)
  | part => (10, part)

/-- The number that a part of a version 4 address denotes; `0x` alone is zero. -/
def partNumber? (part : List Char) : Option Nat :=
  let (base, digits) := baseOfPart part
  if part.isEmpty then none
  else if digits.isEmpty then some 0
  else Number.natOfDigits? base digits

/-- The labels of a name, an empty one at its end apart. -/
def labels (name : List Char) : List (List Char) :=
  let all := Text.fields '.' name
  if 1 < all.length && all.getLast? = some [] then all.dropLast else all

/-- Holds if the last label is a number. -/
def endsInNumber (name : List Char) : Bool :=
  match (labels name).getLast? with
  | none => false
  | some last => (!last.isEmpty && last.all Char.isDigit) || (partNumber? last).isSome

/-- The address whose parts have the given numbers: each is an octet, but the last one fills the rest. -/
def ofParts? (parts : List Nat) : Option Ipv4 :=
  match parts.reverse with
  | [] => none
  | last :: before =>
    let octets := before.reverse
    if 3 < octets.length || octets.any (255 < ·) || Nat.pow 256 (4 - octets.length) ≤ last then none
    else
      let high := octets.foldl (fun n o => n * 256 + o) 0
      some (Ipv4.ofNat (high * Nat.pow 256 (4 - octets.length) + last))

/-- The version 4 address that a name denotes. -/
def ipv4OfName? (name : List Char) : Option Ipv4 :=
  ((labels name).mapM partNumber?).bind ofParts?

/-- The version 6 address between brackets; the text begins with the opening one. -/
def bracketed? (text : List Char) : Except UrlError Host :=
  if text.getLast? = some ']' then
    match IpAddress.whole IpAddress.ipv6 (text.drop 1).dropLast with
    | some ip => .ok (.ipv6 ip)
    | none => .error .invalidIpv6
  else .error .invalidIpv6

/-- The host of a URL with a well-known scheme. -/
def ofSpecial? (text : List Char) : Except UrlError Host :=
  if text.head? = some '[' then bracketed? text
  else
    match (Percent.decode? text).bind Idna.toAscii? with
    | none => .error .invalidDomain
    | some name =>
      if name.isEmpty then .error .emptyHost
      else if endsInNumber name then
        match ipv4OfName? name with
        | some ip => .ok (.ipv4 ip)
        | none => .error .invalidIpv4
      else .ok (.domain name)

/-- A character that no host of a URL with another scheme has. -/
def isForbidden (c : Char) : Bool :=
  "\x00\t\n\r #/:<>?@[\\]^|".toList.contains c

/-- The host of a URL with another scheme. -/
def ofOther? (text : List Char) : Except UrlError Host :=
  if text.head? = some '[' then bracketed? text
  else if text.any isForbidden then .error .invalidHostCharacter
  else .ok (.domain (Percent.encode Percent.isControl text))

end Host

end Url

end ApiGateway
