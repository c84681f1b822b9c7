import ApiGateway.Text.Utf8
import ApiGateway.Number.Integer

/-!
# Percent-encoding

A character that cannot stand for itself in a part of a URL is written as its octets, each as a
percent sign and two hexadecimal digits. Which characters those are depends on the part; the sets
below grow from one another. A percent sign stands for itself, so that what is encoded already stays.
-/

namespace ApiGateway.Url.Percent

/-- Characters that no part writes as they are: controls and what is not ASCII. -/
def isControl (c : Char) : Bool :=
  c.toNat < 0x20 || 0x7e < c.toNat

/-- Characters that a fragment encodes. -/
def inFragment (c : Char) : Bool :=
  isControl c || " \"<>\u0060".toList.contains c

/-- Characters that a query encodes. -/
def inQuery (c : Char) : Bool :=
  isControl c || " \"#<>".toList.contains c

/-- Characters that the query of a URL with a well-known scheme encodes. -/
def inSpecialQuery (c : Char) : Bool :=
  inQuery c || c == '\''

/-- Characters that a path encodes. -/
def inPath (c : Char) : Bool :=
  inFragment c || "#?\x7b\x7d".toList.contains c

/-- Characters that a user name and a password encode. -/
def inUserInfo (c : Char) : Bool :=
  inPath c || "/:;=@[\\]^|".toList.contains c

/-- An octet as a percent sign and two upper-case hexadecimal digits. -/
def octet (o : UInt8) : List Char :=
  ['%', (Nat.digitChar (o.toNat / 16)).toUpper, (Nat.digitChar (o.toNat % 16)).toUpper]

/-- Encodes the characters of a set. -/
def encode (set : Char → Bool) (cs : List Char) : List Char :=
  cs.flatMap fun c => if set c then (String.utf8EncodeChar c).flatMap octet else [c]

/-- The value of a hexadecimal digit. -/
def hexDigit? (o : UInt8) : Option Nat :=
  if o < 0x80 then Number.digitValue? 16 (Char.ofNat o.toNat) else none

/-- The octets of a text with each percent sign and two hexadecimal digits read as one octet. -/
def decodeOctets : List UInt8 → List UInt8
  | [] => []
  | 0x25 :: a :: b :: rest =>
    match hexDigit? a, hexDigit? b with
    | some high, some low => UInt8.ofNat (high * 16 + low) :: decodeOctets rest
    | _, _ => 0x25 :: decodeOctets (a :: b :: rest)
  | o :: rest => o :: decodeOctets rest

/-- The text that remains when the percent-encoded octets are read, if it is one. -/
def decode? (cs : List Char) : Option (List Char) :=
  Text.decode? (decodeOctets (Text.octets cs))

end ApiGateway.Url.Percent
