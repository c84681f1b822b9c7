import ApiGateway.Number.Integer

/-!
# IP addresses and their text

A version 4 address is four octets and a version 6 address eight segments. Both have one canonical
text: a version 6 address writes its first longest run of two or more zero segments as `::`, and an
address that maps a version 4 one (`::ffff:` and four octets) shows the octets.
-/

namespace ApiGateway

/-- A version 4 address: its four octets, the first one first. -/
structure Ipv4 where
  a : UInt8
  b : UInt8
  c : UInt8
  d : UInt8
  deriving DecidableEq, Repr

/-- A version 6 address: its eight segments, the most significant one first. -/
structure Ipv6 where
  segments : List UInt16
  length_segments : segments.length = 8
  deriving DecidableEq, Repr

/-- An address of either version. -/
inductive IpAddress where
  | v4 (address : Ipv4)
  | v6 (address : Ipv6)
  deriving DecidableEq, Repr

namespace Ipv4

/-- The octets in decimal with points between them. -/
def chars (ip : Ipv4) : List Char :=
  let octet (o : UInt8) := Number.digits o.toNat
  octet ip.a ++ '.' :: octet ip.b ++ '.' :: octet ip.c ++ '.' :: octet ip.d

/-- The segments in which a version 6 address holds the octets. -/
def segments (ip : Ipv4) : List UInt16 :=
  [ip.a.toUInt16 * 256 + ip.b.toUInt16, ip.c.toUInt16 * 256 + ip.d.toUInt16]

/-- The octets of the address with the given number. -/
def ofNat (n : Nat) : Ipv4 :=
  ⟨UInt8.ofNat (n / Nat.pow 2 24), UInt8.ofNat (n / Nat.pow 2 16), UInt8.ofNat (n / Nat.pow 2 8), UInt8.ofNat n⟩

end Ipv4

namespace Ipv6

/-- The segments in lower-case hexadecimal with colons between them. -/
def segmentChars : List UInt16 → List Char
  | [] => []
  | [s] => Nat.toDigits 16 s.toNat
  | s :: rest => Nat.toDigits 16 s.toNat ++ ':' :: segmentChars rest

/-- The number of zero segments at the front. -/
def leadingZeros : List UInt16 → Nat
  | [] => 0
  | s :: rest => if s = 0 then leadingZeros rest + 1 else 0

/-- Start and length of the first longest run of zero segments, counting from position `i`. -/
def longestRun (i : Nat) : List UInt16 → Nat × Nat
  | [] => (i, 0)
  | s :: rest =>
    let here := leadingZeros (s :: rest)
    let later := longestRun (i + 1) rest
    if later.2 ≤ here then (i, here) else later

/-- The text with the first longest run of at least two zero segments written `::`. -/
def compressed (segments : List UInt16) : List Char :=
  let (start, length) := longestRun 0 segments
  if 1 < length then
    segmentChars (segments.take start) ++ ':' :: ':' :: segmentChars (segments.drop (start + length))
  else segmentChars segments

/-- The version 4 address that the address maps, if it is of that form. -/
def mapped? (ip : Ipv6) : Option Ipv4 :=
  match ip.segments with
  | [0, 0, 0, 0, 0, 0xffff, s, t] => some (Ipv4.ofNat (s.toNat * 65536 + t.toNat))
  | _ => none

/-- The canonical text. -/
def chars (ip : Ipv6) : List Char :=
  match ip.mapped? with
  | some v4 => "::ffff:".toList ++ v4.chars
  | none => compressed ip.segments

end Ipv6

namespace IpAddress

/-- The canonical text. -/
def chars : IpAddress → List Char
  | .v4 ip => ip.chars
  | .v6 ip => ip.chars

/-- The canonical text as a string. -/
def text (ip : IpAddress) : String :=
  String.ofList ip.chars

end IpAddress

end ApiGateway
