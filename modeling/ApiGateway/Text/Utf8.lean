/-!
# Text as octets

A character is written as one to four octets. `scan` reads octets back: every character that is there
comes out, and every longest piece that begins a character and does not finish it comes out as a gap.
`decode?` refuses gaps and `decodeLossy` fills them.
-/

namespace ApiGateway.Text

/-- The octets of a text. -/
def octets (cs : List Char) : List UInt8 :=
  cs.flatMap String.utf8EncodeChar

/-- A character of which some octets are missing: the bits read so far, the least and the greatest octet that may
come next, and how many have to come after that. -/
structure Pending where
  bits : Nat
  low : UInt8
  high : UInt8
  later : Nat

/-- What the first octet of a character of more than one octet begins. -/
def Pending.ofLead? (lead : UInt8) : Option Pending :=
  let n := lead.toNat
  if n < 0xc2 then none
  else if n < 0xe0 then some ⟨n - 0xc0, 0x80, 0xbf, 0⟩
  else if n = 0xe0 then some ⟨0, 0xa0, 0xbf, 1⟩
  else if n = 0xed then some ⟨0xd, 0x80, 0x9f, 1⟩
  else if n < 0xf0 then some ⟨n - 0xe0, 0x80, 0xbf, 1⟩
  else if n = 0xf0 then some ⟨0, 0x90, 0xbf, 2⟩
  else if n < 0xf4 then some ⟨n - 0xf0, 0x80, 0xbf, 2⟩
  else if n = 0xf4 then some ⟨4, 0x80, 0x8f, 2⟩
  else none

/-- Reads an octet that begins a character: what comes out, and what is pending after it. -/
def scanLead (lead : UInt8) : List (Option Char) × Option Pending :=
  if lead < 0x80 then ([some (Char.ofNat lead.toNat)], none)
  else
    match Pending.ofLead? lead with
    | some pending => ([], some pending)
    | none => ([none], none)

/-- Reads one octet. -/
def scanOctet (pending : Option Pending) (octet : UInt8) : List (Option Char) × Option Pending :=
  match pending with
  | none => scanLead octet
  | some p =>
    if p.low ≤ octet && octet ≤ p.high then
      let bits := p.bits * 64 + (octet.toNat - 0x80)
      match p.later with
      | 0 => ([some (Char.ofNat bits)], none)
      | later + 1 => ([], some ⟨bits, 0x80, 0xbf, later⟩)
    else
      let (out, pending) := scanLead octet
      (none :: out, pending)

/-- The characters that the octets spell, with `none` for each gap. -/
def scan (pending : Option Pending) : List UInt8 → List (Option Char)
  | [] => if pending.isSome then [none] else []
  | octet :: rest =>
    let (out, pending) := scanOctet pending octet
    out ++ scan pending rest

/-- The text that the octets spell, if they spell one throughout. -/
def decode? (octets : List UInt8) : Option (List Char) :=
  (scan none octets).mapM id

/-- The text that the octets spell, with the replacement character in the gaps. -/
def decodeLossy (octets : List UInt8) : List Char :=
  (scan none octets).map (·.getD '\ufffd')

end ApiGateway.Text
