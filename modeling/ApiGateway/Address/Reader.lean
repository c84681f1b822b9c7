import ApiGateway.Address.Ip

/-!
# Reading IP addresses

Each reader takes what it can from the front of a text and gives back the rest. A version 4 address is
four octets without needless zeros; a version 6 address is eight groups, or fewer with `::` for one or
more groups of zeros, and may end in the octets of a version 4 address.
-/

namespace ApiGateway.IpAddress

/-- What a reader took from the front of the text, and the rest. -/
abbrev Reader (α : Type) := List Char → Option (α × List Char)

/-- One given character. -/
def expect (c : Char) : Reader Unit
  | d :: cs => if d = c then some ((), cs) else none
  | [] => none

/-- The digits of the base at the front, and the rest. -/
def spanBase (base : Nat) (cs : List Char) : List Char × List Char :=
  cs.span fun c => (Number.digitValue? base c).isSome

/-- A number of at most `most` digits. Unless `zeros` is set, a number of more than one digit begins
with no zero. -/
def number (base most limit : Nat) (zeros : Bool) : Reader Nat := fun cs =>
  let (ds, rest) := spanBase base cs
  if most < ds.length then none
  else if !zeros && ds.head? = some '0' && 1 < ds.length then none
  else (Number.natOfDigits? base ds).bind fun n => if n < limit then some (n, rest) else none

/-- One octet of a version 4 address. -/
def octet : Reader UInt8 := fun cs =>
  (number 10 3 256 false cs).map fun (n, rest) => (UInt8.ofNat n, rest)

/-- A point and an octet. -/
def pointOctet : Reader UInt8 := fun cs =>
  (expect '.' cs).bind fun (_, cs) => octet cs

/-- A version 4 address: four octets, no zero before another digit. -/
def ipv4 : Reader Ipv4 := fun cs => do
  let (a, cs) ← octet cs
  let (b, cs) ← pointOctet cs
  let (c, cs) ← pointOctet cs
  let (d, cs) ← pointOctet cs
  return (⟨a, b, c, d⟩, cs)

/-- The colon that stands before every group but the first. -/
def separator (first : Bool) : Reader Unit := fun cs =>
  if first then some ((), cs) else expect ':' cs

/-- Up to `room` groups of a version 6 address: hexadecimal segments, and at the end of them perhaps
the octets of a version 4 address in the place of two. Gives the segments and whether octets ended
them. -/
def groups (first : Bool) : Nat → List Char → (List UInt16 × Bool) × List Char
  | 0, cs => (([], false), cs)
  | room + 1, cs =>
    let octets := if 0 < room then (separator first cs).bind fun (_, cs) => ipv4 cs else none
    match octets with
    | some (ip, rest) => ((ip.segments, true), rest)
    | none =>
      match (separator first cs).bind fun (_, cs) => number 16 4 65536 true cs with
      | none => (([], false), cs)
      | some (n, rest) =>
        let ((more, ended), rest) := groups false room rest
        ((UInt16.ofNat n :: more, ended), rest)

/-- The version 6 address of eight segments. -/
def ofSegments? (segments : List UInt16) : Option Ipv6 :=
  if h : segments.length = 8 then some ⟨segments, h⟩ else none

/-- A version 6 address: eight groups, or fewer with `::` for the missing zeros. Octets end the
address. -/
def ipv6 : Reader Ipv6 := fun cs =>
  let ((head, ended), rest) := groups true 8 cs
  if head.length = 8 then (ofSegments? head).map (·, rest)
  else if ended then none
  else do
    let (_, rest) ← expect ':' rest
    let (_, rest) ← expect ':' rest
    let ((tail, _), rest) := groups true (7 - head.length) rest
    let zeros := List.replicate (8 - head.length - tail.length) 0
    let ip ← ofSegments? (head ++ zeros ++ tail)
    return (ip, rest)

/-- What the reader took, if it took the whole text. -/
def whole {α : Type} (read : Reader α) (cs : List Char) : Option α :=
  match read cs with
  | some (a, []) => some a
  | _ => none

end ApiGateway.IpAddress
