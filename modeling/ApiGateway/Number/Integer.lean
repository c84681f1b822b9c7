/-!
# Integers as text

Digits of a base are read one by one (`natOfDigits?`), and a sign may stand before them
(`intOfText?`). A reader for a fixed width refuses a value that the width cannot hold.
-/

namespace ApiGateway.Number

/-- The value of a digit of the base, letters counting on from ten in either case. -/
def digitValue? (base : Nat) (c : Char) : Option Nat :=
  let n := c.toNat
  let v :=
    if 0x30 ≤ n && n ≤ 0x39 then n - 0x30
    else if 0x61 ≤ n && n ≤ 0x7a then n - 0x61 + 10
    else if 0x41 ≤ n && n ≤ 0x5a then n - 0x41 + 10
    else base
  if v < base then some v else none

/-- Reads digits onto the value read so far. -/
def natOntoDigits? (base : Nat) : Nat → List Char → Option Nat
  | acc, [] => some acc
  | acc, c :: cs => (digitValue? base c).bind fun d => natOntoDigits? base (acc * base + d) cs

/-- A natural number of at least one digit of the base. -/
def natOfDigits? (base : Nat) : List Char → Option Nat
  | [] => none
  | cs => natOntoDigits? base 0 cs

/-- An integer with an optional sign. -/
def intOfText? (base : Nat) : List Char → Option Int
  | '-' :: cs => (natOfDigits? base cs).map fun n => -(n : Int)
  | '+' :: cs => (natOfDigits? base cs).map Int.ofNat
  | cs => (natOfDigits? base cs).map Int.ofNat

/-- Holds for the values of a signed 64-bit word. -/
def fitsInt64 (i : Int) : Bool :=
  -Int.ofNat (Nat.pow 2 63) ≤ i && i < Int.ofNat (Nat.pow 2 63)

/-- An integer with an optional sign that a signed 64-bit word can hold. -/
def int64OfText? (base : Nat) (cs : List Char) : Option Int :=
  (intOfText? base cs).bind fun i => if fitsInt64 i then some i else none

/-- A natural number with an optional plus sign that an unsigned 64-bit word can hold. -/
def uint64OfText? (cs : List Char) : Option Nat :=
  let digits := match cs with
    | '+' :: cs => cs
    | cs => cs
  (natOfDigits? 10 digits).bind fun n => if n < Nat.pow 2 64 then some n else none

/-- The decimal digits of a natural number. -/
def digits (n : Nat) : List Char :=
  Nat.toDigits 10 n

/-- The decimal text of an integer. -/
def intText (i : Int) : String :=
  if i < 0 then String.ofList ('-' :: digits i.natAbs) else String.ofList (digits i.natAbs)

end ApiGateway.Number
