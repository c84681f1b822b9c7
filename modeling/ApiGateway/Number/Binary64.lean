/-!
# Binary floating point with 64 bits

A number is kept exactly: a sign, a natural significand and a binary exponent. An operation computes
its exact result as a quotient of naturals and rounds once, to the nearest value and on a tie to the
even significand (`ofRatio`); nothing depends on machine arithmetic. A finite number is *canonical*
if its significand is below `2^53` and is at least `2^52` unless the exponent is the least one.
-/

namespace ApiGateway.Number

/-- A quotient to the nearest natural number, ties to the even one. -/
def roundDiv (num den : Nat) : Nat :=
  let q := num / den
  let r := num % den
  if 2 * r < den then q
  else if den < 2 * r then q + 1
  else if q % 2 = 0 then q else q + 1

/-- A quotient to the nearest natural number, ties away from zero. -/
def roundDivUp (num den : Nat) : Nat :=
  (2 * num + den) / (2 * den)

/-- A 64-bit binary floating-point number: none, an infinity, or `± significand * 2 ^ exponent`. -/
inductive Binary64 where
  | nan
  | infinite (negative : Bool)
  | finite (negative : Bool) (significand : Nat) (exponent : Int)
  deriving DecidableEq, Repr, Inhabited

namespace Binary64

/-- The least exponent of a finite number. -/
def minExponent : Int := -1074

/-- The greatest exponent of a finite number. -/
def maxExponent : Int := 971

/-- Zero of either sign. -/
def zero (negative : Bool) : Binary64 :=
  .finite negative 0 minExponent

/-- The significand of `num / den` in units of `2 ^ e`, rounded to nearest. -/
def significandAt (num den : Nat) (e : Int) : Nat :=
  if 0 ≤ e then roundDiv num (den * Nat.pow 2 e.toNat) else roundDiv (num * Nat.pow 2 (-e).toNat) den

/-- Holds if `num / den` is below `2 ^ e`. -/
def belowPower (num den : Nat) (e : Int) : Bool :=
  if 0 ≤ e then num < den * Nat.pow 2 e.toNat else num * Nat.pow 2 (-e).toNat < den

/-- The exponent in whose units `num / den` has 53 bits, or the least exponent. -/
def exponentOf (num den : Nat) : Int :=
  let top : Int := Int.ofNat num.log2 - Int.ofNat den.log2
  let e := if belowPower num den top then top - 53 else top - 52
  if e < minExponent then minExponent else e

/-- The number nearest to `± num / den`; beyond the greatest finite one it is an infinity. -/
def ofRatio (negative : Bool) (num den : Nat) : Binary64 :=
  if num = 0 then zero negative
  else
    let e := exponentOf num den
    let m := significandAt num den e
    let (m, e) := if m = Nat.pow 2 53 then (Nat.pow 2 52, e + 1) else (m, e)
    if maxExponent < e then .infinite negative else .finite negative m e

/-- The number nearest to an integer. -/
def ofInt (i : Int) : Binary64 :=
  ofRatio (i < 0) i.natAbs 1

/-- The number nearest to a natural number. -/
def ofNat (n : Nat) : Binary64 :=
  ofRatio false n 1

/-- The magnitude `significand * 2 ^ exponent` as a quotient. -/
def ratio (significand : Nat) (exponent : Int) : Nat × Nat :=
  if 0 ≤ exponent then (significand * Nat.pow 2 exponent.toNat, 1)
  else (significand, Nat.pow 2 (-exponent).toNat)

/-- Holds for zeros and ordinary numbers. -/
def isFinite : Binary64 → Bool
  | .finite .. => true
  | _ => false

/-- Holds for the two zeros. -/
def isZero : Binary64 → Bool
  | .finite _ m _ => m == 0
  | _ => false

/-- Holds for what is greater than zero. -/
def isPositive : Binary64 → Bool
  | .finite negative m _ => !negative && m != 0
  | .infinite negative => !negative
  | .nan => false

/-- The same magnitude with the other sign. -/
def neg : Binary64 → Binary64
  | .nan => .nan
  | .infinite negative => .infinite (!negative)
  | .finite negative m e => .finite (!negative) m e

/-- The signed integer `± significand * 2 ^ (exponent - lowest)` for a `lowest` not above it. -/
def scaled (negative : Bool) (significand : Nat) (exponent lowest : Int) : Int :=
  let n := Int.ofNat (significand * Nat.pow 2 (exponent - lowest).toNat)
  if negative then -n else n

/-- `a ≤ b`; never true of `nan`. -/
def le : Binary64 → Binary64 → Bool
  | .nan, _ => false
  | _, .nan => false
  | .infinite true, _ => true
  | _, .infinite false => true
  | .infinite false, _ => false
  | _, .infinite true => false
  | .finite n₁ m₁ e₁, .finite n₂ m₂ e₂ =>
    let lowest := min e₁ e₂
    scaled n₁ m₁ e₁ lowest ≤ scaled n₂ m₂ e₂ lowest

/-- The rounded sum; a sum of zeros is negative only if both are. -/
def add : Binary64 → Binary64 → Binary64
  | .nan, _ => .nan
  | _, .nan => .nan
  | .infinite a, .infinite b => if a = b then .infinite a else .nan
  | .infinite a, _ => .infinite a
  | _, .infinite b => .infinite b
  | .finite n₁ m₁ e₁, .finite n₂ m₂ e₂ =>
    let lowest := min e₁ e₂
    let sum := scaled n₁ m₁ e₁ lowest + scaled n₂ m₂ e₂ lowest
    if sum = 0 then zero (n₁ && n₂)
    else
      let (num, den) := ratio sum.natAbs lowest
      ofRatio (sum < 0) num den

/-- The rounded product. -/
def mul : Binary64 → Binary64 → Binary64
  | .nan, _ => .nan
  | _, .nan => .nan
  | .infinite a, .infinite b => .infinite (a != b)
  | .infinite a, .finite b m _ => if m = 0 then .nan else .infinite (a != b)
  | .finite a m _, .infinite b => if m = 0 then .nan else .infinite (a != b)
  | .finite n₁ m₁ e₁, .finite n₂ m₂ e₂ =>
    let (num, den) := ratio (m₁ * m₂) (e₁ + e₂)
    ofRatio (n₁ != n₂) num den

/-- The rounded quotient; dividing by a zero gives an infinity, or `nan` for zero by zero. -/
def div : Binary64 → Binary64 → Binary64
  | .nan, _ => .nan
  | _, .nan => .nan
  | .infinite _, .infinite _ => .nan
  | .infinite a, .finite b _ _ => .infinite (a != b)
  | .finite a _ _, .infinite b => zero (a != b)
  | .finite n₁ m₁ e₁, .finite n₂ m₂ e₂ =>
    if m₂ = 0 then
      if m₁ = 0 then .nan else .infinite (n₁ != n₂)
    else
      let (num, den) := ratio m₁ (e₁ - e₂)
      ofRatio (n₁ != n₂) num (den * m₂)

/-- The nearest integer of a magnitude, a half going up. -/
def roundedMagnitude (significand : Nat) (exponent : Int) : Nat :=
  let (num, den) := ratio significand exponent
  roundDivUp num den

/-- The nearest unsigned integer below `limit + 1`: halves go away from zero, what lies outside goes
to the nearer end, and `nan` is zero. -/
def toNatSaturating (limit : Nat) : Binary64 → Nat
  | .nan => 0
  | .infinite negative => if negative then 0 else limit
  | .finite negative m e => if negative then 0 else min (roundedMagnitude m e) limit

end Binary64

end ApiGateway.Number
