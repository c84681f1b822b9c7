import ApiGateway.Text.Blank
import ApiGateway.Number.Integer
import ApiGateway.Number.Binary64

/-!
# Decimal literals

A literal is an optional sign and then `inf`, `infinity` or `nan` in any case, or digits with at
most one point and an optional exponent. `ofText?` gives the number nearest to the literal's exact
value.
-/

namespace ApiGateway.Number.Binary64

/-- The number nearest to `± digits * 10 ^ exponent`. Exponents far outside the range of the format
are settled without computing the power. -/
def ofDecimal (negative : Bool) (digits : Nat) (exponent : Int) : Binary64 :=
  if digits = 0 then zero negative
  else
    let magnitude : Int := exponent + Int.ofNat (Nat.toDigits 10 digits).length
    if 400 < magnitude then .infinite negative
    else if magnitude < -400 then zero negative
    else if 0 ≤ exponent then ofRatio negative (digits * Nat.pow 10 exponent.toNat) 1
    else ofRatio negative digits (Nat.pow 10 (-exponent).toNat)

/-- Splits off the leading decimal digits. -/
def spanDigits (cs : List Char) : List Char × List Char :=
  cs.span Char.isDigit

/-- The exponent part: nothing, or `e` with an optional sign and at least one digit. -/
def exponentOfText? : List Char → Option Int
  | [] => some 0
  | c :: cs => if c == 'e' || c == 'E' then intOfText? 10 cs else none

/-- An unsigned literal of digits. -/
def ofDigits? (negative : Bool) (cs : List Char) : Option Binary64 :=
  let (whole, rest) := spanDigits cs
  let (fraction, rest) := match rest with
    | '.' :: rest => spanDigits rest
    | rest => ([], rest)
  if whole.isEmpty && fraction.isEmpty then none
  else do
    let exponent ← exponentOfText? rest
    let digits ← natOfDigits? 10 (whole ++ fraction)
    return ofDecimal negative digits (exponent - fraction.length)

/-- An unsigned literal. -/
def ofMagnitude? (negative : Bool) (cs : List Char) : Option Binary64 :=
  let word := Text.lowerAscii cs
  if word = "inf".toList || word = "infinity".toList then some (.infinite negative)
  else if word = "nan".toList then some .nan
  else ofDigits? negative cs

/-- The number that a literal denotes. -/
def ofText? : List Char → Option Binary64
  | '-' :: cs => ofMagnitude? true cs
  | '+' :: cs => ofMagnitude? false cs
  | cs => ofMagnitude? false cs

end ApiGateway.Number.Binary64
