import ApiGateway.Number.Integer
import ApiGateway.Number.Binary64

/-!
# Lengths of time

A length of time is a number of nanoseconds. `ofSeconds?` reads seconds given as a floating-point
number, `durationText` writes a length in the largest unit of which it has a whole one, and `secondsUp` is the
least number of whole seconds that covers it (`le_secondsUp`, `secondsUp_le_iff`).
-/

namespace ApiGateway.Time

/-- Nanoseconds in a second. -/
def perSecond : Nat := 1000000000

/-- Nanoseconds in a millisecond. -/
def perMillisecond : Nat := 1000000

/-- Nanoseconds in a microsecond. -/
def perMicrosecond : Nat := 1000

/-- A whole number of seconds. -/
def ofSeconds (seconds : Nat) : Nat :=
  seconds * perSecond

/-- A whole number of milliseconds. -/
def ofMilliseconds (milliseconds : Nat) : Nat :=
  milliseconds * perMillisecond

/-- The seconds that a length of time cannot reach. -/
def secondsLimit : Nat := Nat.pow 2 64

/-- A number of seconds to the nearest nanosecond, ties to even; negative numbers, infinities, `nan`
and what reaches `secondsLimit` are refused. A negative zero is zero. -/
def ofBinary64? : Number.Binary64 → Option Nat
  | .nan => none
  | .infinite _ => none
  | .finite negative m e =>
    if m = 0 then some 0
    else if negative then none
    else
      let (num, den) := Number.Binary64.ratio m e
      let ns := Number.roundDiv (num * perSecond) den
      if ns < secondsLimit * perSecond then some ns else none

/-- The fraction `part / 10 ^ places` as a point and its digits without zeros at the end. -/
def fractionText (part places : Nat) : List Char :=
  if part = 0 then []
  else
    let ds := Nat.toDigits 10 part
    let padded := List.replicate (places - ds.length) '0' ++ ds
    '.' :: (padded.reverse.dropWhile (· == '0')).reverse

/-- A length in seconds, milliseconds, microseconds or nanoseconds, the first that fits at least
once, with the decimals it needs. -/
def durationText (ns : Nat) : String :=
  let inUnit (unit places : Nat) (name : String) :=
    String.ofList (Number.digits (ns / unit) ++ fractionText (ns % unit) places) ++ name
  if perSecond ≤ ns then inUnit perSecond 9 "s"
  else if perMillisecond ≤ ns then inUnit perMillisecond 6 "ms"
  else if perMicrosecond ≤ ns then inUnit perMicrosecond 3 "µs"
  else inUnit 1 0 "ns"

/-- The whole seconds in which the length fits. -/
def secondsUp (ns : Nat) : Nat :=
  (ns + (perSecond - 1)) / perSecond

/-- The whole seconds cover the length. -/
theorem le_secondsUp (ns : Nat) : ns ≤ ofSeconds (secondsUp ns) := by
  unfold secondsUp ofSeconds perSecond
  omega

/-- No smaller number of whole seconds covers the length. -/
theorem secondsUp_le_iff {ns : Nat} {seconds : Nat} :
    secondsUp ns ≤ seconds ↔ ns ≤ ofSeconds seconds := by
  unfold secondsUp ofSeconds perSecond
  omega

end ApiGateway.Time
