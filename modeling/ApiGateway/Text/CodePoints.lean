import ApiGateway.Number.Integer
import ApiGateway.Text.Blank

/-!
# Sets of code points

A property of characters is given as ranges of code points in hexadecimal, such as `41-5a 5f`, in
rising order. `contains` looks for the range that a code point can lie in.
-/

namespace ApiGateway.Text

/-- The number that hexadecimal digits spell; a mark spells none. -/
def hexOrMark (cs : List Char) : Option Nat :=
  Number.natOfDigits? 16 cs

/-- A set of code points: the first and the last of each range, in rising order. -/
structure CodePoints where
  ranges : Array (Nat × Nat)

namespace CodePoints

/-- Reads a range such as `41-5a`, or a single code point. -/
def rangeOfChars? (cs : List Char) : Option (Nat × Nat) :=
  match (fields '-' cs).map hexOrMark with
  | [some n] => some (n, n)
  | [some first, some last] => some (first, last)
  | _ => none

/-- The set of the ranges that a text lists, with blanks between them. -/
def ofText (text : String) : CodePoints where
  ranges := ((words text.toList).filterMap rangeOfChars?).toArray

/-- Looks for a code point in the ranges from place `low` on and before place `high`. -/
def search (ranges : Array (Nat × Nat)) (n low high : Nat) : Bool :=
  if _ : low < high then
    let middle := (low + high) / 2
    match ranges[middle]? with
    | none => false
    | some (first, last) =>
      if n < first then search ranges n low middle
      else if last < n then search ranges n (middle + 1) high
      else true
  else false
termination_by high - low

/-- Holds for the code points of the set. -/
def contains (points : CodePoints) (n : Nat) : Bool :=
  search points.ranges n 0 points.ranges.size

end CodePoints

end ApiGateway.Text
