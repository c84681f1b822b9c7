import ApiGateway.Number.Integer
import ApiGateway.Number.Binary64

/-!
# The shortest decimal that reads back

A finite number stands for the interval of reals that round to it. `shortest` tries the grids of
1, 2, … 17 significant decimal digits and takes the first grid with a point in that interval, the
nearer of two points. `text` writes those digits positionally, never with an exponent.
-/

namespace ApiGateway.Number.Binary64

/-- The `k` with `10 ^ k ≤ num / den < 10 ^ (k + 1)`. -/
def decimalExponent (num den : Nat) : Int :=
  if den ≤ num then Int.ofNat (digits (num / den)).length - 1
  else -Int.ofNat (digits ((den - 1) / num)).length

/-- The interval of reals that round to `significand * 2 ^ exponent`, in quarters of the unit: its
ends, the value between them, and whether the ends belong to it. -/
structure Interval where
  low : Nat
  value : Nat
  high : Nat
  closed : Bool

/-- The interval of a canonical number: half a unit to either side, but a quarter below a power of
two, where the numbers lie twice as dense. -/
def interval (significand : Nat) (exponent : Int) : Interval where
  low :=
    if significand = Nat.pow 2 52 && minExponent < exponent then 4 * significand - 1
    else 4 * significand - 2
  value := 4 * significand
  high := 4 * significand + 2
  closed := significand % 2 == 0

/-- A quotient of two naturals that stands for the point `n` of a grid: `n * num / den` quarter
units. -/
structure Grid where
  num : Nat
  den : Nat

/-- The grid of step `10 ^ g`, in quarters of the unit `2 ^ exponent`. -/
def gridOf (g exponent : Int) : Grid :=
  let e := exponent - 2
  { num := Nat.pow 10 g.toNat * Nat.pow 2 (-e).toNat
    den := Nat.pow 10 (-g).toNat * Nat.pow 2 e.toNat }

/-- Holds if the point `n` of the grid lies in the interval. -/
def Grid.inside (grid : Grid) (i : Interval) (n : Nat) : Bool :=
  if i.closed then i.low * grid.den ≤ n * grid.num && n * grid.num ≤ i.high * grid.den
  else i.low * grid.den < n * grid.num && n * grid.num < i.high * grid.den

/-- The point of the grid in the interval that is nearest to the value, the upper one on a tie. -/
def Grid.nearest? (grid : Grid) (i : Interval) : Option Nat :=
  let below := i.value * grid.den / grid.num
  let above := below + 1
  match grid.inside i below, grid.inside i above with
  | true, true =>
    if i.value * grid.den - below * grid.num < above * grid.num - i.value * grid.den then some below
    else some above
  | true, false => some below
  | false, true => some above
  | false, false => none

/-- The first grid of `n`, `n + 1`, … digits with a point in the interval: the point and the
exponent of the step. After `tries` grids the value's own neighbour is taken. -/
def shortestFrom (i : Interval) (exponent k : Int) : Nat → Int → Nat × Int
  | 0, n =>
    let g := k - n + 1
    let grid := gridOf g exponent
    (i.value * grid.den / grid.num, g)
  | tries + 1, n =>
    let g := k - n + 1
    match (gridOf g exponent).nearest? i with
    | some d => (d, g)
    | none => shortestFrom i exponent k tries (n + 1)

/-- The shortest decimal `d * 10 ^ g` that rounds to `significand * 2 ^ exponent`. -/
def shortest (significand : Nat) (exponent : Int) : Nat × Int :=
  let (num, den) := ratio significand exponent
  shortestFrom (interval significand exponent) exponent (decimalExponent num den) 17 1

/-- The digits without the zeros at their end, and the exponent that then goes with them. -/
def dropZeros (ds : List Char) (g : Int) : List Char × Int :=
  let zeros := ds.reverse.takeWhile (· == '0') |>.length
  (ds.take (ds.length - zeros), g + zeros)

/-- Writes the digits of `d * 10 ^ g` with a point where one is needed. -/
def positional (ds : List Char) (g : Int) : List Char :=
  if 0 ≤ g then ds ++ List.replicate g.toNat '0'
  else
    let places := (-g).toNat
    if places < ds.length then
      ds.take (ds.length - places) ++ '.' :: ds.drop (ds.length - places)
    else '0' :: '.' :: List.replicate (places - ds.length) '0' ++ ds

/-- The decimal text: the fewest digits that read back, written out in full. -/
def text : Binary64 → String
  | .nan => "NaN"
  | .infinite negative => if negative then "-inf" else "inf"
  | .finite negative m e =>
    let magnitude :=
      if m = 0 then ['0']
      else
        let (d, g) := shortest m e
        let (ds, g) := dropZeros (digits d) g
        positional ds g
    String.ofList (if negative then '-' :: magnitude else magnitude)

end ApiGateway.Number.Binary64
