import ApiGateway.Text.CodePoints
import ApiGateway.Text.CompositionTable

/-!
# Composed characters

A letter with marks can be one character or several. `compose` gives the composed form of a text: every
character is taken apart (`decompose`), the marks after a letter are put in the order of their classes,
and what composes is put together again. A text of ASCII characters is its own composed form
(`compose_of_ascii`).
-/

namespace ApiGateway.Text

/-! ## Tables -/

/-- A character and its canonical parts, and whether these compose to the character again. -/
structure Decomposition where
  whole : Nat
  parts : List Nat
  composes : Bool

namespace Decomposition

/-- Reads an entry such as `c0=41+300`. -/
def ofChars? (cs : List Char) : Option Decomposition :=
  match cs.span Char.isAlphanum with
  | (whole, mark :: parts) => do
    let whole ← hexOrMark whole
    let parts ← (fields '+' parts).mapM hexOrMark
    return { whole, parts, composes := mark == '=' }
  | _ => none

end Decomposition

/-- The canonical decompositions. -/
def decompositions : Array Decomposition :=
  ((words decompositionText.toList).filterMap Decomposition.ofChars?).toArray

/-- Reads a range with a number such as `300-314:e6`: the first, the last and the number. -/
def numberedRange? (cs : List Char) : Option (Nat × Nat × Nat) :=
  match fields ':' cs with
  | [range, number] => do
    let (first, last) ← CodePoints.rangeOfChars? range
    return (first, last, ← hexOrMark number)
  | _ => none

/-- The combining classes that are not zero. -/
def combiningRanges : List (Nat × Nat × Nat) :=
  (words combiningText.toList).filterMap numberedRange?

/-- The combining class of a code point; letters have class zero. -/
def combiningClass (n : Nat) : Nat :=
  match combiningRanges.find? fun (first, last, _) => first ≤ n && n ≤ last with
  | some (_, _, k) => k
  | none => 0

/-! ## Syllables -/

/-- The first syllable that is composed by rule. -/
def syllableBase : Nat := 0xac00

/-- The first leading consonant, the first vowel, and what comes before the first trailing consonant. -/
def leadBase : Nat := 0x1100
@[inherit_doc leadBase] def vowelBase : Nat := 0x1161
@[inherit_doc leadBase] def trailBase : Nat := 0x11a7

/-- How many vowels there are. -/
def vowelCount : Nat := 21

/-- How many ends of a syllable there are, with no consonant as one of them. -/
def trailCount : Nat := 28

/-- How many syllables there are. -/
def syllableCount : Nat := 19 * vowelCount * trailCount

/-- The parts of a syllable. -/
def syllableParts? (n : Nat) : Option (List Nat) :=
  if syllableBase ≤ n && n < syllableBase + syllableCount then
    let i := n - syllableBase
    let letters :=
      [leadBase + i / (vowelCount * trailCount), vowelBase + i / trailCount % vowelCount]
    some (if i % trailCount = 0 then letters else letters ++ [trailBase + i % trailCount])
  else none

/-- The syllable of two parts. -/
def syllableOf? (a b : Nat) : Option Nat :=
  if leadBase ≤ a && a < leadBase + 19 && vowelBase ≤ b && b < vowelBase + vowelCount then
    some (syllableBase + ((a - leadBase) * vowelCount + (b - vowelBase)) * trailCount)
  else if syllableBase ≤ a && a < syllableBase + syllableCount &&
      (a - syllableBase) % trailCount = 0 && trailBase < b && b < trailBase + trailCount then
    some (a + (b - trailBase))
  else none

/-! ## Taking apart -/

/-- The parts of a code point, taken apart so many times. -/
def partsOf : Nat → Nat → List Nat
  | 0, n => [n]
  | depth + 1, n =>
    if n < 0x80 then [n]
    else
      match syllableParts? n with
      | some parts => parts
      | none =>
        match decompositions.find? fun d => d.whole == n with
        | some d => d.parts.flatMap (partsOf depth)
        | none => [n]

/-- The greatest number of steps in which a character is taken apart. -/
def decompositionDepth : Nat := 6

/-- Puts a mark before those of its class or a higher one. -/
def placeMark (n : Nat) : List Nat → List Nat
  | [] => [n]
  | m :: ms => if combiningClass m < combiningClass n then m :: placeMark n ms else n :: m :: ms

/-- Puts the marks after each letter in the order of their classes. -/
def orderMarks : List Nat → List Nat
  | [] => []
  | n :: rest =>
    if combiningClass n = 0 then n :: orderMarks rest
    else
      let (marks, others) := (orderMarks rest).span fun m => combiningClass m != 0
      placeMark n marks ++ others

/-- The code points of a text, taken apart and in order. -/
def decompose (cs : List Char) : List Nat :=
  orderMarks (cs.flatMap fun c => partsOf decompositionDepth c.toNat)

/-! ## Putting together -/

/-- The code point that two code points compose to. -/
def pair? (a b : Nat) : Option Nat :=
  match syllableOf? a b with
  | some n => some n
  | none => (decompositions.find? fun d => d.composes && d.parts == [a, b]).map (·.whole)

/-- Composes a letter with the marks after it: those kept so far are last first, and `top` is the
class of the last of them. -/
def composeFrom (letter : Nat) (kept : List Nat) (top : Nat) : List Nat → List Nat
  | [] => letter :: kept.reverse
  | n :: rest =>
    let k := combiningClass n
    let free := kept.isEmpty || top < k
    match if free then pair? letter n else none with
    | some whole => composeFrom whole kept top rest
    | none =>
      if k = 0 then letter :: kept.reverse ++ composeFrom n [] 0 rest
      else composeFrom letter (n :: kept) k rest

/-- Composes what was taken apart. Marks before the first letter stay. -/
def recompose : List Nat → List Nat
  | [] => []
  | n :: rest => if combiningClass n = 0 then composeFrom n [] 0 rest else n :: recompose rest

/-- The composed form of a text. -/
def compose (cs : List Char) : List Char :=
  if cs.all fun c => c.toNat < 0x80 then cs else (recompose (decompose cs)).map Char.ofNat

/-- Nothing is composed in ASCII. -/
theorem compose_of_ascii {cs : List Char} (h : ∀ c ∈ cs, c.toNat < 0x80) : compose cs = cs := by
  have : (cs.all fun c => decide (c.toNat < 0x80)) = true := by simpa using h
  simp [compose, this]

end ApiGateway.Text
