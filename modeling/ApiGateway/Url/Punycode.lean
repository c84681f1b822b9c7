import ApiGateway.Number.Integer

/-!
# Punycode

A label with characters beyond ASCII is written with ASCII letters and digits: first its ASCII
characters, then, after a hyphen, where each of the others is to be inserted. The places are counted
with digits of varying weight (`threshold`), whose weights follow the numbers seen so far (`adapt`).
-/

namespace ApiGateway.Url.Punycode

/-- The number of digits. -/
def base : Nat := 36

/-- The bias before any number was seen. -/
def initialBias : Nat := 72

/-- The first character that is not ASCII. -/
def initialCode : Nat := 128

/-- The weight of the digit at position `k`. -/
def threshold (bias k : Nat) : Nat :=
  if k ≤ bias then 1 else if bias + 26 ≤ k then 26 else k - bias

/-- No threshold is zero. -/
theorem threshold_pos (bias k : Nat) : 0 < threshold bias k := by
  unfold threshold
  split
  · omega
  · split <;> omega

/-- Shrinks a number until it fits below the limit, counting the steps in `k`. -/
def adaptFrom (delta k : Nat) : Nat :=
  if 455 < delta then adaptFrom (delta / 35) (k + base)
  else k + 36 * delta / (delta + 38)
termination_by delta

/-- The bias after a number was seen: the first one is damped more strongly. -/
def adapt (delta points : Nat) (first : Bool) : Nat :=
  let delta := if first then delta / 700 else delta / 2
  adaptFrom (delta + delta / points) 0

/-- The digit of a value: the letters, then the figures. -/
def digitChar (d : Nat) : Char :=
  if d < 26 then Char.ofNat (0x61 + d) else Char.ofNat (0x30 + (d - 26))

/-- The value of a digit. -/
def digitValue? (c : Char) : Option Nat :=
  let n := c.toNat
  if 0x61 ≤ n && n ≤ 0x7a then some (n - 0x61)
  else if 0x41 ≤ n && n ≤ 0x5a then some (n - 0x41)
  else if 0x30 ≤ n && n ≤ 0x39 then some (n - 0x30 + 26)
  else none

/-- Writes a number whose next digit is the one at position `k`. -/
def encodeNumber (bias n k : Nat) : List Char :=
  let t := threshold bias k
  if n < t then [digitChar n]
  else digitChar (t + (n - t) % (base - t)) :: encodeNumber bias ((n - t) / (base - t)) (k + base)
termination_by n
decreasing_by
  have ht := threshold_pos bias k
  exact Nat.lt_of_le_of_lt (Nat.div_le_self _ _) (by omega)

/-- The state of writing a label: the number to write next, the bias, how many characters are written, whether no
number is written yet, and the digits so far. -/
structure Writer where
  delta : Nat := 0
  bias : Nat := initialBias
  written : Nat
  first : Bool := true
  out : List Char := []

/-- Passes one character of the label while those of code `code` are inserted. -/
def Writer.pass (code : Nat) (w : Writer) (c : Char) : Writer :=
  if c.toNat < code then { w with delta := w.delta + 1 }
  else if c.toNat = code then
    { delta := 0
      bias := adapt w.delta (w.written + 1) w.first
      written := w.written + 1
      first := false
      out := w.out ++ encodeNumber w.bias w.delta base }
  else w

/-- Inserts the characters of the given codes, in the order of the codes. -/
def Writer.insertAll (label : List Char) : Writer → Nat → List Nat → Writer
  | w, _, [] => w
  | w, reached, code :: codes =>
    let w := { w with delta := w.delta + (code - reached) * (w.written + 1) }
    let w := label.foldl (pass code) w
    insertAll label { w with delta := w.delta + 1 } (code + 1) codes

/-- Keeps the first of equal neighbours. -/
def distinct : List Nat → List Nat
  | a :: b :: rest => if a = b then distinct (b :: rest) else a :: distinct (b :: rest)
  | rest => rest

/-- The digits for a label. -/
def encode (label : List Char) : List Char :=
  let (ascii, others) := label.partition fun c => c.toNat < initialCode
  let codes := distinct ((others.map Char.toNat).mergeSort (· ≤ ·))
  let lead := if ascii.isEmpty then [] else ascii ++ ['-']
  lead ++ (Writer.insertAll label { written := ascii.length } initialCode codes).out

/-- The state of reading the digits of a label: the code of the character inserted last and the place after it, the
bias, whether no number was read yet, the number read so far, what the next digit counts and its position, and the
label so far. -/
structure Reader where
  code : Nat := initialCode
  place : Nat := 0
  bias : Nat := initialBias
  first : Bool := true
  sum : Nat := 0
  weight : Nat := 1
  k : Nat := base
  label : List Char

/-- The character of a code, if it has one. -/
def charOfCode? (n : Nat) : Option Char :=
  if n < 0xd800 || (0xdfff < n && n < 0x110000) then some (Char.ofNat n) else none

/-- Reads a digit; a last digit of a number inserts a character. -/
def Reader.step (r : Reader) (c : Char) : Option Reader := do
  let d ← digitValue? c
  let t := threshold r.bias r.k
  let sum := r.sum + d * r.weight
  if t ≤ d then
    some { r with sum, weight := r.weight * (base - t), k := r.k + base }
  else
    let points := r.label.length + 1
    let position := r.place + sum
    let code := r.code + position / points
    let place := position % points
    let inserted ← charOfCode? code
    some
      { code
        place := place + 1
        bias := adapt sum points r.first
        first := false
        label := r.label.take place ++ inserted :: r.label.drop place }

/-- Splits the digits at the last hyphen, if there is one after the first character. -/
def splitLead (cs : List Char) : List Char × List Char :=
  let tail := cs.reverse.takeWhile (· != '-')
  if cs.length ≤ tail.length + 1 then ([], cs)
  else (cs.take (cs.length - tail.length - 1), tail.reverse)

/-- The label for digits; each number has to be complete. -/
def decode? (cs : List Char) : Option (List Char) := do
  let (lead, digits) := splitLead cs
  let r ← digits.foldlM Reader.step { label := lead }
  if r.k = base then some r.label else none

end ApiGateway.Url.Punycode
