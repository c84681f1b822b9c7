import ApiGateway.Number.Literal
import ApiGateway.Settings.Value

/-!
# Settings in JSON

Reads a JSON text. Lists and tables may be nested at most 127 deep, a key that is there twice has its
last value, and an integer that does not fit into 64 bits with a sign is a floating-point number. The
digits of a number are taken as long as they fit into 64 bits; the power of ten is then multiplied in
with one rounding.
-/

namespace ApiGateway.Settings.Json

/-- Holds for the blanks between tokens. -/
def isGap (c : Char) : Bool :=
  c == ' ' || c == '\n' || c == '\r' || c == '\t'

/-- Drops blanks. -/
def dropGap (cs : List Char) : List Char :=
  cs.dropWhile isGap

/-! ## Texts -/

/-- A piece of a text: a character, or the number of a 16-bit unit. -/
inductive Piece where
  | char (c : Char)
  | unit (n : Nat)

/-- The character that a letter after a backslash stands for. -/
def escape? : Char → Option Char
  | '"' => some '"'
  | '\\' => some '\\'
  | '/' => some '/'
  | 'b' => some '\x08'
  | 'f' => some '\x0c'
  | 'n' => some '\n'
  | 'r' => some '\r'
  | 't' => some '\t'
  | _ => none

/-- The pieces up to the closing quote, and what follows it. -/
def pieces? : List Char → Option (List Piece × List Char)
  | [] => none
  | '"' :: rest => some ([], rest)
  | '\\' :: 'u' :: a :: b :: c :: d :: rest => do
    let n ← Number.natOfDigits? 16 [a, b, c, d]
    let (ps, rest) ← pieces? rest
    return (.unit n :: ps, rest)
  | '\\' :: letter :: rest => do
    let c ← escape? letter
    let (ps, rest) ← pieces? rest
    return (.char c :: ps, rest)
  | c :: rest => do
    if c.toNat < 0x20 then none
    let (ps, rest) ← pieces? rest
    return (.char c :: ps, rest)

/-- The characters that the pieces make up; two units may make up one character. -/
def join? : List Piece → Option (List Char)
  | [] => some []
  | .char c :: ps => (join? ps).map (c :: ·)
  | .unit high :: .unit low :: ps =>
    if 0xd800 ≤ high && high < 0xdc00 then
      if 0xdc00 ≤ low && low < 0xe000 then
        (join? ps).map (Char.ofNat (0x10000 + (high - 0xd800) * 0x400 + (low - 0xdc00)) :: ·)
      else none
    else if 0xdc00 ≤ high && high < 0xe000 then none
    else (join? (.unit low :: ps)).map (Char.ofNat high :: ·)
  | .unit n :: ps =>
    if 0xd800 ≤ n && n < 0xe000 then none else (join? ps).map (Char.ofNat n :: ·)

/-- The text up to the closing quote, and what follows it. -/
def text? (cs : List Char) : Option (String × List Char) := do
  let (ps, rest) ← pieces? cs
  return (String.ofList (← join? ps), rest)

/-! ## Numbers -/

/-- Takes digits onto a significand as long as it fits into 64 bits; gives it and the digits left. -/
def takeDigits (significand : Nat) : List Char → Nat × List Char
  | [] => (significand, [])
  | c :: cs =>
    let next := significand * 10 + (c.toNat - 0x30)
    if next < Nat.pow 2 64 then takeDigits next cs else (significand, c :: cs)

/-- Multiplies by a power of ten; beyond the greatest number there is none. Powers below the least one
of the table are divided out in steps. -/
def scale? : Nat → Number.Binary64 → Int → Option Number.Binary64
  | steps, x, exponent =>
    if exponent.natAbs ≤ 308 then
      let power := Number.Binary64.ofDecimal false 1 exponent.natAbs
      if 0 ≤ exponent then
        match x.mul power with
        | .infinite _ => none
        | y => some y
      else some (x.div power)
    else if x.isZero then some x
    else if 0 ≤ exponent then none
    else
      match steps with
      | 0 => some (.zero false)
      | steps + 1 => scale? steps (x.div (Number.Binary64.ofDecimal false 1 308)) (exponent + 308)

/-- The number of the digits before and after the point and the exponent. -/
def floatOf? (negative : Bool) (whole fraction : List Char) (exponent : Int) : Option Value := do
  let (significand, excess) := takeDigits 0 whole
  let (significand, left) := takeDigits significand fraction
  let shift : Int := excess.length - (fraction.length - left.length : Nat)
  let x ← scale? 4 (.ofNat significand) (shift + exponent)
  return .float (if negative then x.neg else x)

/-- The integer of the digits. -/
def integerOf? (negative : Bool) (whole : List Char) : Option Value := do
  let n ← Number.natOfDigits? 10 whole
  let i : Int := if negative then -n else n
  if n < Nat.pow 2 64 then
    if Number.fitsInt64 i && !(negative && n == 0) then return .int i
    else
      let x := Number.Binary64.ofNat n
      return .float (if negative then x.neg else x)
  else floatOf? negative whole [] 0

/-- The digits after a point, if there is one. -/
def fraction? : List Char → Option (Option (List Char) × List Char)
  | '.' :: cs =>
    match cs.span Char.isDigit with
    | ([], _) => none
    | (ds, rest) => some (some ds, rest)
  | cs => some (none, cs)

/-- The exponent after an `e`, if there is one. -/
def exponent? : List Char → Option (Option Int × List Char)
  | c :: cs =>
    if c == 'e' || c == 'E' then do
      let (negative, cs) := match cs with
        | '-' :: cs => (true, cs)
        | '+' :: cs => (false, cs)
        | cs => (false, cs)
      let (ds, rest) := cs.span Char.isDigit
      let n ← Number.natOfDigits? 10 ds
      return (some (if negative then -(n : Int) else n), rest)
    else some (none, c :: cs)
  | [] => some (none, [])

/-- The number that the text begins with. -/
def number? (cs : List Char) : Option (Value × List Char) := do
  let (negative, cs) := match cs with
    | '-' :: cs => (true, cs)
    | cs => (false, cs)
  let (whole, rest) := cs.span Char.isDigit
  if whole.isEmpty || (whole.length > 1 && whole.head? == some '0') then none
  let (fraction, rest) ← fraction? rest
  let (exponent, rest) ← exponent? rest
  let value ←
    match fraction, exponent with
    | none, none => integerOf? negative whole
    | fraction, exponent => floatOf? negative whole (fraction.getD []) (exponent.getD 0)
  return (value, rest)

/-! ## Values -/

mutual

/-- The value that the text begins with, nested less deep than `depth`. -/
def value? : Nat → Nat → List Char → Option (Value × List Char)
  | 0, _, _ => none
  | fuel + 1, depth, cs =>
    match dropGap cs with
    | '{' :: rest =>
      if depth ≤ 1 then none
      else
        match dropGap rest with
        | '}' :: rest => some (.table [], rest)
        | rest => do
          let (entries, rest) ← entries? fuel (depth - 1) [] rest
          return (.table entries, rest)
    | '[' :: rest =>
      if depth ≤ 1 then none
      else
        match dropGap rest with
        | ']' :: rest => some (.list [], rest)
        | rest => do
          let (items, rest) ← items? fuel (depth - 1) rest
          return (.list items, rest)
    | '"' :: rest => do
      let (s, rest) ← text? rest
      return (.text s, rest)
    | 't' :: 'r' :: 'u' :: 'e' :: rest => some (.bool true, rest)
    | 'f' :: 'a' :: 'l' :: 's' :: 'e' :: rest => some (.bool false, rest)
    | 'n' :: 'u' :: 'l' :: 'l' :: rest => some (.null, rest)
    | rest => number? rest

/-- The items up to the closing bracket. -/
def items? : Nat → Nat → List Char → Option (List Value × List Char)
  | 0, _, _ => none
  | fuel + 1, depth, cs => do
    let (v, rest) ← value? fuel depth cs
    match dropGap rest with
    | ']' :: rest => return ([v], rest)
    | ',' :: rest => do
      let (vs, rest) ← items? fuel depth rest
      return (v :: vs, rest)
    | _ => none

/-- The entries up to the closing brace, after those that were read. -/
def entries? : Nat → Nat → Table → List Char → Option (Table × List Char)
  | 0, _, _, _ => none
  | fuel + 1, depth, entries, cs =>
    match dropGap cs with
    | '"' :: rest => do
      let (key, rest) ← text? rest
      match dropGap rest with
      | ':' :: rest => do
        let (v, rest) ← value? fuel depth rest
        let entries := entries.put key v
        match dropGap rest with
        | '}' :: rest => return (entries, rest)
        | ',' :: rest => entries? fuel depth entries rest
        | _ => none
      | _ => none
    | _ => none

end

/-- The value that a text spells. -/
def ofChars? (cs : List Char) : Option Value := do
  let (v, rest) ← value? (2 * cs.length + 2) 128 cs
  if (dropGap rest).isEmpty then return v else none

end ApiGateway.Settings.Json
