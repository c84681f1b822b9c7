import ApiGateway.Number.Literal
import ApiGateway.Settings.Toml.Moment
import ApiGateway.Settings.Value

/-!
# Truth values, numbers and moments

An atom is a value without quotes or brackets. Between the digits of a number there may be underscores;
an integer that does not fit into 64 bits with a sign, or a floating-point number beyond the greatest,
is no value.
-/

namespace ApiGateway.Settings.Toml

/-- Holds for the characters of atoms. -/
def isAtomChar (c : Char) : Bool :=
  c.isAlphanum || c == '_' || c == '+' || c == '-' || c == '.' || c == ':'

/-- The digits without the underscores between them. -/
def plainDigits? (isDigit : Char → Bool) (cs : List Char) : Option (List Char) :=
  let groups := Text.fields '_' cs
  if groups.all fun g => !g.isEmpty && g.all isDigit then some groups.flatten else none

/-- Digits of which the first of several is not zero. -/
def wholeDigits? (cs : List Char) : Option (List Char) :=
  (plainDigits? Char.isDigit cs).bind fun ds =>
    if ds.length > 1 && ds.head? == some '0' then none else some ds

/-- The sign of a number, and what follows it. -/
def signOf : List Char → List Char × List Char
  | '-' :: cs => (['-'], cs)
  | '+' :: cs => ([], cs)
  | cs => ([], cs)

/-- The integer with the digits of a base. -/
def based? (base : Nat) (digits : List Char) : Option Value := do
  let ds ← plainDigits? (fun c => (Number.digitValue? base c).isSome) digits
  return .int (← Number.int64OfText? base ds)

/-- The integer that the characters spell. -/
def integer? : List Char → Option Value
  | '0' :: 'x' :: cs => based? 16 cs
  | '0' :: 'o' :: cs => based? 8 cs
  | '0' :: 'b' :: cs => based? 2 cs
  | cs => do
    let (sign, cs) := signOf cs
    let ds ← wholeDigits? cs
    return .int (← Number.int64OfText? 10 (sign ++ ds))

/-- The exponent after an `e`, written without underscores. -/
def exponent? : List Char → Option (List Char)
  | [] => some []
  | _ :: cs => do
    let (sign, cs) := signOf cs
    return 'e' :: sign ++ (← plainDigits? Char.isDigit cs)

/-- The floating-point number that the characters spell. -/
def float? (cs : List Char) : Option Value := do
  let (sign, cs) := signOf cs
  if cs = "inf".toList then return .float (.infinite !sign.isEmpty)
  if cs = "nan".toList then return .float .nan
  let (whole, rest) := cs.span fun c => Char.isDigit c || c == '_'
  let (fraction, rest) := match rest with
    | '.' :: rest =>
      let (ds, rest) := rest.span fun c => Char.isDigit c || c == '_'
      (some ds, rest)
    | rest => (none, rest)
  if fraction.isNone && rest.isEmpty then none
  if !(rest.head?.all fun c => c == 'e' || c == 'E') then none
  let whole ← wholeDigits? whole
  let fraction ←
    match fraction with
    | none => pure []
    | some ds => (plainDigits? Char.isDigit ds).map ('.' :: ·)
  let x ← Number.Binary64.ofText? (sign ++ whole ++ fraction ++ (← exponent? rest))
  match x with
  | .infinite _ => none
  | x => return .float x

/-- The value that an atom stands for. -/
def atom? (cs : List Char) : Option Value :=
  if cs = "true".toList then some (.bool true)
  else if cs = "false".toList then some (.bool false)
  else
    match Moment.text? cs with
    | some moment => some (.text (String.ofList moment))
    | none => (integer? cs).or (float? cs)

/-- The atom that the text begins with, and what follows it. A space may stand between a date and a
time. -/
def spanAtom (cs : List Char) : List Char × List Char :=
  let (atom, rest) := cs.span isAtomChar
  match Moment.date? atom, rest with
  | some (_, []), ' ' :: d :: rest =>
    if d.isDigit then
      let (time, rest) := (d :: rest).span isAtomChar
      (atom ++ ' ' :: time, rest)
    else (atom, ' ' :: d :: rest)
  | _, _ => (atom, rest)

end ApiGateway.Settings.Toml
