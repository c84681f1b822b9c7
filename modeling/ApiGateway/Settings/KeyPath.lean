import ApiGateway.Number.Integer
import ApiGateway.Settings.Value

/-!
# Paths of keys

A key such as `hosts.main[0]` is a path into tables and lists. A key that is no path stands for itself.
`KeyPath.set` puts a value where the path leads and makes the tables and lists that are missing on the
way.
-/

namespace ApiGateway.Settings

/-- A step of a path: to the value of a key, or to an item of a list. A negative place counts from the end. -/
inductive KeyPath.Step where
  | key (name : String)
  | item (place : Int)
  deriving DecidableEq, Repr

/-- A path of keys: the key at the top, and the steps from there. -/
structure KeyPath where
  root : String
  steps : List KeyPath.Step := []
  deriving DecidableEq, Repr

namespace KeyPath

/-- Holds for the characters of names in a path. -/
def isNameChar (c : Char) : Bool :=
  c.isAlphanum || c == '_' || c == '-'

/-- The name that the text begins with, and what follows it. -/
def name? (cs : List Char) : Option (String × List Char) :=
  match cs.span isNameChar with
  | ([], _) => none
  | (name, rest) => some (String.ofList name, rest)

/-- Drops spaces and tabs. -/
def dropGap (cs : List Char) : List Char :=
  cs.dropWhile fun c => c == ' ' || c == '\t'

/-- The place that the text begins with after a bracket, and what follows the bracket that closes. -/
def place? (cs : List Char) : Option (Int × List Char) :=
  let (negative, digits) := match dropGap cs with
    | '-' :: rest => (true, rest)
    | rest => (false, rest)
  let (digits, rest) := digits.span Char.isDigit
  match Number.natOfDigits? 10 digits, dropGap rest with
  | some n, ']' :: rest =>
    let place : Int := if negative then -n else n
    if Number.fitsInt64 place then some (place, rest) else none
  | _, _ => none

/-- The steps that the text spells out; there are at most `fuel`. -/
def stepsWithin? : Nat → List Char → Option (List Step)
  | _, [] => some []
  | 0, _ => none
  | fuel + 1, '.' :: cs => do
    let (name, rest) ← name? cs
    return .key name :: (← stepsWithin? fuel rest)
  | fuel + 1, '[' :: cs => do
    let (place, rest) ← place? cs
    return .item place :: (← stepsWithin? fuel rest)
  | _ + 1, _ => none

/-- The path that a text spells. -/
def ofChars? (cs : List Char) : Option KeyPath := do
  let (root, rest) ← name? cs
  return { root, steps := ← stepsWithin? rest.length rest }

/-- The path of a key: what it spells, or else the key itself. -/
def ofKey (key : String) : KeyPath :=
  (ofChars? key.toList).getD { root := key }

/-- Changes the item at a place. A place behind the end makes the list longer, and one before its
beginning puts as many items there. -/
def alterItem (place : Int) (change : Value → Value) (items : List Value) : List Value :=
  let index := if place < 0 then items.length + place else place
  if index < 0 then
    change .null :: List.replicate (index.natAbs - 1) Value.null ++ items
  else
    let items := items ++ List.replicate (index.toNat + 1 - items.length) Value.null
    items.modify index.toNat change

/-- Changes the value at the end of the steps. -/
def alter (change : Value → Value) : List Step → Value → Value
  | [], v => change v
  | .key name :: steps, v =>
    .table (v.entries.alter name fun old => alter change steps (old.getD .null))
  | .item place :: steps, v => .list (alterItem place (alter change steps) v.items)

end KeyPath

end ApiGateway.Settings
