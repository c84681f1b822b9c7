import ApiGateway.Url.Idna.LabelTable
import ApiGateway.Url.Idna.Mapping

/-!
# The labels of domain names

A label has valid characters in composed form, begins with no mark, and has a joiner only where letters
join (`isLabel`). In a domain name that has characters written from right to left every label is written
in one direction (`isOneWay`).
-/

namespace ApiGateway.Url.Idna

/-! ## Joiners -/

/-- The marks. -/
def marks : Text.CodePoints := .ofText markText

/-- The marks that take the vowel from a consonant. -/
def viramas : Text.CodePoints := .ofText viramaText

/-- The letters that join to what follows. -/
def joinsNext : Text.CodePoints := .ofText joinsNextText

/-- The letters that join to what comes before. -/
def joinsPrevious : Text.CodePoints := .ofText joinsPreviousText

/-- The characters that letters join through. -/
def transparent : Text.CodePoints := .ofText transparentText

/-- Holds if the first of the code points that is not transparent is in the set. -/
def firstLetterIn (points : Text.CodePoints) (ns : List Nat) : Bool :=
  (ns.find? fun n => !transparent.contains n).any points.contains

/-- Holds if the joiners among the code points may stand there; those before them are last first. A
joiner may follow a virama, and one that parts letters may stand between letters that would join. -/
def joinersFit (before : List Nat) : List Nat → Bool
  | [] => true
  | n :: rest =>
    let fits :=
      if n = 0x200c then
        before.head?.any viramas.contains ||
          (firstLetterIn joinsNext before && firstLetterIn joinsPrevious rest)
      else if n = 0x200d then before.head?.any viramas.contains
      else true
    fits && joinersFit (n :: before) rest

/-! ## Directions -/

/-- The classes of direction: from left to right or from right to left, Arabic letters and digits, other digits,
marks on a character, and all else, which goes with either direction. -/
inductive Direction where
  | left
  | right
  | arabic
  | arabicDigit
  | digit
  | mark
  | neutral
  deriving DecidableEq

namespace Direction

/-- The class of a name. -/
def ofName (name : List Char) : Direction :=
  match String.ofList name with
  | "R" => .right
  | "AL" => .arabic
  | "AN" => .arabicDigit
  | "EN" => .digit
  | "NSM" => .mark
  | _ => .neutral

/-- Reads a range with a class such as `5d0-5ea:R`. -/
def rangeOfChars? (cs : List Char) : Option (Nat × Nat × Direction) :=
  match Text.fields ':' cs with
  | [range, name] => (Text.CodePoints.rangeOfChars? range).map fun (a, b) => (a, b, ofName name)
  | _ => none

/-- The ranges of characters that are not simply written from left to right. -/
def ranges : List (Nat × Nat × Direction) :=
  (Text.words directionText.toList).filterMap rangeOfChars?

/-- The class of a character. -/
def of (c : Char) : Direction :=
  match ranges.find? fun (a, b, _) => a ≤ c.toNat && c.toNat ≤ b with
  | some (_, _, d) => d
  | none => .left

/-- Holds for the classes that make a domain name one of both directions. -/
def isRightward (d : Direction) : Bool :=
  d = .right || d = .arabic || d = .arabicDigit

end Direction

/-- Holds if the label is written in one direction. -/
def isOneWay (label : List Char) : Bool :=
  let ds := label.map Direction.of
  let last? := ds.reverse.find? (· != .mark)
  match ds.head? with
  | none => true
  | some first =>
    if first = .left then
      ds.all (fun d => !d.isRightward) && last?.any fun d => d = .left || d = .digit
    else if first = .right || first = .arabic then
      ds.all (· != .left) && !(ds.contains .digit && ds.contains .arabicDigit) &&
        last?.any fun d => d.isRightward || d = .digit
    else false

/-! ## Labels -/

/-- Holds for the labels of domain names as they are shown. -/
def isLabel (label : List Char) : Bool :=
  label.all isValid && Text.compose label == label &&
    !(label.head?.any fun c => marks.contains c.toNat) && joinersFit [] (label.map Char.toNat)

end ApiGateway.Url.Idna
