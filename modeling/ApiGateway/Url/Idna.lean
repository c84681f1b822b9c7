import ApiGateway.Text.Blank
import ApiGateway.Url.Idna.Label
import ApiGateway.Url.Punycode

/-!
# Internationalised domain names

`Idna.toAscii?` gives the ASCII form of a domain name: characters are mapped (capital letters to small
ones, look-alikes to their plain form, soft hyphens to nothing) and composed, and a label that still has
a character beyond ASCII is written in Punycode after `xn--`. A name of ASCII characters whose labels can
be shown is only written in small letters (`toAscii?_of_ascii`).
-/

namespace ApiGateway.Url.Idna

/-- A character that no domain name has: controls, blanks, and the marks that delimit parts of a URL. -/
def isForbidden (c : Char) : Bool :=
  c.toNat ≤ 0x20 || c.toNat = 0x7f || "%#/:<>?@[\\]^|".toList.contains c

/-- The mark of a label that is written in Punycode. -/
def mark : List Char := "xn--".toList

/-- Holds if the label is, or claims to be, written in Punycode. -/
def isMarked (label : List Char) : Bool :=
  (Text.after? mark label).isSome

/-- How many characters of Punycode are read in a label. -/
def decodedLimit : Nat := 2000

/-- How many characters of a label are written in Punycode. -/
def encodedLimit : Nat := 1000

/-- A label as it is shown: one in Punycode is ASCII itself and stands for characters not all of which
are. -/
def shown? (label : List Char) : Option (List Char) :=
  match Text.after? mark label with
  | some digits =>
    if decodedLimit < digits.length || !digits.all isAscii then none
    else (Punycode.decode? digits).filter fun cs => cs.any (!isAscii ·) && isLabel cs && !isMarked cs
  | none =>
    if label.all isAscii || (label.length ≤ encodedLimit && isLabel label) then some label else none

/-- A label that is shown so in ASCII. -/
def encoded (label : List Char) : List Char :=
  if label.all isAscii then label else mark ++ Punycode.encode label

/-- The ASCII form of a mapped label. -/
def ascii (label : List Char) : List Char :=
  if isMarked label then label else encoded label

/-- Holds if the labels may stand in one domain name. -/
def directionsFit (labels : List (List Char)) : Bool :=
  let isMixed := labels.any fun l => !l.all isAscii && l.any fun c => (Direction.of c).isRightward
  !isMixed || labels.all isOneWay

/-- The ASCII form of a domain name, if it has one and that has no forbidden character. -/
def toAscii? (domain : List Char) : Option (List Char) := do
  let mapped ← domain.mapM mapped?
  let labels := Text.fields '.' (Text.compose mapped.flatten)
  let shown ← labels.mapM shown?
  if !directionsFit shown then none
  let name := ((labels.map ascii).intersperse ['.']).flatten
  if name.any isForbidden then none else some name

/-- Small letters for capital ones leave ASCII characters in ASCII. -/
theorem isAscii_of_mem_lower {cs : List Char} (h : ∀ c ∈ cs, isAscii c = true) :
    ∀ c ∈ cs.map Char.toLower, isAscii c = true := by
  intro c hc
  obtain ⟨d, hd, rfl⟩ := List.mem_map.1 hc
  exact isAscii_toLower (h d hd)

/-- A label of ASCII characters is its own ASCII form. -/
theorem ascii_of_ascii {label : List Char} (h : ∀ c ∈ label, isAscii c = true) : ascii label = label := by
  have hall : label.all isAscii = true := by simpa using h
  simp [ascii, encoded, hall]

/-- A name of ASCII characters is written in small letters, if its labels can be shown. -/
theorem toAscii?_of_ascii {domain : List Char} (h : ∀ c ∈ domain, isAscii c = true) :
    toAscii? domain =
      ((Text.fields '.' (domain.map Char.toLower)).mapM shown?).bind fun shown =>
        if directionsFit shown && !(domain.map Char.toLower).any isForbidden then some (domain.map Char.toLower)
        else none := by
  have low := isAscii_of_mem_lower h
  have flat : (domain.map fun c => [c.toLower]).flatten = domain.map Char.toLower := by
    rw [← List.flatMap_def, ← List.map_eq_flatMap]
  have comp : Text.compose (domain.map Char.toLower) = domain.map Char.toLower :=
    Text.compose_of_ascii fun c hc => by simpa [isAscii] using low c hc
  have same : (Text.fields '.' (domain.map Char.toLower)).map ascii =
      Text.fields '.' (domain.map Char.toLower) := by
    conv => rhs; rw [← List.map_id (Text.fields '.' (domain.map Char.toLower))]
    exact List.map_congr_left fun l hl => ascii_of_ascii fun c hc => low c (Text.mem_of_mem_field hl hc)
  simp only [toAscii?, mapped_of_ascii h, flat, comp, same, Text.intersperse_fields, Option.bind_eq_bind,
    Option.bind_some]
  refine congrArg _ (funext fun shown => ?_)
  cases directionsFit shown
  · rfl
  · cases (domain.map Char.toLower).any isForbidden <;> rfl

end ApiGateway.Url.Idna
