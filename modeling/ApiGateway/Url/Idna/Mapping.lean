import ApiGateway.Text.Composed
import ApiGateway.Url.Idna.MappingTable

/-!
# The characters of domain names

`mapped?` says what a character of a domain name is mapped to: capital letters to small ones, look-alikes
to their plain form, and some to nothing. Some characters no domain name has.
-/

namespace ApiGateway.Url.Idna

/-- Holds for ASCII characters. -/
def isAscii (c : Char) : Bool :=
  c.toNat < 0x80

/-- A run of characters that are mapped to single characters: the first and the last of them, the distance from one
to the next, and what the first one is mapped to. -/
structure MappedRun where
  first : Nat
  last : Nat
  step : Nat
  target : Nat

namespace MappedRun

/-- Reads a run such as `391-3a1/1:3b1`. -/
def ofChars? (cs : List Char) : Option MappedRun :=
  match (cs.splitBy fun a b => a.isAlphanum && b.isAlphanum).map Text.hexOrMark with
  | [some first, none, some last, none, some step, none, some target] =>
    some { first, last, step, target }
  | _ => none

/-- What a character of the run is mapped to. -/
def target? (run : MappedRun) (n : Nat) : Option Nat :=
  if run.first ≤ n && n ≤ run.last && (n - run.first) % run.step == 0 then
    some (run.target + (n - run.first))
  else none

end MappedRun

/-- Reads a character with what it is mapped to, such as `df:73+73`. -/
def mappedOfChars? (cs : List Char) : Option (Nat × List Char) :=
  match Text.fields ':' cs with
  | [source, target] => do
    let source ← Text.hexOrMark source
    return (source, (← (Text.fields '+' target).mapM Text.hexOrMark).map Char.ofNat)
  | _ => none

/-- The characters that no domain name has. -/
def disallowed : Text.CodePoints := .ofText disallowedText

/-- The characters that are passed over. -/
def ignored : Text.CodePoints := .ofText ignoredText

/-- The runs of characters that are mapped to single characters. -/
def mappedRuns : Array MappedRun :=
  ((Text.words mappedRunsText.toList).filterMap MappedRun.ofChars?).toArray

/-- The characters that are mapped to several. -/
def mappedSeveral : Array (Nat × List Char) :=
  ((Text.words mappedText.toList).filterMap mappedOfChars?).toArray

/-- What a character beyond ASCII is mapped to. -/
def mappedBeyond? (c : Char) : Option (List Char) :=
  let n := c.toNat
  if disallowed.contains n then none
  else if ignored.contains n then some []
  else
    match mappedRuns.findSome? fun run => run.target? n with
    | some target => some [Char.ofNat target]
    | none =>
      match mappedSeveral.find? fun e => e.1 == n with
      | some (_, target) => some target
      | none => some [c]

/-- What a character of a domain name is mapped to. -/
def mapped? (c : Char) : Option (List Char) :=
  if isAscii c then some [c.toLower] else mappedBeyond? c

/-- Holds for the characters that stay. -/
def isValid (c : Char) : Bool :=
  mapped? c == some [c]

/-- A character of ASCII is mapped to its small letter. -/
theorem mapped?_of_ascii {c : Char} (h : isAscii c = true) : mapped? c = some [c.toLower] := by
  simp [mapped?, h]

/-- The small letter of a character of ASCII is in ASCII. -/
theorem isAscii_toLower {c : Char} (h : isAscii c = true) : isAscii c.toLower = true := by
  simp only [isAscii, decide_eq_true_eq] at h ⊢
  unfold Char.toLower
  split
  · rename_i hu
    simp only [Char.toNat] at h ⊢
    have : (c.val + ('a'.val - 'A'.val)).toNat < 0x80 := by
      have h1 : c.val.toNat ≤ 90 := by simpa [UInt32.le_iff_toNat_le] using hu.2
      rw [UInt32.toNat_add]
      have : ('a'.val - 'A'.val).toNat = 32 := by decide
      omega
    exact this
  · exact h

/-- A name of ASCII characters is mapped to its small letters. -/
theorem mapped_of_ascii {cs : List Char} (h : ∀ c ∈ cs, isAscii c = true) :
    cs.mapM mapped? = some (cs.map fun c => [c.toLower]) := by
  induction cs with
  | nil => rfl
  | cons c cs ih =>
    rw [List.mapM_cons, mapped?_of_ascii (h c (by simp)), ih fun d hd => h d (by simp [hd])]
    rfl

end ApiGateway.Url.Idna
