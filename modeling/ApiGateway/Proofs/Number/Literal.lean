import ApiGateway.Number.Literal
import ApiGateway.Proofs.Number.Digits
import ApiGateway.Proofs.Text.Characters

/-!
# The characters of numbers

What is read as a number has digits, letters, signs and points only (`isLiteralChar_of_int64OfText?`,
`isLiteralChar_of_ofText?`). It has a digit or a sign unless it is one of the words `inf`, `infinity` and `nan`
(`isWord_of_ofText?`). An integer that is written out is read back (`int64OfText?_intText`).
-/

namespace ApiGateway.Number

/-! ### Digits -/

/-- The digits of base ten, and nothing else, have a value in it. -/
lemma digitValue?_ten {c : Char} :
    digitValue? 10 c = if c.isDigit then some (c.toNat - '0'.toNat) else none := by
  have hzero : '0'.toNat = 0x30 := rfl
  unfold digitValue?
  simp only [Bool.and_eq_true, decide_eq_true_eq, ← Text.isDigit_iff, hzero]
  cases hdigit : c.isDigit with
  | true =>
    have hrange := Text.isDigit_iff.mp hdigit
    rw [if_pos rfl, if_pos (by omega), if_pos rfl]
  | false =>
    -- a letter counts for ten at least
    have hvalue : ¬ (if 0x61 ≤ c.toNat ∧ c.toNat ≤ 0x7a then c.toNat - 0x61 + 10
        else if 0x41 ≤ c.toNat ∧ c.toNat ≤ 0x5a then c.toNat - 0x41 + 10 else 10) < 10 := by
      split_ifs <;> omega
    simp only [Bool.false_eq_true, if_false, if_neg hvalue]

/-- Characters are read onto a number exactly if all of them are digits, and as what these make of it. -/
lemma natOntoDigits?_eq_some_iff {acc n : Nat} {cs : List Char} :
    natOntoDigits? 10 acc cs = some n ↔ (∀ c ∈ cs, c.isDigit = true) ∧ n = Nat.ofDigitChars 10 cs acc := by
  induction cs generalizing acc with
  | nil =>
    rw [natOntoDigits?, Nat.ofDigitChars_nil, Option.some.injEq]
    exact ⟨fun h => ⟨List.forall_mem_nil _, h.symm⟩, fun h => h.2.symm⟩
  | cons c cs ih =>
    rw [natOntoDigits?, digitValue?_ten, Nat.ofDigitChars_cons]
    cases hdigit : c.isDigit with
    | false => simp [hdigit]
    | true => simp [hdigit, ih, Nat.mul_comm]

/-- A number is read exactly from digits, at least one, and is what they count. -/
lemma natOfDigits?_eq_some_iff {n : Nat} {cs : List Char} :
    natOfDigits? 10 cs = some n ↔ cs ≠ [] ∧ (∀ c ∈ cs, c.isDigit = true) ∧ n = Nat.ofDigitChars 10 cs 0 := by
  cases cs with
  | nil => simp [natOfDigits?]
  | cons c cs => simp [natOfDigits?, natOntoDigits?_eq_some_iff]

/-- A natural number is written in digits. -/
lemma isDigit_of_mem_digits {n : Nat} {c : Char} (h : c ∈ digits n) : c.isDigit = true :=
  Nat.isDigit_of_mem_toDigits (by decide) (by decide) h

/-- A natural number is written in letters or digits. -/
lemma isAlphanum_of_mem_digits {n : Nat} {c : Char} (h : c ∈ digits n) : c.isAlphanum = true := by
  rw [Char.isAlphanum, isDigit_of_mem_digits h, Bool.or_true]

/-- A natural number is read back from its digits. -/
lemma natOfDigits?_digits (n : Nat) : natOfDigits? 10 (digits n) = some n :=
  natOfDigits?_toDigits (by decide) (by decide) n

/-! ### Integers -/

/-- A text that begins with a digit is read without a sign. -/
lemma intOfText?_of_digit {base : Nat} {c : Char} {cs : List Char} (h : c.isDigit = true) :
    intOfText? base (c :: cs) = (natOfDigits? base (c :: cs)).map Int.ofNat := by
  unfold intOfText?
  split
  · rename_i heq
    cases heq
    cases h
  · rename_i heq
    cases heq
    cases h
  · rfl

/-- An integer is written as its digits, behind a minus sign if it is negative. -/
lemma toList_intText (i : Int) :
    (intText i).toList = if i < 0 then '-' :: digits i.natAbs else digits i.natAbs := by
  rw [intText]
  split
  · exact String.toList_ofList
  · exact String.toList_ofList

/-- An integer is read back from how it is written. -/
lemma intOfText?_intText (i : Int) : intOfText? 10 (intText i).toList = some i := by
  rw [toList_intText]
  split
  · rw [intOfText?, natOfDigits?_digits]
    exact congrArg some (show -(i.natAbs : Int) = i by omega)
  · cases hdigits : digits i.natAbs with
    | nil => exact absurd hdigits Nat.toDigits_ne_nil
    | cons c cs =>
      have hc : c.isDigit = true := isDigit_of_mem_digits (by rw [hdigits]; exact List.mem_cons_self)
      rw [intOfText?_of_digit hc, ← hdigits, natOfDigits?_digits]
      exact congrArg some (Int.natAbs_of_nonneg (by omega))

/-- An integer of 64 bits that is written out is read back. -/
lemma int64OfText?_intText {i : Int} (h : fitsInt64 i = true) : int64OfText? 10 (intText i).toList = some i := by
  rw [int64OfText?, intOfText?_intText, Option.bind_some, if_pos h]

/-! ### The characters of literals -/

/-- The characters of numbers as they are written: letters, digits, signs and the point. -/
def isLiteralChar (c : Char) : Bool :=
  c.isAlphanum || c == '+' || c == '-' || c == '.'

/-- Digits are characters of numbers. -/
lemma isLiteralChar_of_isDigit {c : Char} (h : c.isDigit = true) : isLiteralChar c = true := by
  simp [isLiteralChar, Char.isAlphanum, h]

/-- Letters are characters of numbers. -/
lemma isLiteralChar_of_isAlpha {c : Char} (h : c.isAlpha = true) : isLiteralChar c = true := by
  simp [isLiteralChar, Char.isAlphanum, h]

/-- An integer is a sign, which may be missing, and digits. -/
lemma exists_digits_of_intOfText? {cs : List Char} {i : Int} (h : intOfText? 10 cs = some i) :
    ∃ sign ds, ∃ n : Nat,
      cs = sign ++ ds ∧ (sign = [] ∨ sign = ['-'] ∨ sign = ['+']) ∧ natOfDigits? 10 ds = some n := by
  unfold intOfText? at h
  split at h
  · obtain ⟨_, hn, _⟩ := Option.map_eq_some_iff.mp h
    obtain ⟨n, hn, _⟩ := Option.bind_eq_some_iff.mp hn
    exact ⟨['-'], _, n, rfl, by simp, hn⟩
  · obtain ⟨n, hn, _⟩ := Option.map_eq_some_iff.mp h
    exact ⟨['+'], _, n, rfl, by simp, hn⟩
  · obtain ⟨n, hn, _⟩ := Option.map_eq_some_iff.mp h
    exact ⟨[], _, n, rfl, by simp, hn⟩

/-- What is read as an integer has characters of numbers only. -/
lemma isLiteralChar_of_intOfText? {cs : List Char} {i : Int} (h : intOfText? 10 cs = some i) :
    ∀ c ∈ cs, isLiteralChar c = true := by
  obtain ⟨sign, ds, n, rfl, hsign, hn⟩ := exists_digits_of_intOfText? h
  obtain ⟨_, hdigits, _⟩ := natOfDigits?_eq_some_iff.mp hn
  intro c hc
  obtain hc | hc := List.mem_append.mp hc
  · obtain rfl | rfl | rfl := hsign
    · cases hc
    · cases List.mem_singleton.mp hc
      rfl
    · cases List.mem_singleton.mp hc
      rfl
  · exact isLiteralChar_of_isDigit (hdigits c hc)

/-- What is read as an integer of 64 bits has characters of numbers only. -/
lemma isLiteralChar_of_int64OfText? {cs : List Char} {i : Int} (h : int64OfText? 10 cs = some i) :
    ∀ c ∈ cs, isLiteralChar c = true := by
  obtain ⟨j, hj, _⟩ := Option.bind_eq_some_iff.mp h
  exact isLiteralChar_of_intOfText? hj

/-- An integer has a digit. -/
lemma exists_mem_of_int64OfText? {cs : List Char} {i : Int} (h : int64OfText? 10 cs = some i) :
    ∃ c ∈ cs, c.isAlpha = false := by
  obtain ⟨j, hj, _⟩ := Option.bind_eq_some_iff.mp h
  obtain ⟨sign, ds, n, rfl, _, hn⟩ := exists_digits_of_intOfText? hj
  obtain ⟨hds, hdigits, _⟩ := natOfDigits?_eq_some_iff.mp hn
  obtain ⟨d, hd⟩ := List.exists_mem_of_ne_nil ds hds
  exact ⟨d, List.mem_append_right sign hd, Text.isAlpha_of_isDigit (hdigits d hd)⟩

namespace Binary64

/-- The letters of a word are literal characters. -/
lemma isLiteralChar_of_word {cs word : List Char} (h : Text.lowerAscii cs = word)
    (hword : ∀ c ∈ word, c.isAlpha = true) : ∀ c ∈ cs, isLiteralChar c = true := by
  intro c hc
  have halpha : c.toLower.isAlpha = true := hword _ (h ▸ List.mem_map_of_mem hc)
  exact isLiteralChar_of_isAlpha ((Char.isAlpha_toLower_eq_isAlpha c).symm.trans halpha)

/-- What is read as an exponent has characters of numbers only. -/
lemma isLiteralChar_of_exponentOfText? {cs : List Char} {e : Int} (h : exponentOfText? cs = some e) :
    ∀ c ∈ cs, isLiteralChar c = true := by
  cases cs with
  | nil => nofun
  | cons first cs =>
    rw [exponentOfText?] at h
    split at h
    · rename_i hfirst
      intro c hc
      obtain rfl | hc := List.mem_cons.mp hc
      · obtain rfl | rfl : c = 'e' ∨ c = 'E' := by simpa using hfirst
        · rfl
        · rfl
      · exact isLiteralChar_of_intOfText? h c hc
    · cases h

/-- The digits that a text begins with, and the rest. -/
lemma spanDigits_eq (cs : List Char) : spanDigits cs = (cs.takeWhile Char.isDigit, cs.dropWhile Char.isDigit) :=
  List.span_eq_takeWhile_dropWhile _ _

/-- Digits in front of characters of numbers are such characters too. -/
lemma isLiteralChar_of_mem {cs : List Char} (h : ∀ c ∈ cs.dropWhile Char.isDigit, isLiteralChar c = true) :
    ∀ c ∈ cs, isLiteralChar c = true := by
  intro c hc
  rw [← List.takeWhile_append_dropWhile (p := Char.isDigit) (l := cs), List.mem_append] at hc
  obtain hc | hc := hc
  · exact isLiteralChar_of_isDigit (List.mem_takeWhile_imp hc)
  · exact h c hc

/-- What is read as digits with a point and an exponent has characters of numbers only. -/
lemma isLiteralChar_of_ofDigits? {negative : Bool} {cs : List Char} {x : Binary64}
    (h : ofDigits? negative cs = some x) : ∀ c ∈ cs, isLiteralChar c = true := by
  apply isLiteralChar_of_mem
  unfold ofDigits? at h
  simp only [spanDigits_eq] at h
  split at h
  · -- a point, more digits and the exponent
    rename_i tail htail
    split at h
    · cases h
    · obtain ⟨e, he, _⟩ := Option.bind_eq_some_iff.mp h
      rw [htail]
      intro c hc
      obtain rfl | hc := List.mem_cons.mp hc
      · rfl
      · exact isLiteralChar_of_mem (isLiteralChar_of_exponentOfText? he) c hc
  · split at h
    · cases h
    · obtain ⟨e, he, _⟩ := Option.bind_eq_some_iff.mp h
      exact isLiteralChar_of_exponentOfText? he

/-- What is read as a number without a sign has characters of numbers only. -/
lemma isLiteralChar_of_ofMagnitude? {negative : Bool} {cs : List Char} {x : Binary64}
    (h : ofMagnitude? negative cs = some x) : ∀ c ∈ cs, isLiteralChar c = true := by
  unfold ofMagnitude? at h
  simp only [Bool.or_eq_true, decide_eq_true_eq] at h
  split at h
  · rename_i hword
    obtain hword | hword := hword
    · exact isLiteralChar_of_word hword (by simp)
    · exact isLiteralChar_of_word hword (by simp)
  · split at h
    · rename_i hword
      exact isLiteralChar_of_word hword (by simp)
    · exact isLiteralChar_of_ofDigits? h

/-- Every literal of a floating-point number has characters of numbers only. -/
lemma isLiteralChar_of_ofText? {cs : List Char} {x : Binary64} (h : ofText? cs = some x) :
    ∀ c ∈ cs, isLiteralChar c = true := by
  unfold ofText? at h
  split at h
  · intro c hc
    obtain rfl | hc := List.mem_cons.mp hc
    · rfl
    · exact isLiteralChar_of_ofMagnitude? h c hc
  · intro c hc
    obtain rfl | hc := List.mem_cons.mp hc
    · rfl
    · exact isLiteralChar_of_ofMagnitude? h c hc
  · exact isLiteralChar_of_ofMagnitude? h

/-! ### Literals without digits -/

/-- Holds for the words that are read as numbers, in any case. -/
def IsWord (cs : List Char) : Prop :=
  Text.lowerAscii cs = "inf".toList ∨ Text.lowerAscii cs = "infinity".toList ∨ Text.lowerAscii cs = "nan".toList

/-- A number that is written with digits has a character that is no letter. -/
lemma exists_mem_of_ofDigits? {negative : Bool} {cs : List Char} {x : Binary64}
    (h : ofDigits? negative cs = some x) : ∃ c ∈ cs, c.isAlpha = false := by
  -- either there is a digit before the point, or the text begins with the point
  cases hwhole : cs.takeWhile Char.isDigit with
  | cons d ds =>
    have hd : d ∈ cs.takeWhile Char.isDigit := hwhole ▸ List.mem_cons_self
    exact ⟨d, List.takeWhile_subset _ hd, Text.isAlpha_of_isDigit (List.mem_takeWhile_imp hd)⟩
  | nil =>
    unfold ofDigits? at h
    simp only [spanDigits_eq, hwhole, List.isEmpty_nil, Bool.true_and] at h
    split at h
    · rename_i tail htail
      exact ⟨'.', List.dropWhile_subset _ (htail ▸ List.mem_cons_self), rfl⟩
    · cases h

/-- A literal without a sign that has letters only is a word. -/
lemma isWord_of_ofMagnitude? {negative : Bool} {cs : List Char} {x : Binary64}
    (h : ofMagnitude? negative cs = some x) : IsWord cs ∨ ∃ c ∈ cs, c.isAlpha = false := by
  unfold ofMagnitude? at h
  simp only [Bool.or_eq_true, decide_eq_true_eq] at h
  split at h
  · rename_i hword
    exact .inl (hword.imp_right .inl)
  · split at h
    · rename_i hword
      exact .inl (.inr (.inr hword))
    · exact .inr (exists_mem_of_ofDigits? h)

/-- A literal that has letters only is a word. -/
lemma isWord_of_ofText? {cs : List Char} {x : Binary64} (h : ofText? cs = some x) :
    IsWord cs ∨ ∃ c ∈ cs, c.isAlpha = false := by
  unfold ofText? at h
  split at h
  · exact .inr ⟨'-', List.mem_cons_self, rfl⟩
  · exact .inr ⟨'+', List.mem_cons_self, rfl⟩
  · exact isWord_of_ofMagnitude? h

end Binary64

end ApiGateway.Number
