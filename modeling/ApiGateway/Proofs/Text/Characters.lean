import ApiGateway.Text.Blank
import ApiGateway.Text.LowerCase
import Mathlib

/-!
# Characters of texts

Where the letters and digits are among the code points, and where a text is cut by a property of its characters or at a
separator: the fields of two texts with a separator between them are those of the one and then those of the other
(`fields_append`).
-/

namespace ApiGateway.Text

/-- Letters and digits lie between the zero and the small z. -/
lemma toNat_of_isAlphanum {c : Char} (h : c.isAlphanum = true) : 0x30 ≤ c.toNat ∧ c.toNat ≤ 0x7a := by
  simp only [Char.isAlphanum, Char.isAlpha, Char.isUpper, Char.isLower, Char.isDigit, Char.reduceVal, ge_iff_le,
    UInt32.le_iff_toNat_le, UInt32.reduceToNat, Char.toNat_val, Bool.decide_and, Bool.or_eq_true, Bool.and_eq_true,
    decide_eq_true_eq] at h
  omega

/-- Digits are the characters from zero to nine. -/
lemma isDigit_iff {c : Char} : c.isDigit = true ↔ 0x30 ≤ c.toNat ∧ c.toNat ≤ 0x39 := by
  simp only [Char.isDigit, ge_iff_le, UInt32.le_iff_toNat_le, Bool.and_eq_true, decide_eq_true_eq]
  rfl

/-- No digit is a letter. -/
lemma isAlpha_of_isDigit {c : Char} (h : c.isDigit = true) : c.isAlpha = false := by
  have hrange := isDigit_iff.mp h
  simp only [Char.isAlpha, Char.isUpper, Char.isLower, ge_iff_le, UInt32.le_iff_toNat_le, UInt32.reduceToNat,
    Char.toNat_val, Char.reduceVal, Bool.or_eq_false_iff, Bool.and_eq_false_iff, decide_eq_false_iff_not]
  omega

/-- What holds for all letters does not depend on the case. -/
lemma toLower_congr {p : Char → Bool} (hp : ∀ c : Char, c.isAlpha = true → p c = true) (c : Char) :
    p c.toLower = p c := by
  by_cases hupper : c.isUpper = true
  · have halpha : c.isAlpha = true := by rw [Char.isAlpha, hupper, Bool.true_or]
    rw [hp c halpha, hp c.toLower ((Char.isAlpha_toLower_eq_isAlpha c).trans halpha)]
  · rw [Char.toLower_eq_of_not_isUpper hupper]

/-- Small letters stay small. -/
lemma lowerAscii_lowerAscii (cs : List Char) : lowerAscii (lowerAscii cs) = lowerAscii cs := by
  unfold lowerAscii
  rw [List.map_map]
  apply List.map_congr_left
  intro c _
  exact Char.toLower_toLower_eq_toLower c

/-- In ASCII both ways to small letters agree. -/
lemma lowerCase_of_ascii {cs : List Char} (h : ∀ c ∈ cs, c.toNat < 0x80) : lowerCase cs = lowerAscii cs := by
  induction cs with
  | nil => rfl
  | cons c cs ih =>
    have hrest := ih fun d hd => h d (List.mem_cons_of_mem c hd)
    rw [lowerCase, List.flatMap_cons, lowerChar_of_ascii (h c List.mem_cons_self), ← lowerCase, hrest]
    rfl

/-- A property of all ASCII characters can be checked code by code. -/
@[elab_as_elim]
lemma forall_ascii {P : Char → Prop} (c : Char) (hc : c.toNat < 0x80) (h : ∀ n < 0x80, P (Char.ofNat n)) : P c := by
  have hcode := h c.toNat hc
  rwa [Char.ofNat_toNat] at hcode

/-! ### Where a text is cut -/

section

variable {p : Char → Bool} {cs : List Char}

/-- A text that has the property throughout is taken whole. -/
lemma span_of_all (h : ∀ c ∈ cs, p c = true) : cs.span p = (cs, []) := by
  rw [List.span_eq_takeWhile_dropWhile, List.takeWhile_eq_self_iff.mpr h, List.dropWhile_eq_nil_iff.mpr h]

/-- A text is taken up to the first character without the property. -/
lemma span_append_cons (h : ∀ c ∈ cs, p c = true) {stop : Char} (hstop : p stop = false) (rest : List Char) :
    (cs ++ stop :: rest).span p = (cs, stop :: rest) := by
  have hnot : ¬ p stop = true := Bool.not_eq_true _ ▸ hstop
  rw [List.span_eq_takeWhile_dropWhile, List.takeWhile_append_of_pos h, List.dropWhile_append_of_pos h,
    List.takeWhile_cons_of_neg hnot, List.dropWhile_cons_of_neg hnot, List.append_nil]

end

/-! ### Fields -/

/-- A separator in front begins with an empty field. -/
lemma fields_cons_self (sep : Char) (cs : List Char) : fields sep (sep :: cs) = [] :: fields sep cs :=
  if_pos rfl

/-- Any other character in front belongs to the first field. -/
lemma fields_cons_of_ne {sep c : Char} (h : c ≠ sep) {cs field : List Char} {rest : List (List Char)}
    (hcs : fields sep cs = field :: rest) : fields sep (c :: cs) = (c :: field) :: rest := by
  rw [fields, if_neg h, hcs]

/-- There is always a first field. -/
lemma exists_fields_eq_cons (sep : Char) (cs : List Char) : ∃ field rest, fields sep cs = field :: rest :=
  List.exists_cons_of_ne_nil (fields_ne_nil sep cs)

/-- A separator parts the fields before it from those after it. -/
lemma fields_append (sep : Char) (cs ds : List Char) :
    fields sep (cs ++ sep :: ds) = fields sep cs ++ fields sep ds := by
  induction cs with
  | nil => exact fields_cons_self sep ds
  | cons c cs ih =>
    rw [List.cons_append]
    by_cases hc : c = sep
    · subst hc
      rw [fields_cons_self, fields_cons_self, ih]
      rfl
    · obtain ⟨field, rest, hcs⟩ := exists_fields_eq_cons sep cs
      have hboth : fields sep (cs ++ sep :: ds) = field :: (rest ++ fields sep ds) := by
        rw [ih, hcs]
        rfl
      rw [fields_cons_of_ne hc hcs, fields_cons_of_ne hc hboth]
      rfl

/-- A text without a separator is a single field. -/
lemma fields_of_not_mem {sep : Char} {cs : List Char} (h : sep ∉ cs) : fields sep cs = [cs] := by
  induction cs with
  | nil => rfl
  | cons c cs ih =>
    rw [List.mem_cons, not_or] at h
    exact fields_cons_of_ne (Ne.symm h.1) (ih h.2)

/-- The first field ends at the first separator, or with the text if there is none. -/
lemma head?_fields_eq_some_iff {sep : Char} {cs field : List Char} :
    (fields sep cs).head? = some field ↔ sep ∉ field ∧ (cs = field ∨ ∃ rest, cs = field ++ sep :: rest) := by
  constructor
  · intro h
    by_cases hsep : sep ∈ cs
    · obtain ⟨first, rest, rfl, hfirst⟩ := List.eq_append_cons_of_mem hsep
      rw [fields_append, fields_of_not_mem hfirst] at h
      cases h
      exact ⟨hfirst, .inr ⟨rest, rfl⟩⟩
    · rw [fields_of_not_mem hsep] at h
      cases h
      exact ⟨hsep, .inl rfl⟩
  · rintro ⟨hfield, rfl | ⟨rest, rfl⟩⟩
    · rw [fields_of_not_mem hfield]
      rfl
    · rw [fields_append, fields_of_not_mem hfield]
      rfl

/-- A text has one end after its last separator. -/
lemma eq_of_append_cons_eq {sep : Char} {front back ds es : List Char} (h : front ++ sep :: ds = back ++ sep :: es)
    (hds : sep ∉ ds) (hes : sep ∉ es) : ds = es := by
  have hfields := congrArg (fields sep) h
  rw [fields_append, fields_append, fields_of_not_mem hds, fields_of_not_mem hes] at hfields
  exact (List.append_singleton_inj.mp hfields).2

end ApiGateway.Text
