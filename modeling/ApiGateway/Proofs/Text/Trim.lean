import ApiGateway.Text.Blank
import Mathlib.Data.List.DropRight

/-!
# Trimmed texts

A trimmed text neither begins nor ends with a blank (`head?_trim`, `getLast?_trim`), so trimming it again changes
nothing (`trim_trim`), and nothing is left of it exactly if there was nothing but blanks (`trim_eq_nil_iff`). What was
taken off are blanks (`exists_eq_append_trim`), and any blanks may be put around a text (`trim_append_of_blank`).
-/

namespace ApiGateway.Text

/-- What is left after dropping begins with a character that is kept. -/
lemma head?_dropWhile {p : Char → Bool} {cs : List Char} {c : Char} (h : (cs.dropWhile p).head? = some c) :
    p c = false := by
  have hnot := List.head?_dropWhile_not p cs
  rw [h] at hnot
  exact hnot

/-- A text without blanks around it does not begin with one. -/
lemma head?_trim {cs : List Char} {c : Char} (h : (trim cs).head? = some c) : isBlank c = false := by
  have hprefix : trim cs <+: cs.dropWhile isBlank := by
    rw [← List.reverse_suffix, trim, strip, List.reverse_reverse]
    exact List.dropWhile_suffix isBlank
  obtain ⟨rest, hrest⟩ := hprefix
  have hhead : (cs.dropWhile isBlank).head? = some c := by rw [← hrest, List.head?_append, h, Option.some_or]
  exact head?_dropWhile hhead

/-- A text without blanks around it does not end with one. -/
lemma getLast?_trim {cs : List Char} {c : Char} (h : (trim cs).getLast? = some c) : isBlank c = false := by
  rw [trim, strip, List.getLast?_reverse] at h
  exact head?_dropWhile h

/-- Blanks are dropped once and for all. -/
@[simp] lemma trim_trim (cs : List Char) : trim (trim cs) = trim cs := by
  apply trim_of_not_blank
  · intro c
    exact head?_trim
  · intro c
    exact getLast?_trim

/-- Where no character has the property, none is dropped. -/
lemma strip_of_none {p : Char → Bool} {cs : List Char} (h : ∀ c ∈ cs, p c = false) : strip p cs = cs := by
  have hkeep {ds : List Char} (hds : ∀ d ∈ ds, p d = false) : ds.dropWhile p = ds := by
    cases ds with
    | nil => rfl
    | cons d ds => exact dropWhile_of_head (hds d List.mem_cons_self)
  have hreverse : ∀ c ∈ cs.reverse, p c = false := fun c hc => h c (List.mem_reverse.mp hc)
  rw [strip, hkeep h, hkeep hreverse, List.reverse_reverse]

/-- Where there is no blank none is dropped. -/
lemma trim_of_no_blank {cs : List Char} (h : ∀ c ∈ cs, isBlank c = false) : trim cs = cs :=
  strip_of_none h

/-- A blank in front makes no difference. -/
lemma trim_cons_of_isBlank {c : Char} (h : isBlank c = true) (cs : List Char) : trim (c :: cs) = trim cs := by
  unfold trim strip
  rw [List.dropWhile_cons_of_pos h]

/-- Only characters of the text are kept. -/
lemma mem_of_mem_strip {p : Char → Bool} {cs : List Char} {c : Char} (h : c ∈ strip p cs) : c ∈ cs := by
  rw [strip, List.mem_reverse] at h
  have hrest := (List.dropWhile_sublist p).mem h
  exact (List.dropWhile_sublist p).mem (List.mem_reverse.mp hrest)

/-- Characters without the property are kept. -/
lemma mem_strip_of_not {p : Char → Bool} {cs : List Char} {c : Char} (hc : c ∈ cs) (hp : p c = false) :
    c ∈ strip p cs := by
  have hkeep {ds : List Char} (hd : c ∈ ds) : c ∈ ds.dropWhile p := by
    rw [← List.takeWhile_append_dropWhile (p := p) (l := ds), List.mem_append] at hd
    exact hd.resolve_left fun ht => Bool.false_ne_true (hp.symm.trans (List.mem_takeWhile_imp ht))
  rw [strip, List.mem_reverse]
  exact hkeep (List.mem_reverse.mpr (hkeep hc))

/-- Nothing is left exactly of a text that is blank throughout. -/
lemma trim_eq_nil_iff {cs : List Char} : trim cs = [] ↔ ∀ c ∈ cs, isBlank c = true := by
  constructor
  · intro h c hc
    cases hblank : isBlank c with
    | true => rfl
    | false =>
      have hmem : c ∈ trim cs := mem_strip_of_not hc hblank
      rw [h] at hmem
      cases hmem
  · intro h
    rw [trim, strip, List.dropWhile_eq_nil_iff.mpr h]
    rfl

/-- Blanks are dropped in front and then at the end. -/
lemma trim_eq_rdropWhile (cs : List Char) : trim cs = (cs.dropWhile isBlank).rdropWhile isBlank :=
  rfl

/-- Trimming takes off blanks at both ends and nothing else. -/
lemma exists_eq_append_trim (cs : List Char) :
    ∃ lead tail, (∀ c ∈ lead, isBlank c = true) ∧ (∀ c ∈ tail, isBlank c = true) ∧ cs = lead ++ trim cs ++ tail := by
  refine ⟨cs.takeWhile isBlank, (cs.dropWhile isBlank).rtakeWhile isBlank, ?_, ?_, ?_⟩
  · intro c hc
    exact List.mem_takeWhile_imp hc
  · intro c hc
    exact List.mem_rtakeWhile_imp hc
  · rw [List.append_assoc, trim_eq_rdropWhile, List.rdropWhile_append_rtakeWhile, List.takeWhile_append_dropWhile]

/-- Blanks around a text make no difference to its trimmed form. -/
lemma trim_append_of_blank {lead tail : List Char} (hlead : ∀ c ∈ lead, isBlank c = true)
    (htail : ∀ c ∈ tail, isBlank c = true) (cs : List Char) : trim (lead ++ cs ++ tail) = trim cs := by
  have hreverse : ∀ c ∈ tail.reverse, isBlank c = true := fun c hc => htail c (List.mem_reverse.mp hc)
  rw [List.append_assoc, trim, strip, List.dropWhile_append_of_pos hlead, List.dropWhile_append]
  split
  · rename_i hnone
    rw [trim, strip, List.isEmpty_iff.mp hnone, List.dropWhile_eq_nil_iff.mpr htail]
  · rw [List.reverse_append, List.dropWhile_append_of_pos hreverse, trim, strip]

/-- The characters of a trimmed text are its trimmed characters. -/
lemma toList_trimmed (s : String) : (trimmed s).toList = trim s.toList :=
  String.toList_ofList

/-- A text is trimmed to nothing exactly if it is blank. -/
lemma trimmed_eq_empty_iff {s : String} : trimmed s = "" ↔ allBlank s = true := by
  rw [allBlank, List.all_eq_true, ← trim_eq_nil_iff, ← toList_trimmed, String.toList_eq_nil_iff]

end ApiGateway.Text
