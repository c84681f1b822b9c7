import ApiGateway.Text.Utf8
import Mathlib

/-!
# The octets of texts

An ASCII text has an octet for each character, and these spell it (`octets_of_ascii`, `decode?_octets_of_ascii`). Of any
two characters the one with the lesser code has the lesser octets, whatever comes after either
(`utf8EncodeChar_append_lt`), so texts are ordered alike by their characters and by their octets
(`octets_lt_octets_iff`, `lt_iff_octets_lt`).
-/

namespace ApiGateway.Text

/-! ### ASCII texts -/

/-- A character of ASCII is one octet. -/
lemma utf8EncodeChar_of_ascii {c : Char} (h : c.toNat < 0x80) : String.utf8EncodeChar c = [UInt8.ofNat c.toNat] :=
  if_pos (Nat.le_of_lt_succ h)

/-- The octet of a character of ASCII has its number. -/
lemma toNat_octet_of_ascii {c : Char} (h : c.toNat < 0x80) : (UInt8.ofNat c.toNat).toNat = c.toNat :=
  UInt8.toNat_ofNat_of_lt' (h.trans (by decide))

/-- A text in ASCII has one octet for each character. -/
lemma octets_of_ascii {cs : List Char} (h : ∀ c ∈ cs, c.toNat < 0x80) :
    octets cs = cs.map fun c => UInt8.ofNat c.toNat := by
  rw [octets, List.map_eq_flatMap]
  apply List.flatMap_congr
  intro c hc
  exact utf8EncodeChar_of_ascii (h c hc)

/-- Octets of ASCII are scanned one by one. -/
lemma scan_octets_of_ascii {cs : List Char} (h : ∀ c ∈ cs, c.toNat < 0x80) :
    scan none (octets cs) = cs.map some := by
  rw [octets_of_ascii h]
  induction cs with
  | nil => rfl
  | cons c cs ih =>
    rw [List.forall_mem_cons] at h
    have hcode := toNat_octet_of_ascii h.1
    have hlow : UInt8.ofNat c.toNat < 0x80 := by
      rw [UInt8.lt_iff_toNat_lt, hcode]
      exact h.1
    rw [List.map_cons, List.map_cons, ← ih h.2, scan, scanOctet, scanLead, if_pos hlow, hcode, Char.ofNat_toNat]
    rfl

/-- A text in ASCII is read back from its octets. -/
lemma decode?_octets_of_ascii {cs : List Char} (h : ∀ c ∈ cs, c.toNat < 0x80) : decode? (octets cs) = some cs := by
  rw [decode?, scan_octets_of_ascii h, List.mapM_map]
  exact List.mapM_pure.trans (congrArg some (List.map_id cs))

/-! ### The order of texts -/

/-- Octets are compared by the first one that differs. -/
lemma cons_ofNat_lt_cons_iff {n m : Nat} (hn : n < 0x100) (hm : m < 0x100) {os ps : List UInt8} :
    UInt8.ofNat n :: os < UInt8.ofNat m :: ps ↔ n < m ∨ n = m ∧ os < ps := by
  rw [List.cons_lt_cons_iff, UInt8.lt_iff_toNat_lt, ← UInt8.toNat_inj, UInt8.toNat_ofNat_of_lt' hn,
    UInt8.toNat_ofNat_of_lt' hm]

/-- The octets of a smaller character are smaller, whatever follows. -/
lemma utf8EncodeChar_append_lt {c d : Char} (h : c < d) (os ps : List UInt8) :
    String.utf8EncodeChar c ++ os < String.utf8EncodeChar d ++ ps := by
  have hlt : c.val.toNat < d.val.toNat := h
  have hbound : d.val.toNat < 0x110000 := by
    obtain hlow | hhigh := d.valid
    · omega
    · exact hhigh.2
  simp only [String.utf8EncodeChar]
  generalize c.val.toNat = n at hlt ⊢
  generalize d.val.toNat = m at hlt hbound ⊢
  -- the octets after the first one are digits of base 64, and the first one has room for all that is left
  have hn : n / 4096 = n / 64 / 64 ∧ n / 262144 = n / 64 / 64 / 64 := by omega
  have hm : m / 4096 = m / 64 / 64 ∧ m / 262144 = m / 64 / 64 / 64 := by omega
  have hnlead : n / 64 / 64 / 64 % 8 = n / 64 / 64 / 64 := by omega
  have hmlead : m / 64 / 64 / 64 % 8 = m / 64 / 64 / 64 := by omega
  split_ifs
  all_goals
    simp (disch := omega) only [List.cons_append, List.nil_append, cons_ofNat_lt_cons_iff, hn.1, hn.2, hm.1, hm.2,
      hnlead, hmlead]
    omega

/-- A smaller text has smaller octets. -/
lemma octets_lt_octets {cs ds : List Char} (h : cs < ds) : octets cs < octets ds := by
  induction cs generalizing ds with
  | nil =>
    cases ds with
    | nil => exact absurd h (List.lt_irrefl [])
    | cons d ds =>
      obtain ⟨o, os, ho⟩ := List.exists_cons_of_ne_nil (String.utf8EncodeChar_ne_nil (c := d))
      rw [octets, octets, List.flatMap_nil, List.flatMap_cons, ho]
      exact List.nil_lt_cons o _
  | cons c cs ih =>
    cases ds with
    | nil => exact absurd h (List.not_lt_nil _)
    | cons d ds =>
      rw [octets, octets, List.flatMap_cons, List.flatMap_cons]
      obtain hlt | ⟨rfl, hrest⟩ := List.cons_lt_cons_iff.mp h
      · exact utf8EncodeChar_append_lt hlt _ _
      · exact List.append_left_lt (ih hrest)

/-- Texts are ordered as their octets are. -/
lemma octets_lt_octets_iff {cs ds : List Char} : octets cs < octets ds ↔ cs < ds := by
  constructor
  · intro h
    obtain hlt | rfl | hgt := lt_trichotomy cs ds
    · exact hlt
    · exact absurd h (List.lt_irrefl _)
    · exact absurd h (List.lt_asymm (octets_lt_octets hgt))
  · exact octets_lt_octets

/-- Strings are ordered as their octets are. -/
lemma lt_iff_octets_lt {s t : String} : s < t ↔ octets s.toList < octets t.toList := by
  rw [octets_lt_octets_iff, String.lt_iff_toList_lt]

/-- Strings are no greater exactly if their octets are no greater. -/
lemma le_iff_octets_le {s t : String} : s ≤ t ↔ octets s.toList ≤ octets t.toList := by
  rw [← not_lt, ← List.not_lt, lt_iff_octets_lt]

end ApiGateway.Text
