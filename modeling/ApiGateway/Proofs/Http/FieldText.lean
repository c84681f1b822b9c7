import ApiGateway.Http.Header
import ApiGateway.Proofs.Text.Characters
import ApiGateway.Proofs.Text.Octets

/-!
# Texts as field values

A field value carries a text as its UTF-8 octets and gives it back just if each character is visible ASCII, a space
or a tab; of any other text it gives nothing (`FieldValue.text?_ofText`).
-/

namespace ApiGateway.Http.FieldValue

/-- A character that a textual value can carry. -/
def isTextChar (c : Char) : Bool :=
  (0x20 ≤ c.toNat && c.toNat < 0x7f) || c.toNat == 0x09

/-- Characters of field texts are characters of ASCII. -/
lemma toNat_of_isTextChar {c : Char} (h : isTextChar c = true) : c.toNat < 0x7f := by
  simp only [isTextChar, Bool.or_eq_true, Bool.and_eq_true, decide_eq_true_eq, beq_iff_eq] at h
  omega

/-- The octets of an array are listed after those that have been read. -/
lemma toList_loop_eq (octets : ByteArray) (i : Nat) (read : List UInt8) :
    ByteArray.toList.loop octets i read = read.reverse ++ octets.data.toList.drop i := by
  fun_induction ByteArray.toList.loop octets i read with
  | case1 i read hlt ih =>
    have hlen : i < octets.data.toList.length := hlt
    have hget : octets.get! i = octets.data.toList[i] := getElem!_pos octets.data i hlt
    rw [ih, List.drop_eq_getElem_cons hlen, hget, List.reverse_cons, List.append_assoc, List.singleton_append]
  | case2 i read hge =>
    rw [List.drop_eq_nil_of_le (Nat.le_of_not_lt hge), List.append_nil]

/-- The value of a text has the octets of its characters. -/
lemma octets_ofText (s : String) : (ofText s).octets = Text.octets s.toList := by
  rw [Text.octets, ofText, String.toUTF8_eq_toByteArray, ByteArray.toList, toList_loop_eq, List.reverse_nil,
    List.nil_append, List.drop_zero, ← s.ofList_toList, String.toByteArray_ofList, List.utf8Encode, List.toList_data_toByteArray,
    String.toList_ofList]

/-- Beyond ASCII the first octet of a character is none of ASCII. -/
lemma exists_utf8EncodeChar_of_not_ascii {c : Char} (h : 0x80 ≤ c.toNat) :
    ∃ first rest, String.utf8EncodeChar c = first :: rest ∧ 0x80 ≤ first.toNat := by
  have hwide : ¬ c.val.toNat ≤ 127 := Nat.not_le_of_lt h
  have hfirst : ∀ n k, 0x80 ≤ n → n + k < 0x100 → ∀ m, 0x80 ≤ (UInt8.ofNat (m % (k + 1) + n)).toNat := by
    intro n k hn hk m
    have hlt : m % (k + 1) < k + 1 := Nat.mod_lt m (Nat.succ_pos k)
    have hoctet : m % (k + 1) + n < UInt8.size := by
      rw [UInt8.size]
      omega
    rw [UInt8.toNat_ofNat_of_lt' hoctet]
    omega
  rw [String.utf8EncodeChar, if_neg hwide]
  split
  · exact ⟨_, _, rfl, hfirst 192 31 (by decide) (by decide) _⟩
  · split
    · exact ⟨_, _, rfl, hfirst 224 15 (by decide) (by decide) _⟩
    · exact ⟨_, _, rfl, hfirst 240 7 (by decide) (by decide) _⟩

/-- The octets of a character are textual just if a textual value can carry it. -/
lemma all_isTextual_utf8EncodeChar (c : Char) : (String.utf8EncodeChar c).all isTextual = isTextChar c := by
  by_cases hascii : c.toNat < 0x80
  · rw [Text.utf8EncodeChar_of_ascii hascii, List.all_cons, List.all_nil, Bool.and_true]
    exact Text.forall_ascii c hascii (by decide)
  · obtain ⟨first, rest, hencode, hfirst⟩ := exists_utf8EncodeChar_of_not_ascii (Nat.le_of_not_lt hascii)
    have hoctet : isTextual first = false := by
      rw [isTextual, Bool.or_eq_false_iff, Bool.and_eq_false_iff, decide_eq_false_iff_not, decide_eq_false_iff_not,
        UInt8.lt_iff_toNat_lt, beq_eq_false_iff_ne]
      refine ⟨.inr ?_, ?_⟩
      · exact Nat.not_lt_of_le (Nat.le_trans (by decide) hfirst)
      · rintro rfl
        exact absurd hfirst (by decide)
    have hchar : isTextChar c = false := by
      cases hc : isTextChar c with
      | false => rfl
      | true => exact absurd (Nat.lt_trans (toNat_of_isTextChar hc) (by decide)) hascii
    rw [hencode, List.all_cons, hoctet, hchar, Bool.false_and]

/-- A text is read back if each of its characters can be carried, and otherwise nothing is. -/
theorem text?_ofText (s : String) :
    (ofText s).text? = if s.toList.all isTextChar then some s.toList else none := by
  rw [text?, octets_ofText, Text.octets, List.all_flatMap]
  simp only [all_isTextual_utf8EncodeChar]
  split
  · next h =>
    have hback : ∀ c ∈ s.toList, (String.utf8EncodeChar c).map (fun o => Char.ofNat o.toNat) = [c] := by
      intro c hc
      have hascii := toNat_of_isTextChar (List.all_eq_true.mp h c hc)
      have hlow : c.toNat < 0x80 := by omega
      rw [Text.utf8EncodeChar_of_ascii hlow, List.map_singleton, Text.toNat_octet_of_ascii hlow, Char.ofNat_toNat]
    rw [List.map_flatMap, List.flatMap_congr hback, List.flatMap_singleton']
  · rfl

/-- Text in ASCII has the same value either way. -/
lemma ofAscii_eq_ofText {cs : List Char} (h : ∀ c ∈ cs, c.toNat < 0x80) : ofAscii cs = ofText (String.ofList cs) := by
  have hoctets : (ofText (String.ofList cs)).octets = cs.map fun c => UInt8.ofNat c.toNat := by
    rw [octets_ofText, String.toList_ofList, Text.octets_of_ascii h]
  rw [ofAscii, ← hoctets]

/-- Characters that a textual value can carry are read back. -/
lemma text?_ofAscii {cs : List Char} (h : ∀ c ∈ cs, isTextChar c = true) : (ofAscii cs).text? = some cs := by
  have hascii : ∀ c ∈ cs, c.toNat < 0x80 := fun c hc => Nat.lt_succ_of_lt (toNat_of_isTextChar (h c hc))
  rw [ofAscii_eq_ofText hascii, text?_ofText, String.toList_ofList, if_pos (List.all_eq_true.mpr h)]

/-- What is read has only characters that a textual value can carry. -/
lemma isTextChar_of_mem_text? {value : FieldValue} {text : List Char} (h : value.text? = some text) {c : Char}
    (hc : c ∈ text) : isTextChar c = true := by
  rw [text?] at h
  split at h
  · next htextual =>
    cases h
    obtain ⟨o, ho, rfl⟩ := List.mem_map.mp hc
    have hoctet := List.all_eq_true.mp htextual o ho
    have hcodes : ∀ n < 0x100, isTextual (UInt8.ofNat n) = true → isTextChar (Char.ofNat n) = true := by
      decide +kernel
    exact hcodes o.toNat o.toNat_lt (UInt8.ofNat_toNat.symm ▸ hoctet)
  · cases h

end ApiGateway.Http.FieldValue
