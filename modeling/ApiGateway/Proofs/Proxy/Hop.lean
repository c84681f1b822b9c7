import ApiGateway.Proofs.Text.Characters
import ApiGateway.Proxy.HopByHop

/-!
# Fields of one hop

What is said of one connection only is read off the fields themselves: a name is of one hop if it is one of the eight
well-known ones or if a textual value of `Connection` has it between commas, in any case and with blanks around it
(`OfOneHop`, `ListsField`), and a change of the protocol is asked for if there is an `Upgrade` field and `Connection`
lists it (`AsksUpgrade`). The code goes about it in another way: it cuts all values into tokens first and reads a name
off each, or compares the token. `isListed_iff` and `isUpgrade_iff` say that it comes to the same.

Stripping then leaves the values of a name that is not of one hop (`values_stripHop_of_kept`), and none of one that is
(`values_stripHop_of_dropped`), but for the two fields that ask for the change (`values_stripHop_upgrade`).
-/

namespace ApiGateway

open Http

namespace Http

/-! ### Names in any case -/

/-- Holds for the names of fields: tokens in lower case that are short enough. -/
def IsName (name : FieldName) : Prop :=
  fieldName? name.toList = some name

instance : DecidablePred IsName :=
  fun _ => inferInstanceAs (Decidable (_ = _))

/-- A letter may stand in a token in both cases or in none. -/
lemma isTokenChar_toLower (c : Char) : isTokenChar c.toLower = isTokenChar c := by
  apply Text.toLower_congr
  intro c hc
  simp [isTokenChar, Char.isAlphanum, hc]

/-- A text and the same text in lower case spell the same name. -/
lemma fieldName?_lowerAscii (cs : List Char) : fieldName? (Text.lowerAscii cs) = fieldName? cs := by
  have htoken : isToken (Text.lowerAscii cs) = isToken cs := by
    unfold isToken Text.lowerAscii
    rw [List.isEmpty_map, List.all_map]
    congr 2
    funext c
    exact isTokenChar_toLower c
  unfold fieldName?
  rw [htoken, Text.lowerAscii_lowerAscii]
  simp only [Text.lowerAscii, List.length_map]

/-- What a text spells is the text in lower case. -/
lemma lowerAscii_of_fieldName? {name : FieldName} {cs : List Char} (h : fieldName? cs = some name) :
    Text.lowerAscii cs = name.toList := by
  unfold fieldName? at h
  split at h
  · cases h
    exact String.toList_ofList.symm
  · cases h

/-- A text spells a name just if it is the name in some case. -/
lemma fieldName?_eq_some_iff {name : FieldName} (h : IsName name) {cs : List Char} :
    fieldName? cs = some name ↔ Text.lowerAscii cs = name.toList := by
  refine ⟨lowerAscii_of_fieldName?, ?_⟩
  intro hcs
  rw [← fieldName?_lowerAscii, hcs]
  exact h

/-- A field is there exactly if its name has a value. -/
lemma Fields.has_eq (fs : Fields) (name : FieldName) : fs.has name = !(fs.values name).isEmpty := by
  unfold has values
  induction fs with
  | nil => rfl
  | cons f fs ih =>
    by_cases hf : f.name = name
    · simp [hf]
    · simp [hf, ih]

end Http

namespace Proxy

variable {fs : Fields} {keepUpgrade : Bool} {name : FieldName}

/-! ### What `Connection` lists -/

/-- A textual value of `Connection` has the name between commas, in any case and with blanks around it. -/
def ListsField (fs : Fields) (name : FieldName) : Prop :=
  ∃ value ∈ fs.values connection, ∃ text ∈ value.text?, ∃ token ∈ Text.fields ',' text,
    Text.lowerAscii (Text.trim token) = name.toList

instance (fs : Fields) : DecidablePred (ListsField fs) :=
  fun _ => inferInstanceAs (Decidable (∃ _ ∈ _, _))

/-- The names of fields of one hop: the well-known ones, and those that `Connection` lists. -/
def OfOneHop (fs : Fields) (name : FieldName) : Prop :=
  name ∈ hopByHop ∨ ListsField fs name

instance (fs : Fields) : DecidablePred (OfOneHop fs) :=
  fun _ => inferInstanceAs (Decidable (_ ∨ _))

/-- There is an `Upgrade` field, and `Connection` lists it. -/
def AsksUpgrade (fs : Fields) : Prop :=
  fs.values upgrade ≠ [] ∧ ListsField fs upgrade

instance : DecidablePred AsksUpgrade :=
  fun _ => inferInstanceAs (Decidable (_ ∧ _))

/-- The tokens that a field lists are the pieces of its textual values, without the blanks around them. -/
lemma mem_listed {token : List Char} :
    token ∈ fs.listed name ↔
      ∃ value ∈ fs.values name, ∃ text ∈ value.text?, ∃ piece ∈ Text.fields ',' text, Text.trim piece = token := by
  unfold Fields.listed
  simp only [List.mem_map, List.mem_flatMap, List.mem_filterMap, Option.mem_def]
  constructor
  · rintro ⟨piece, ⟨text, ⟨value, hvalue, htext⟩, hpiece⟩, rfl⟩
    exact ⟨value, hvalue, text, htext, piece, hpiece, rfl⟩
  · rintro ⟨value, hvalue, text, htext, piece, hpiece, rfl⟩
    exact ⟨piece, ⟨text, ⟨value, hvalue, htext⟩, hpiece⟩, rfl⟩

/-- `Connection` lists a name just if one of its tokens is the name in some case. -/
lemma listsField_iff : ListsField fs name ↔ ∃ token ∈ fs.listed connection, Text.lowerAscii token = name.toList := by
  constructor
  · rintro ⟨value, hvalue, text, htext, piece, hpiece, hname⟩
    exact ⟨Text.trim piece, mem_listed.mpr ⟨value, hvalue, text, htext, piece, hpiece, rfl⟩, hname⟩
  · rintro ⟨token, htoken, hname⟩
    obtain ⟨value, hvalue, text, htext, piece, hpiece, rfl⟩ := mem_listed.mp htoken
    exact ⟨value, hvalue, text, htext, piece, hpiece, hname⟩

/-- The names that are read off the tokens are listed. -/
lemma listsField_of_isListed (h : isListed fs name = true) : ListsField fs name := by
  obtain ⟨token, htoken, hname⟩ := List.any_eq_true.mp h
  exact listsField_iff.mpr ⟨token, htoken, lowerAscii_of_fieldName? (of_decide_eq_true hname)⟩

/-- They are all the names that are listed. -/
lemma isListed_iff (h : IsName name) : isListed fs name = true ↔ ListsField fs name := by
  refine ⟨listsField_of_isListed, ?_⟩
  intro hlists
  obtain ⟨token, htoken, hname⟩ := listsField_iff.mp hlists
  exact List.any_eq_true.mpr ⟨token, htoken, decide_eq_true ((fieldName?_eq_some_iff h).mpr hname)⟩

/-- A request is taken for one to change the protocol exactly if its fields ask for that. -/
lemma isUpgrade_iff : isUpgrade fs = true ↔ AsksUpgrade fs := by
  unfold isUpgrade AsksUpgrade
  rw [Bool.and_eq_true, Fields.has_eq, Bool.not_eq_true', List.isEmpty_eq_false_iff, listsField_iff, List.any_eq_true]
  simp only [decide_eq_true_eq]

/-! ### Stripping -/

/-- The well-known names are names. -/
lemma isName_of_mem_hopByHop (h : name ∈ hopByHop) : IsName name := by
  have hall : ∀ name ∈ hopByHop, IsName name := by decide
  exact hall name h

/-- The names that are not passed on are well-known or read off a token, and not kept for a change of the protocol. -/
lemma isOfHop_iff :
    isOfHop fs keepUpgrade name = true ↔
      (name ∈ hopByHop ∨ isListed fs name = true) ∧ ¬(keepUpgrade = true ∧ (name = connection ∨ name = upgrade)) := by
  unfold isOfHop
  rw [Bool.and_eq_true, Bool.or_eq_true, List.contains_iff_mem]
  cases keepUpgrade with
  | false => simp
  | true => simp

/-- A name loses its values if it is not passed on, and else keeps them; only `Connection` may be written anew. -/
lemma values_stripHop (h : ¬(keepUpgrade = true ∧ name = connection)) :
    (stripHop fs keepUpgrade).values name = if isOfHop fs keepUpgrade name then [] else fs.values name := by
  unfold stripHop
  cases keepUpgrade with
  | false => exact Fields.values_removeAll fs _ name
  | true =>
    -- `Connection` alone is put back after the removal
    have hne : connection ≠ name := fun hname => h ⟨rfl, hname.symm⟩
    simp only [if_true]
    rw [Fields.values_insert_of_ne _ _ hne, Fields.values_removeAll]

/-- What is not of one hop is left as it is. -/
lemma values_stripHop_of_kept (h : ¬OfOneHop fs name) (keepUpgrade : Bool) :
    (stripHop fs keepUpgrade).values name = fs.values name := by
  have hkept : ¬isOfHop fs keepUpgrade name = true := by
    intro hname
    exact h ((isOfHop_iff.mp hname).1.imp_right listsField_of_isListed)
  rw [values_stripHop, if_neg hkept]
  rintro ⟨_, rfl⟩
  exact h (.inl (by decide))

/-- Nothing is left of what is of one hop, a request to change the protocol apart. -/
lemma values_stripHop_of_dropped (hname : IsName name) (h : OfOneHop fs name)
    (hkeep : ¬(keepUpgrade = true ∧ (name = connection ∨ name = upgrade))) :
    (stripHop fs keepUpgrade).values name = [] := by
  have hdropped : isOfHop fs keepUpgrade name = true :=
    isOfHop_iff.mpr ⟨h.imp_right (isListed_iff hname).mpr, hkeep⟩
  rw [values_stripHop, if_pos hdropped]
  exact fun hconnection => hkeep ⟨hconnection.1, .inl hconnection.2⟩

/-- Of a request to change the protocol its `Upgrade` fields are left, and one `Connection` field that lists them. -/
lemma values_stripHop_upgrade (fs : Fields) :
    (stripHop fs true).values connection = [.ofText "upgrade"] ∧
      (stripHop fs true).values upgrade = fs.values upgrade := by
  constructor
  · exact Fields.values_insert_self _ _ _
  · have hkept : ¬isOfHop fs true upgrade = true := fun h => (isOfHop_iff.mp h).2 ⟨rfl, .inr rfl⟩
    rw [values_stripHop (by decide), if_neg hkept]

/-- A field that is not a well-known one of the hop is stripped only if it is listed. -/
lemma values_stripHop_of_listed (fs : Fields) (hname : IsName name) (h : name ∉ hopByHop) (keepUpgrade : Bool) :
    (stripHop fs keepUpgrade).values name = if ListsField fs name then [] else fs.values name := by
  by_cases hlists : ListsField fs name
  · have hkeep : ¬(keepUpgrade = true ∧ (name = connection ∨ name = upgrade)) := by
      rintro ⟨_, rfl | rfl⟩
      · exact h (by decide)
      · exact h (by decide)
    rw [values_stripHop_of_dropped hname (.inr hlists) hkeep, if_pos hlists]
  · rw [values_stripHop_of_kept (by simp [OfOneHop, h, hlists]), if_neg hlists]

end Proxy

end ApiGateway
