import ApiGateway.Url.Idna
import Mathlib.Tactic.Lemma

/-!
# The characters of domain names

The form of a domain name that `Idna.toAscii?` gives is in ASCII and has no forbidden character
(`isNameChar_of_toAscii?`). A label that is written in Punycode has letters and figures for what is not ASCII
(`isAscii_encode`), and one that claims to be in Punycode has to be in ASCII itself.
-/

namespace ApiGateway.Url

open Idna (isAscii)

/-! ### Punycode -/

namespace Punycode

/-- No threshold is above the letters. -/
lemma threshold_le (bias k : Nat) : threshold bias k ≤ 26 := by
  unfold threshold
  split
  · omega
  · split <;> omega

/-- Digits of Punycode are characters of ASCII. -/
lemma isAscii_digitChar {d : Nat} (h : d < base) : isAscii (digitChar d) = true := by
  have hall : ∀ e ∈ List.range base, isAscii (digitChar e) = true := by decide
  exact hall d (List.mem_range.mpr h)

/-- A number is written in characters of ASCII. -/
lemma isAscii_encodeNumber (bias n k : Nat) : ∀ c ∈ encodeNumber bias n k, isAscii c = true := by
  have hbase : base = 36 := rfl
  fun_induction encodeNumber bias n k with
  | case1 n k t hn =>
    have ht := threshold_le bias k
    intro c hc
    rw [List.mem_singleton.mp hc]
    exact isAscii_digitChar (by omega)
  | case2 n k t hn ih =>
    have ht := threshold_le bias k
    have hrest : (n - t) % (base - t) < base - t := Nat.mod_lt _ (by omega)
    intro c hc
    obtain rfl | hc := List.mem_cons.mp hc
    · exact isAscii_digitChar (by omega)
    · exact ih c hc

namespace Writer

/-- What is written so far is in ASCII. -/
def IsAscii (w : Writer) : Prop :=
  ∀ c ∈ w.out, isAscii c = true

variable {w : Writer}

/-- Passing a character leaves what is written in ASCII. -/
lemma IsAscii.pass (h : w.IsAscii) (code : Nat) (c : Char) : (w.pass code c).IsAscii := by
  unfold Writer.pass
  split
  · exact h
  · split
    · intro d hd
      obtain hd | hd := List.mem_append.mp hd
      · exact h d hd
      · exact isAscii_encodeNumber _ _ _ d hd
    · exact h

/-- Passing the characters of a label leaves what is written in ASCII. -/
lemma IsAscii.foldl_pass (h : w.IsAscii) (code : Nat) (label : List Char) :
    (label.foldl (Writer.pass code) w).IsAscii := by
  induction label generalizing w with
  | nil => exact h
  | cons c label ih => exact ih (h.pass code c)

/-- Inserting all characters that need it leaves what is written in ASCII. -/
lemma IsAscii.insertAll (h : w.IsAscii) (label : List Char) (reached : Nat) (codes : List Nat) :
    (Writer.insertAll label w reached codes).IsAscii := by
  induction codes generalizing w reached with
  | nil => exact h
  | cons code codes ih =>
    have hdelta : Writer.IsAscii { w with delta := w.delta + (code - reached) * (w.written + 1) } := h
    rw [Writer.insertAll]
    apply ih
    exact hdelta.foldl_pass code label

end Writer

/-- A label in Punycode is in ASCII. -/
lemma isAscii_encode (label : List Char) : ∀ c ∈ encode label, isAscii c = true := by
  have hlead : ∀ c ∈ label.filter fun c => c.toNat < initialCode, isAscii c = true := by
    intro c hc
    exact (List.mem_filter.mp hc).2
  unfold encode
  simp only [List.partition_eq_filter_filter]
  intro c hc
  obtain hc | hc := List.mem_append.mp hc
  · split at hc
    · cases hc
    · obtain hc | hc := List.mem_append.mp hc
      · exact hlead c hc
      · rw [List.mem_singleton.mp hc]
        rfl
  · have hnone : Writer.IsAscii { written := (label.filter fun c => c.toNat < initialCode).length } := nofun
    exact hnone.insertAll label _ _ c hc

end Punycode

/-! ### Names -/

namespace Idna

/-- A character that a domain name may have in its ASCII form. -/
def isNameChar (c : Char) : Bool :=
  isAscii c && !isForbidden c

/-- A label that can be shown has an ASCII form. -/
lemma isAscii_ascii {label shown : List Char} (h : shown? label = some shown) :
    ∀ c ∈ ascii label, isAscii c = true := by
  have hmark : mark.all isAscii = true := by decide
  unfold ascii
  cases hmarked : Text.after? mark label with
  | some digits =>
    have hdigits : digits.all isAscii = true := by
      rw [shown?, hmarked] at h
      cases hall : digits.all isAscii with
      | true => rfl
      | false => simp [hall] at h
    rw [if_pos (by rw [isMarked, hmarked, Option.isSome_some]), Text.after?_eq_some_iff.mp hmarked]
    intro c hc
    obtain hc | hc := List.mem_append.mp hc
    · exact List.all_eq_true.mp hmark c hc
    · exact List.all_eq_true.mp hdigits c hc
  | none =>
    rw [if_neg (by simp [isMarked, hmarked]), encoded]
    split
    · rename_i hall
      exact List.all_eq_true.mp hall
    · intro c hc
      obtain hc | hc := List.mem_append.mp hc
      · exact List.all_eq_true.mp hmark c hc
      · exact Punycode.isAscii_encode label c hc

/-- Where a computation has gone well for a list it has for each item. -/
lemma exists_of_mapM_eq_some {α β : Type} {f : α → Option β} {xs : List α} {ys : List β} (h : xs.mapM f = some ys) :
    ∀ x ∈ xs, ∃ y, f x = some y := by
  induction xs generalizing ys with
  | nil => nofun
  | cons x xs ih =>
    rw [List.mapM_cons] at h
    obtain ⟨y, hy, h⟩ := Option.bind_eq_some_iff.mp h
    obtain ⟨ys, hys, _⟩ := Option.bind_eq_some_iff.mp h
    intro z hz
    obtain rfl | hz := List.mem_cons.mp hz
    · exact ⟨y, hy⟩
    · exact ih hys z hz

/-- What stands in an interspersed list is the separator or was there before. -/
lemma mem_of_mem_intersperse {α : Type} {sep l : List α} {ls : List (List α)} (h : l ∈ ls.intersperse sep) :
    l = sep ∨ l ∈ ls := by
  induction ls with
  | nil => cases h
  | cons m ls ih =>
    cases ls with
    | nil => exact .inr h
    | cons m' ls =>
      rw [List.intersperse_cons_cons] at h
      obtain rfl | h := List.mem_cons.mp h
      · exact .inr List.mem_cons_self
      · obtain rfl | h := List.mem_cons.mp h
        · exact .inl rfl
        · exact (ih h).imp_right (List.mem_cons_of_mem m)

/-- The ASCII form of a name has characters of names only. -/
lemma isNameChar_of_toAscii? {domain name : List Char} (h : toAscii? domain = some name) :
    ∀ c ∈ name, isNameChar c = true := by
  unfold toAscii? at h
  obtain ⟨mapped, _, h⟩ := Option.bind_eq_some_iff.mp h
  obtain ⟨shown, hshown, h⟩ := Option.bind_eq_some_iff.mp h
  generalize Text.fields '.' (Text.compose mapped.flatten) = labels at h hshown
  split at h
  · cases h
  · simp only at h
    split at h
    · cases h
    · rename_i hallowed
      cases h
      intro c hc
      -- the name is its labels with points between them, and was searched for forbidden characters
      have hascii : isAscii c = true := by
        obtain ⟨piece, hpiece, hc⟩ := List.mem_flatten.mp hc
        obtain rfl | hpiece := mem_of_mem_intersperse hpiece
        · rw [List.mem_singleton.mp hc]
          rfl
        · obtain ⟨label, hlabel, rfl⟩ := List.mem_map.mp hpiece
          obtain ⟨_, hlabel⟩ := exists_of_mapM_eq_some hshown label hlabel
          exact isAscii_ascii hlabel c hc
      have hforbidden : isForbidden c = false := by
        rw [Bool.not_eq_true, List.any_eq_false] at hallowed
        simpa using hallowed c hc
      rw [isNameChar, hascii, hforbidden]
      rfl

end Idna

end ApiGateway.Url
