import ApiGateway.Number.Integer
import Mathlib.Data.List.Basic

/-!
# Digits of a base

A number that is written in the digits of a base up to sixteen is read back (`natOfDigits?_toDigits`), and only zero is
written with a zero in front (`eq_zero_of_head?_toDigits`).
-/

namespace ApiGateway.Number

section

variable {base : Nat}

/-- Induction along the digits of a number, the last one taken away at each step. -/
@[elab_as_elim]
lemma induction_on_digits (hbase : 1 < base) {motive : Nat → Prop} (n : Nat) (digit : ∀ n < base, motive n)
    (snoc : ∀ n, base ≤ n → motive (n / base) → motive n) : motive n := by
  induction n using Nat.strongRecOn with
  | ind n ih =>
    by_cases hn : n < base
    · exact digit n hn
    · have hle : base ≤ n := Nat.not_lt.mp hn
      exact snoc n hle (ih (n / base) (Nat.div_lt_self (by omega) hbase))

/-- The digits of a number are those of values below the base. -/
lemma exists_of_mem_toDigits (hbase : 1 < base) {n : Nat} {c : Char} (h : c ∈ Nat.toDigits base n) :
    ∃ d < base, c = Nat.digitChar d := by
  induction n using induction_on_digits hbase with
  | digit n hn =>
    rw [Nat.toDigits_of_lt_base hn] at h
    exact ⟨n, hn, List.mem_singleton.mp h⟩
  | snoc n hn ih =>
    rw [Nat.toDigits_of_base_le hbase hn] at h
    obtain h | h := List.mem_append.mp h
    · exact ih h
    · exact ⟨n % base, Nat.mod_lt n (by omega), List.mem_singleton.mp h⟩

/-- The value of a digit is read back, up to sixteen of them. -/
lemma digitValue?_digitChar : ∀ base ≤ 16, ∀ d < base, digitValue? base (Nat.digitChar d) = some d := by
  decide

/-- What is no digit of a base is none of a smaller one. -/
lemma digitValue?_eq_none_of_le {smaller : Nat} (hle : smaller ≤ base) {c : Char} (h : digitValue? base c = none) :
    digitValue? smaller c = none := by
  simp only [digitValue?, ite_eq_right_iff, reduceCtorEq, imp_false] at h ⊢
  split_ifs at h ⊢ <;> omega

/-- Digits after others are read onto what those count. -/
lemma natOntoDigits?_append (acc : Nat) (cs ds : List Char) :
    natOntoDigits? base acc (cs ++ ds) = (natOntoDigits? base acc cs).bind fun acc => natOntoDigits? base acc ds := by
  induction cs generalizing acc with
  | nil => rfl
  | cons c cs ih =>
    rw [List.cons_append, natOntoDigits?, natOntoDigits?, Option.bind_assoc]
    exact congrArg _ (funext fun d => ih (acc * base + d))

variable (hbase : 1 < base) (hlimit : base ≤ 16)
include hbase hlimit

/-- A number is read back from its digits. -/
lemma natOntoDigits?_toDigits (n : Nat) : natOntoDigits? base 0 (Nat.toDigits base n) = some n := by
  induction n using induction_on_digits hbase with
  | digit n hn =>
    rw [Nat.toDigits_of_lt_base hn, natOntoDigits?, digitValue?_digitChar base hlimit n hn, Option.bind_some,
      natOntoDigits?, Nat.zero_mul, Nat.zero_add]
  | snoc n hn ih =>
    have hlast : digitValue? base (Nat.digitChar (n % base)) = some (n % base) :=
      digitValue?_digitChar base hlimit _ (Nat.mod_lt n (by omega))
    rw [Nat.toDigits_of_base_le hbase hn, natOntoDigits?_append, ih, Option.bind_some, natOntoDigits?, hlast,
      Option.bind_some, natOntoDigits?, Nat.div_add_mod']

/-- A number that is written out is read back. -/
lemma natOfDigits?_toDigits (n : Nat) : natOfDigits? base (Nat.toDigits base n) = some n := by
  cases hdigits : Nat.toDigits base n with
  | nil => exact absurd hdigits Nat.toDigits_ne_nil
  | cons c cs =>
    rw [natOfDigits?, ← hdigits]
    · exact natOntoDigits?_toDigits hbase hlimit n
    · exact List.cons_ne_nil c cs

/-- Each digit of a number has a value. -/
lemma digitValue?_of_mem_toDigits {n : Nat} {c : Char} (h : c ∈ Nat.toDigits base n) :
    (digitValue? base c).isSome = true := by
  obtain ⟨d, hd, rfl⟩ := exists_of_mem_toDigits hbase h
  rw [digitValue?_digitChar base hlimit d hd]
  rfl

/-- Only zero is written with a zero in front. -/
lemma eq_zero_of_head?_toDigits {n : Nat} (h : (Nat.toDigits base n).head? = some '0') : n = 0 := by
  have hzero : ∀ d < 16, Nat.digitChar d = '0' → d = 0 := by decide
  induction n using induction_on_digits hbase with
  | digit n hn =>
    rw [Nat.toDigits_of_lt_base hn] at h
    exact hzero n (Nat.lt_of_lt_of_le hn hlimit) (Option.some.inj h)
  | snoc n hn ih =>
    -- the digit in front is that of a smaller number, which is not zero
    have hquotient : 0 < n / base := Nat.div_pos hn (by omega)
    rw [Nat.toDigits_of_base_le hbase hn, List.head?_append_of_ne_nil _ Nat.toDigits_ne_nil] at h
    exact absurd (ih h) (Nat.ne_of_gt hquotient)

end

end ApiGateway.Number
