import CloudQueue.Text.Integer
import Mathlib

/-!
# Decimal texts

The digits of a number are ASCII digits, the first of them is zero only for zero itself, and reading
them from left to right gives the number back (`ofDigitChars_digits`). A decimal text is digits with
a fraction, an exponent, or both behind them (`IsDecimal`).
-/

namespace CloudQueue.Text

variable {c : Char}

theorem isDigit_iff : c.isDigit = true ↔ '0' ≤ c ∧ c ≤ '9' := by
  unfold Char.isDigit
  rw [Bool.and_eq_true, decide_eq_true_eq, decide_eq_true_eq]
  rfl

theorem digitValue?_of_isDigit (h : c.isDigit = true) :
    digitValue? c = some (c.toNat - '0'.toNat) := by
  unfold digitValue?
  rw [if_pos (isDigit_iff.mp h)]

theorem digitValue?_eq_none (h : c.isDigit = false) : digitValue? c = none := by
  unfold digitValue?
  rw [if_neg]
  intro hc
  rw [isDigit_iff.mpr hc] at h
  cases h

theorem isDigit_of_mem_digits {n : Nat} (h : c ∈ digits n) : c.isDigit = true :=
  Nat.isDigit_of_mem_toDigits (by norm_num) (by norm_num) h

theorem digits_ne_nil (n : Nat) : digits n ≠ [] := Nat.toDigits_ne_nil

theorem ofDigitChars_digits (n : Nat) : Nat.ofDigitChars 10 (digits n) 0 = n :=
  Nat.ofDigitChars_ten_toDigits

theorem digits_zero : digits 0 = ['0'] := rfl

theorem head?_digits_ne_zero {n : Nat} (h : 0 < n) : (digits n).head? ≠ some '0' := by
  induction n using Nat.strong_induction_on with
  | _ n ih =>
    unfold digits
    by_cases hn : n < 10
    · rw [Nat.toDigits_of_lt_base hn]
      interval_cases n <;> decide
    · rw [Nat.toDigits_of_base_le (by norm_num) (by omega), List.head?_append]
      have hdiv := ih (n / 10) (by omega) (by omega)
      unfold digits at hdiv
      rcases hhead : (Nat.toDigits 10 (n / 10)).head? with _ | c
      · exact absurd (List.head?_eq_none_iff.mp hhead) Nat.toDigits_ne_nil
      · rwa [hhead] at hdiv

theorem le_ofDigitChars (ds : List Char) (n : Nat) : n ≤ Nat.ofDigitChars 10 ds n := by
  induction ds generalizing n with
  | nil => exact Nat.le_refl n
  | cons c ds ih =>
    rw [Nat.ofDigitChars_cons]
    exact Nat.le_trans (by omega) (ih _)

/-! ## Fractions and exponents -/

def AllDigits (s : List Char) : Prop := ∀ c ∈ s, c.isDigit = true

/-- The letter `e`, a sign and digits. -/
def IsExponent (s : List Char) : Prop :=
  ∃ sign ds, s = 'e' :: sign :: ds ∧ (sign = '+' ∨ sign = '-') ∧ AllDigits ds

/-- What stands behind the digits before the point: a fraction, an exponent, or both. -/
inductive IsDecimalTail : List Char → Prop
  | exponent {s : List Char} (h : IsExponent s) : IsDecimalTail s
  | fraction {ds s : List Char} (hds : AllDigits ds) (h : s = [] ∨ IsExponent s) :
      IsDecimalTail ('.' :: ds ++ s)

/-- Digits, with a fraction, an exponent, or both behind them. -/
def IsDecimal (s : List Char) : Prop :=
  ∃ whole tail, s = whole ++ tail ∧ whole ≠ [] ∧ AllDigits whole ∧ IsDecimalTail tail

variable {s t : List Char}

@[simp] theorem allDigits_nil : AllDigits [] := fun _ h => absurd h List.not_mem_nil

@[simp] theorem allDigits_cons : AllDigits (c :: s) ↔ c.isDigit = true ∧ AllDigits s := by
  simp [AllDigits]

@[simp] theorem allDigits_append : AllDigits (s ++ t) ↔ AllDigits s ∧ AllDigits t := by
  simp [AllDigits, or_imp, forall_and]

theorem AllDigits.take (h : AllDigits s) (n : Nat) : AllDigits (s.take n) :=
  fun c hc => h c (List.mem_of_mem_take hc)

theorem AllDigits.drop (h : AllDigits s) (n : Nat) : AllDigits (s.drop n) :=
  fun c hc => h c (List.mem_of_mem_drop hc)

theorem allDigits_digits (n : Nat) : AllDigits (digits n) := fun _ => isDigit_of_mem_digits

theorem allDigits_replicate_zero (n : Nat) : AllDigits (List.replicate n '0') := by
  intro c hc
  rw [List.eq_of_mem_replicate hc]
  rfl

end CloudQueue.Text
