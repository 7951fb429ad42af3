import Mathlib.Algebra.Order.Ring.Nat

namespace PortableTpcc

/-!
# Decimal digits

The digits of a text, and the number that they spell.
-/

/-- `c >= '0' && c <= '9'`. -/
def isDigit (c : Char) : Bool :=
  '0' ≤ c && c ≤ '9'

/-- A number is written with digits only. -/
theorem isDigit_toDigits {n : Nat} {c : Char} (member : c ∈ Nat.toDigits 10 n) :
    isDigit c = true := by
  have digit := Nat.isDigit_of_mem_toDigits (by decide) (by decide) member
  simp only [Char.isDigit, Bool.and_eq_true, decide_eq_true_eq] at digit
  simp only [isDigit, Bool.and_eq_true, decide_eq_true_eq]
  exact digit

theorem digit_le_nine {c : Char} (digit : isDigit c = true) : c.toNat - '0'.toNat ≤ 9 := by
  simp only [isDigit, Bool.and_eq_true, decide_eq_true_eq] at digit
  exact Nat.sub_le_of_le_add (UInt32.le_iff_toNat_le.mp digit.2)

/-- Reading on never makes the number smaller. -/
theorem le_ofDigitChars (digits : List Char) (n : Nat) : n ≤ Nat.ofDigitChars 10 digits n := by
  induction digits generalizing n with
  | nil => exact le_rfl
  | cons c digits ih =>
    rw [Nat.ofDigitChars_cons]
    exact (by omega : n ≤ 10 * n + (c.toNat - '0'.toNat)).trans (ih _)

/-- A number is below the power of ten of its length. -/
theorem ofDigitChars_lt {digits : List Char} (areDigits : ∀ c ∈ digits, isDigit c = true) :
    Nat.ofDigitChars 10 digits 0 < 10 ^ digits.length := by
  induction digits with
  | nil =>
    exact Nat.one_pos
  | cons c digits ih =>
    have later := ih fun other member => areDigits other (List.mem_cons_of_mem c member)
    have small := digit_le_nine (areDigits c List.mem_cons_self)
    rw [Nat.ofDigitChars_cons, Nat.ofDigitChars_eq_ofDigitChars_zero, List.length_cons, pow_succ,
      Nat.mul_zero, Nat.zero_add]
    have bound := Nat.mul_le_mul_left (10 ^ digits.length) small
    omega

end PortableTpcc
