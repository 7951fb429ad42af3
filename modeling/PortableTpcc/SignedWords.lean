import Mathlib.Tactic.Ring

namespace PortableTpcc

/-!
# Signed words without overflow

The operations of `Int64` are those of the integers as long as the result fits.
-/

section

variable {a b : Int64}

theorem toInt_add_of_fits (low : -2 ^ 63 ≤ a.toInt + b.toInt) (high : a.toInt + b.toInt < 2 ^ 63) :
    (a + b).toInt = a.toInt + b.toInt := by
  rw [Int64.toInt_add]
  exact Int.bmod_eq_of_le (by omega) (by omega)

theorem toInt_sub_of_fits (low : -2 ^ 63 ≤ a.toInt - b.toInt) (high : a.toInt - b.toInt < 2 ^ 63) :
    (a - b).toInt = a.toInt - b.toInt := by
  rw [Int64.toInt_sub]
  exact Int.bmod_eq_of_le (by omega) (by omega)

/-- A number is the value of its word exactly when it fits. -/
theorem toInt_ofInt_eq_iff {n : Int} : (Int64.ofInt n).toInt = n ↔ -2 ^ 63 ≤ n ∧ n < 2 ^ 63 := by
  constructor
  · intro same
    have low := Int64.le_toInt (Int64.ofInt n)
    have high := Int64.toInt_lt (Int64.ofInt n)
    rw [same] at low high
    exact ⟨low, high⟩
  · rintro ⟨low, high⟩
    rw [Int64.toInt_ofInt]
    exact Int.bmod_eq_of_le (by change -(2 ^ 64 / 2) ≤ n; omega)
      (by change n < (2 ^ 64 + 1) / 2; omega)

/-- A number with one more digit, wrapped around. -/
theorem ofNat_mul_ten_add (n d : Nat) :
    Int64.ofNat n * 10 + Int64.ofNat d = Int64.ofNat (10 * n + d) := by
  have ten : (10 : Int64) = Int64.ofNat 10 := rfl
  rw [ten, ← Int64.ofNat_mul, ← Int64.ofNat_add, Nat.mul_comm]

theorem toInt_toInt64 {x : UInt64} (small : x.toNat < 2 ^ 63) : x.toInt64.toInt = x.toNat :=
  BitVec.toInt_eq_toNat_of_lt (by change 2 * x.toNat < 2 ^ 64; omega)

theorem toNat_toUInt64 (nonneg : 0 ≤ a.toInt) : (a.toUInt64.toNat : Int) = a.toInt := by
  rw [Int64.toNat_toUInt64_of_le (Int64.le_iff_toInt_le.mpr nonneg)]
  exact Int.toNat_of_nonneg nonneg

end

end PortableTpcc
