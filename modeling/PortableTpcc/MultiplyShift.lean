import Mathlib.Algebra.BigOperators.Group.Finset.Basic
import Mathlib.Order.Interval.Finset.Nat

namespace PortableTpcc

/-!
# Multiply and shift

A draw `x` below `N` is mapped to `x * r / N`, which is below `r`.  Draws whose
product leaves a remainder below `N % r` are rejected; then each of the `r`
values is left with `N / r` draws.
-/

section

variable {N r : Nat}

/-- The draws that are mapped to `k` and not rejected are an interval. -/
theorem kept_iff {k x : Nat} (positive : 0 < r) (below : k < r) :
    (x < N ∧ N % r ≤ x * r % N ∧ x * r / N = k) ↔ (k * N + N % r + (r - 1)) / r ≤ x ∧
      x < (k * N + N % r + (r - 1)) / r + N / r := by
  have split : r * (N / r) + N % r = N := Nat.div_add_mod N r
  have lower : (k * N + N % r + (r - 1)) / r ≤ x ↔ k * N + N % r ≤ x * r := by
    rw [Nat.div_le_iff_le_mul_add_pred positive, Nat.mul_comm r x]
    omega
  have upper : x < (k * N + N % r + (r - 1)) / r + N / r ↔ x * r < k * N + N := by
    have shift : (k * N + N % r + (r - 1)) / r + N / r = (k * N + N + (r - 1)) / r := by
      rw [← Nat.add_mul_div_left _ _ positive]
      congr 1
      omega
    rw [shift, ← not_le, Nat.div_le_iff_le_mul_add_pred positive, Nat.mul_comm r x]
    omega
  rw [lower, upper]
  constructor
  · intro ⟨isDraw, kept, isValue⟩
    have product := Nat.div_add_mod (x * r) N
    have remainder : x * r % N < N := Nat.mod_lt _ (by omega)
    rw [isValue, Nat.mul_comm] at product
    omega
  · intro ⟨above, belowNext⟩
    have someDraw : 0 < N := by omega
    have isValue : x * r / N = k := Nat.div_eq_of_lt_le (by omega) (by rwa [Nat.succ_mul])
    have product := Nat.div_add_mod (x * r) N
    rw [isValue, Nat.mul_comm] at product
    have isDraw : x * r < N * r := by
      have next : (k + 1) * N ≤ r * N := Nat.mul_le_mul_right N below
      rw [Nat.succ_mul] at next
      rw [Nat.mul_comm N r]
      omega
    exact ⟨Nat.lt_of_mul_lt_mul_right isDraw, by omega, isValue⟩

theorem card_kept_of_value {k : Nat} (positive : 0 < r) (below : k < r) :
    ((Finset.range N).filter fun x => N % r ≤ x * r % N ∧ x * r / N = k).card = N / r := by
  have interval : ((Finset.range N).filter fun x =>
        N % r ≤ x * r % N ∧ x * r / N = k) = Finset.Ico ((k * N + N % r + (r - 1)) / r)
          ((k * N + N % r + (r - 1)) / r + N / r) := by
    ext x
    rw [Finset.mem_filter, Finset.mem_range, Finset.mem_Ico]
    exact kept_iff positive below
  rw [interval, Nat.card_Ico, Nat.add_sub_cancel_left]

theorem value_lt {x : Nat} (positive : 0 < r) (isDraw : x < N) : x * r / N < r := by
  rw [Nat.div_lt_iff_lt_mul (by omega), Nat.mul_comm r N]
  exact Nat.mul_lt_mul_of_pos_right isDraw positive

theorem card_rejected (positive : 0 < r) :
    ((Finset.range N).filter fun x => ¬ N % r ≤ x * r % N).card = N % r := by
  have kept : ((Finset.range N).filter fun x => N % r ≤ x * r % N).card = r * (N / r) := by
    rw [Finset.card_eq_sum_card_fiberwise (t := Finset.range r) (f := fun x => x * r / N)]
    · rw [Finset.sum_congr rfl (g := fun _ => N / r), 
        Finset.sum_const_nat fun _ _ => rfl, Finset.card_range]
      intro k isValue
      rw [Finset.filter_filter]
      exact card_kept_of_value positive (Finset.mem_range.mp isValue)
    · intro x member
      have isDraw := Finset.mem_range.mp (Finset.mem_filter.mp member).1
      exact Finset.mem_coe.mpr (Finset.mem_range.mpr (value_lt positive isDraw))
  have both :=
    Finset.card_filter_add_card_filter_not (s := Finset.range N)
      fun x => N % r ≤ x * r % N
  rw [kept, Finset.card_range] at both
  have split := Nat.div_add_mod N r
  omega

end

end PortableTpcc
