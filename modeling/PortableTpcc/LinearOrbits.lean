import Mathlib.Data.List.Prime
import Mathlib.Data.Nat.Prime.Basic
import Mathlib.Dynamics.PeriodicPts.Defs

namespace PortableTpcc

/-!
# Orbits of additive maps

The period of a point is known from a few of its iterates: the one at the
period, and the ones at the period divided by its prime factors.  For a map
that respects an addition, far iterates are found by combinations: if `f^[n] v`
is a sum of the first iterates of `v`, then `f^[n]` takes any iterate of `v` to
the same sum of the iterates that follow it.
-/

open Function

section

variable {α : Type} {f : α → α} {v : α}

/-- A period is the smallest one if no prime factor can be left out. -/
theorem minimalPeriod_eq_prod {factors : List Nat} (primes : ∀ q ∈ factors, q.Prime)
    (returns : f^[factors.prod] v = v) (notSooner : ∀ q ∈ factors, f^[factors.prod / q] v ≠ v) :
    minimalPeriod f v = factors.prod := by
  have isPeriodic : IsPeriodicPt f factors.prod v := returns
  rcases isPeriodic.minimalPeriod_dvd with ⟨rest, isProduct⟩
  by_cases isOne : rest = 1
  · rw [isProduct, isOne, Nat.mul_one]
  -- A prime factor of the rest is one of the factors.
  · have isPrime := Nat.minFac_prime isOne
    have divides : rest.minFac ∣ factors.prod := isProduct ▸ (Nat.minFac_dvd rest).mul_left _
    rcases (Prime.dvd_prod_iff isPrime.prime).mp divides with ⟨q, member, dividesFactor⟩
    have isFactor : rest.minFac = q :=
      (Nat.prime_dvd_prime_iff_eq isPrime (primes q member)).mp dividesFactor
    rcases Nat.minFac_dvd rest with ⟨smaller, isRest⟩
    have quotient : factors.prod / q = minimalPeriod f v * smaller := by
      apply Nat.div_eq_of_eq_mul_right (primes q member).pos
      rw [isProduct, isRest, isFactor]
      exact Nat.mul_left_comm _ _ _
    have sooner : IsPeriodicPt f (factors.prod / q) v := by
      rw [quotient]
      exact (isPeriodicPt_minimalPeriod f v).mul_const smaller
    exact absurd sooner (notSooner q member)

section FullOrbit

variable {S : Finset α}
  (closed : ∀ x ∈ S, f x ∈ S)
  (start : v ∈ S)
  (full : minimalPeriod f v = S.card)

include closed start

theorem iterate_mem (n : Nat) : f^[n] v ∈ S := by
  induction n with
  | zero =>
    exact start
  | succ n ih =>
    rw [iterate_succ_apply']
    exact closed _ ih

include full

/-- An orbit as large as the set reaches each point of it once. -/
theorem existsUnique_iterate {x : α} (member : x ∈ S) : ∃! n, n < S.card ∧ f^[n] v = x := by
  classical
  have injective : Set.InjOn (fun n => f^[n] v) (Finset.range S.card) := by
    intro first isFirst second isSecond same
    apply iterate_injOn_Iio_minimalPeriod _ _ same
    · rw [full]
      exact Finset.mem_range.mp isFirst
    · rw [full]
      exact Finset.mem_range.mp isSecond
  have image : (Finset.range S.card).image (fun n => f^[n] v) = S := by
    apply Finset.eq_of_subset_of_card_le
    · intro y isImage
      rcases Finset.mem_image.mp isImage with ⟨n, _, rfl⟩
      exact iterate_mem closed start n
    · rw [Finset.card_image_of_injOn injective, Finset.card_range]
  rw [← image] at member
  rcases Finset.mem_image.mp member with ⟨n, below, isPoint⟩
  refine ⟨n, ⟨Finset.mem_range.mp below, isPoint⟩, ?_⟩
  rintro other ⟨otherBelow, otherPoint⟩
  exact injective (Finset.mem_range.mpr otherBelow) below (otherPoint.trans isPoint.symm)

/-- Every point of the set has the same period. -/
theorem minimalPeriod_of_mem {x : α} (member : x ∈ S) : minimalPeriod f x = S.card := by
  have someMember : 0 < S.card := Finset.card_pos.mpr ⟨v, start⟩
  have isPeriodic : v ∈ periodicPts f :=
    minimalPeriod_pos_iff_mem_periodicPts.mp (full ▸ someMember)
  rcases (existsUnique_iterate closed start full member).exists with ⟨n, _, rfl⟩
  rw [minimalPeriod_apply_iterate isPeriodic, full]

end FullOrbit

section

variable (f : α → α) (add : α → α → α) (zero : α)

/-- The sum of the iterates of `v` whose bit is set in the mask. -/
def combination : Nat → Nat → α → α
  | 0, _, _ => zero
  | bits + 1, mask, v =>
    if mask % 2 = 1 then
      add v (combination bits (mask / 2) (f v))
    else
      combination bits (mask / 2) (f v)

/--
The masks stand for the iterates at `n`, `2 n`, `4 n` and so on, of which `w` is
the first.
-/
def stridesFrom (bits : Nat) (v : α) [DecidableEq α] : α → List Nat → Bool
  | _, [] => true
  | w, mask :: masks =>
    combination f add zero bits mask v = w &&
      stridesFrom bits v (combination f add zero bits mask w) masks

/-- Take the strides whose bit is set in the count. -/
def leap (bits : Nat) : List Nat → Nat → α → α
  | [], _, w => w
  | mask :: masks, count, w =>
    leap bits masks (count / 2) (if count % 2 = 1 then combination f add zero bits mask w else w)

end

section

variable {add : α → α → α} {zero : α}
  (additive : ∀ x y, f (add x y) = add (f x) (f y))
  (keepsZero : f zero = zero)

include additive keepsZero

theorem map_combination (bits mask : Nat) (v : α) :
    f (combination f add zero bits mask v) = combination f add zero bits mask (f v) := by
  induction bits generalizing mask v with
  | zero =>
    exact keepsZero
  | succ bits ih =>
    rw [combination, combination]
    by_cases isSet : mask % 2 = 1
    · rw [if_pos isSet, if_pos isSet, additive, ih]
    · rw [if_neg isSet, if_neg isSet, ih]

/-- A combination that is an iterate of `v` is one of every iterate of `v`. -/
theorem combination_iterate {bits mask n : Nat}
    (isIterate : combination f add zero bits mask v = f^[n] v) (m : Nat) :
    combination f add zero bits mask (f^[m] v) = f^[m + n] v := by
  have commutes : Function.Commute f (combination f add zero bits mask) :=
    map_combination additive keepsZero bits mask
  rw [iterate_add_apply, ← isIterate]
  exact ((commutes.iterate_left m) v).symm

/-- Leaps reach the iterates that they stand for. -/
theorem leap_eq_iterate [DecidableEq α] {bits n : Nat} {masks : List Nat}
    (strides : stridesFrom f add zero bits v (f^[n] v) masks = true) {count : Nat}
    (small : count < 2 ^ masks.length) (m : Nat) :
    leap f add zero bits masks count (f^[m] v) = f^[m + n * count] v := by
  induction masks generalizing n m count with
  | nil =>
    have isZero : count = 0 := Nat.lt_one_iff.mp small
    rw [isZero]
    rfl
  | cons mask masks ih =>
    rw [stridesFrom, Bool.and_eq_true, decide_eq_true_eq] at strides
    rcases strides with ⟨isStride, later⟩
    rw [combination_iterate additive keepsZero isStride] at later
    have smaller : count / 2 < 2 ^ masks.length := by
      rw [List.length_cons, Nat.pow_succ] at small
      omega
    have halves : n * count = (n + n) * (count / 2) + n * (count % 2) := by
      rw [← Nat.mul_two, Nat.mul_assoc, ← Nat.mul_add, Nat.div_add_mod]
    rw [leap]
    by_cases isSet : count % 2 = 1
    · rw [if_pos isSet, combination_iterate additive keepsZero isStride,
        ih later smaller, halves, isSet]
      congr 1
      omega
    · have isEven : count % 2 = 0 := by omega
      rw [if_neg isSet, ih later smaller, halves, isEven,
        Nat.mul_zero, Nat.add_zero]

end

end

end PortableTpcc
