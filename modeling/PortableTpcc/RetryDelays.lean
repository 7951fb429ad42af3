import PortableTpcc.NewOrderGenerator
import PortableTpcc.SignedWords

namespace PortableTpcc

/-!
# Delays between attempts

`terminal.cpp` doubles the delay before every retry, up to a maximum, and draws
a part of it when there is jitter.  A product that overflows, which C++ leaves
undefined, is `none`.
-/

namespace RetryDelays

open NewOrderGenerator

/-- `delay *= 2`. -/
def twice (delay : Int64) : Option Int64 :=
  if -2 ^ 63 ≤ delay.toInt * 2 ∧ delay.toInt * 2 < 2 ^ 63 then
    some (delay * 2)
  else
    none

/-- The loop of `RetryDelayCapMs` over the turns that are left. -/
def doubleUntil (maxBackoffMs : Int64) : Nat → Int64 → Option Int64
  | 0, delay => some delay
  | left + 1, delay =>
    if delay < maxBackoffMs then do
      let delay ← if maxBackoffMs / 2 < delay then some maxBackoffMs else twice delay
      doubleUntil maxBackoffMs left delay
    else
      some delay

/-- `RetryDelayCapMs`. -/
def retryDelayCapMs (retryIndex : UInt64) (initialBackoffMs maxBackoffMs : Int64) :
    Option Int64 :=
  if initialBackoffMs ≤ 0 ∨ maxBackoffMs ≤ 0 then
    some 0
  else do
    let delay ← doubleUntil maxBackoffMs retryIndex.toNat initialBackoffMs
    return if maxBackoffMs < delay then maxBackoffMs else delay

/-- `RetryDelay`. -/
def retryDelay (retryIndex : UInt64) (initialBackoffMs maxBackoffMs : Int64) (jitter : String)
    (fuel : Nat) : Draws Int64 := do
  let cap ← retryDelayCapMs retryIndex initialBackoffMs maxBackoffMs
  if cap ≤ 0 then
    return 0
  else if jitter = "full" then
    let drawn ← randomNumber 0 cap.toUInt64 fuel
    return drawn.toInt64
  else
    return cap

section

variable {initialBackoffMs maxBackoffMs delay : Int64}

theorem toInt_half (positive : 0 < maxBackoffMs.toInt) :
    (maxBackoffMs / 2).toInt = maxBackoffMs.toInt / 2 := by
  rw [Int64.toInt_div_of_ne_right _ _ (by decide)]
  exact Int.tdiv_eq_ediv_of_nonneg positive.le

theorem twice_of_le_half (positive : 0 < delay.toInt) (fits : delay.toInt * 2 < 2 ^ 63) :
    twice delay = some (delay * 2) ∧ (delay * 2).toInt = delay.toInt * 2 := by
  have two : (2 : Int64).toInt = 2 := rfl
  refine ⟨if_pos ⟨by omega, fits⟩, ?_⟩
  rw [Int64.toInt_mul, two]
  exact Int.bmod_eq_of_le (by omega) (by omega)

/-- The loop does not overflow, and its result is the power up to the maximum. -/
theorem doubleUntil_eq (left : Nat) (isDelay : 0 < delay.toInt) (isMax : 0 < maxBackoffMs.toInt) :
    ∃ result, doubleUntil maxBackoffMs left delay = some result ∧
      min result.toInt maxBackoffMs.toInt = min (delay.toInt * 2 ^ left) maxBackoffMs.toInt := by
  have half := toInt_half isMax
  have bound := maxBackoffMs.toInt_lt
  induction left generalizing delay with
  | zero =>
    exact ⟨delay, rfl, by rw [pow_zero, mul_one]⟩
  | succ left ih =>
    have power : (1 : Int) ≤ 2 ^ left := one_le_pow₀ (by decide)
    have grows : delay.toInt * 2 ≤ delay.toInt * 2 ^ (left + 1) := by
      rw [pow_succ', ← mul_assoc]
      exact le_mul_of_one_le_right (by omega) power
    unfold doubleUntil
    by_cases below : delay < maxBackoffMs
    · rw [if_pos below]
      by_cases isLast : maxBackoffMs / 2 < delay
      · -- The next turn would pass the maximum.
        rw [if_pos isLast]
        rw [Int64.lt_iff_toInt_lt, half] at isLast
        obtain ⟨result, returned, isMin⟩ := ih isMax
        refine ⟨result, returned, isMin.trans ?_⟩
        have reached := le_mul_of_one_le_right isMax.le power
        omega
      · rw [if_neg isLast]
        rw [Int64.lt_iff_toInt_lt, half] at isLast
        obtain ⟨doubled, isTwice⟩ := twice_of_le_half isDelay (by omega)
        obtain ⟨result, returned, isMin⟩ := ih (isTwice.symm ▸ (by omega : 0 < delay.toInt * 2))
        refine ⟨result, ?_, ?_⟩
        · rw [doubled]
          exact returned
        · rw [isMin, isTwice, pow_succ', mul_assoc]
    · rw [if_neg below]
      rw [Int64.lt_iff_toInt_lt] at below
      exact ⟨delay, rfl, by omega⟩

/-- The result is the power up to the maximum, in unbounded arithmetic. -/
theorem retryDelayCapMs_eq (retryIndex : UInt64) (initialBackoffMs maxBackoffMs : Int64) :
    ∃ cap, retryDelayCapMs retryIndex initialBackoffMs maxBackoffMs = some cap ∧ cap.toInt =
        if initialBackoffMs ≤ 0 ∨ maxBackoffMs ≤ 0 then 0
        else min (initialBackoffMs.toInt * 2 ^ retryIndex.toNat) maxBackoffMs.toInt := by
  unfold retryDelayCapMs
  by_cases none : initialBackoffMs ≤ 0 ∨ maxBackoffMs ≤ 0
  · exact ⟨0, if_pos none, (if_pos none).symm⟩
  · rw [if_neg none, if_neg none]
    rw [not_or, Int64.not_le, Int64.not_le, Int64.lt_iff_toInt_lt, Int64.lt_iff_toInt_lt] at none
    obtain ⟨result, returned, isMin⟩ := doubleUntil_eq retryIndex.toNat none.1 none.2
    rw [returned]
    refine ⟨_, rfl, Eq.trans ?_ isMin⟩
    by_cases above : maxBackoffMs < result
    · rw [if_pos above, min_eq_right (Int64.lt_iff_toInt_lt.mp above).le]
    · rw [if_neg above, min_eq_left (Int64.le_iff_toInt_le.mp (Int64.not_lt.mp above))]

end

/-- A delay is drawn up to the bound, or is the bound. -/
theorem retryDelay_yields {retryIndex : UInt64} {initialBackoffMs maxBackoffMs cap : Int64}
    (isCap : retryDelayCapMs retryIndex initialBackoffMs maxBackoffMs = some cap)
    (nonneg : 0 ≤ cap.toInt) (jitter : String) :
    Yields Live (retryDelay retryIndex initialBackoffMs maxBackoffMs jitter)
      fun delay => 0 ≤ delay.toInt ∧ delay.toInt ≤ cap.toInt := by
  have lifted : Yields Live (fun _ => (liftM (some cap) : Draws Int64)) (· = cap) :=
    fun rng live => ⟨0, cap, rng, fun _ _ => rfl, live, rfl⟩
  have isBound := toNat_toUInt64 nonneg
  have small := cap.toInt_lt
  unfold retryDelay
  rw [isCap]
  refine Yields.bind lifted ?_
  rintro cap rfl
  split
  · exact Yields.pure ⟨Int.le_refl 0, nonneg⟩
  · split
    · have ordered : (0 : UInt64) ≤ cap.toUInt64 := UInt64.le_iff_toNat_le.mpr (Nat.zero_le _)
      refine Yields.bind (randomNumber_yields ordered (by omega)) fun drawn inRange => ?_
      have below := UInt64.le_iff_toNat_le.mp inRange.2
      have isDrawn := toInt_toInt64 (x := drawn) (by omega)
      exact Yields.pure (by omega)
    · exact Yields.pure ⟨nonneg, Int.le_refl _⟩

/--
The bound of a delay is the initial delay times a power of two, up to the
maximum, it never overflows and grows with the number of the retry; a delay is
between zero and its bound.
-/
theorem retryDelay_le_cap (initialBackoffMs maxBackoffMs : Int64) :
    (∀ retryIndex, ∃ cap, retryDelayCapMs retryIndex initialBackoffMs maxBackoffMs = some cap ∧
      (cap.toInt =
        if initialBackoffMs ≤ 0 ∨ maxBackoffMs ≤ 0 then 0
        else min (initialBackoffMs.toInt * 2 ^ retryIndex.toNat) maxBackoffMs.toInt) ∧
      ∀ jitter, Yields Live (retryDelay retryIndex initialBackoffMs maxBackoffMs jitter)
        fun delay => 0 ≤ delay.toInt ∧ delay.toInt ≤ cap.toInt) ∧
      ∀ first second cap cap', first ≤ second →
        retryDelayCapMs first initialBackoffMs maxBackoffMs = some cap →
          retryDelayCapMs second initialBackoffMs maxBackoffMs = some cap' → cap ≤ cap' := by
  constructor
  · intro retryIndex
    rcases retryDelayCapMs_eq retryIndex initialBackoffMs maxBackoffMs with ⟨cap, isCap, value⟩
    refine ⟨cap, isCap, value, retryDelay_yields isCap ?_⟩
    rw [value]
    split
    · exact Int.le_refl 0
    · rename_i positive
      rw [not_or, Int64.not_le, Int64.not_le, Int64.lt_iff_toInt_lt, Int64.lt_iff_toInt_lt]
        at positive
      exact le_min (mul_nonneg positive.1.le (pow_nonneg (by decide) _)) positive.2.le
  · intro first second cap cap' ordered isCap isCap'
    rcases retryDelayCapMs_eq first initialBackoffMs maxBackoffMs with ⟨_, isFirst, value⟩
    rcases retryDelayCapMs_eq second initialBackoffMs maxBackoffMs with ⟨_, isSecond, value'⟩
    cases isCap.symm.trans isFirst
    cases isCap'.symm.trans isSecond
    rw [Int64.le_iff_toInt_le, value, value']
    split
    · exact Int.le_refl 0
    · rename_i positive
      rw [not_or, Int64.not_le, Int64.lt_iff_toInt_lt] at positive
      refine min_le_min_right _ (mul_le_mul_of_nonneg_left ?_ positive.1.le)
      exact pow_le_pow_right₀ (by decide) (UInt64.le_iff_toNat_le.mp ordered)

end RetryDelays

end PortableTpcc
