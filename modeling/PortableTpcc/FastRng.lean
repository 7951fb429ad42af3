import PortableTpcc.MultiplyShift
import Mathlib.Data.Set.Card

namespace PortableTpcc

/-!
# The random numbers of the driver

`rng.h` draws 64-bit words from a xorshift generator and maps them to a range
by a multiplication; draws that would favour some values are rejected.
-/

/-- `TFastRng`. -/
structure TFastRng where
  state : UInt64
deriving Repr, DecidableEq

/-- `TFastRng(seed)`. -/
def TFastRng.ofSeed (seed : UInt64) : TFastRng :=
  ⟨if seed ≠ 0 then seed else 0x9E3779B97F4A7C15⟩

/-- `TFastRng()`, with the two words that the random device returns. -/
def TFastRng.ofDevice (first second : UInt32) : TFastRng :=
  let s := (first.toUInt64 <<< 32) ||| second.toUInt64
  ⟨if s ≠ 0 then s else 0x9E3779B97F4A7C15⟩

/-- `Next`. -/
def TFastRng.next (rng : TFastRng) : UInt64 × TFastRng :=
  let x := rng.state
  let x := x ^^^ (x >>> 12)
  let x := x ^^^ (x <<< 25)
  let x := x ^^^ (x >>> 27)
  (x * 0x2545F4914F6CDD1D, ⟨x⟩)

/-- `m`, which is below `2 ^ 128`. -/
def widened (x range : UInt64) : Nat :=
  x.toNat * range.toNat

/-- `l`. -/
def lowWord (m : Nat) : UInt64 :=
  UInt64.ofNat m

/-- `static_cast<uint64_t>(m >> 64)`. -/
def highWord (m : Nat) : UInt64 :=
  UInt64.ofNat (m >>> 64)

/-- `t`. -/
def rejectBelow (range : UInt64) : UInt64 :=
  (0 - range) % range

/-- The loop of `BoundedRandom`; the fuel bounds its turns. -/
def redraw (range : UInt64) (fuel : Nat) (m : Nat) (rng : TFastRng) : Option (Nat × TFastRng) :=
  if lowWord m < rejectBelow range then
    match fuel with
    | 0 => none
    | fuel + 1 =>
      let (x, rng) := rng.next
      redraw range fuel (widened x range) rng
  else
    some (m, rng)

/-- `BoundedRandom`. -/
def boundedRandom (fuel : Nat) (rng : TFastRng) (range : UInt64) : Option (UInt64 × TFastRng) :=
  if range = 0 then
    some (0, rng)
  else
    let (x, rng) := rng.next
    let m := widened x range
    if lowWord m < range then do
      let (m, rng) ← redraw range fuel m rng
      return (highWord m, rng)
    else
      some (highWord m, rng)

/-- The generator after some draws. -/
def TFastRng.after (rng : TFastRng) (n : Nat) : TFastRng :=
  (fun rng : TFastRng => rng.next.2)^[n] rng

/-- The draw that follows `n` others. -/
def TFastRng.draw (rng : TFastRng) (n : Nat) : UInt64 :=
  (rng.after n).next.1

/-- The draw ends the loop. -/
def Accepts (range x : UInt64) : Prop :=
  rejectBelow range ≤ lowWord (widened x range)

instance (range x : UInt64) : Decidable (Accepts range x) :=
  inferInstanceAs (Decidable (_ ≤ _))

/-- The value that is returned for a draw. -/
def valueOf (range x : UInt64) : UInt64 :=
  highWord (widened x range)

@[simp]
theorem TFastRng.after_zero (rng : TFastRng) : rng.after 0 = rng :=
  rfl

theorem TFastRng.after_succ (rng : TFastRng) (n : Nat) : rng.after (n + 1) = rng.next.2.after n :=
  rfl

section

variable {range : UInt64}

variable {x : UInt64}

theorem redraw_of_accepts (accepts : Accepts range x) (fuel : Nat) (rng : TFastRng) :
    redraw range fuel (widened x range) rng = some (widened x range, rng) := by
  rw [redraw.eq_def, if_neg (UInt64.not_lt.mpr accepts)]

theorem redraw_of_rejects (rejects : ¬ Accepts range x) (fuel : Nat) (rng : TFastRng) :
    redraw range (fuel + 1) (widened x range) rng =
      redraw range fuel (widened rng.next.1 range) rng.next.2 := by
  rw [redraw, if_pos (UInt64.not_le.mp rejects)]

/-- The draw at which the function stops. -/
structure FirstAccepted (range : UInt64) (rng : TFastRng) (n : Nat) : Prop where
  accepted : Accepts range (rng.draw n)
  rejected : ∀ j < n, ¬ Accepts range (rng.draw j)

variable {rng : TFastRng}

theorem FirstAccepted.later {n : Nat} (first : FirstAccepted range rng (n + 1)) :
    FirstAccepted range rng.next.2 n where
  accepted := first.accepted
  rejected j below := first.rejected (j + 1) (by omega)

/-- The loop goes on until a draw is accepted. -/
theorem redraw_eq_some_iff {fuel : Nat} {result : Nat × TFastRng} :
    redraw range fuel (widened rng.next.1 range) rng.next.2 = some result ↔
      ∃ n ≤ fuel, FirstAccepted range rng n ∧
      result = (widened (rng.draw n) range, rng.after (n + 1)) := by
  induction fuel generalizing rng with
  | zero =>
    by_cases accepts : Accepts range rng.next.1
    · rw [redraw_of_accepts accepts, Option.some_inj]
      constructor
      · rintro rfl
        exact ⟨0, le_rfl, ⟨accepts, by omega⟩, rfl⟩
      · rintro ⟨n, small, _, rfl⟩
        rw [Nat.le_zero.mp small]
        rfl
    · rw [redraw, if_pos (UInt64.not_le.mp accepts)]
      constructor
      · intro isNone
        exact absurd isNone (by simp)
      · rintro ⟨n, small, first, _⟩
        rw [Nat.le_zero.mp small] at first
        exact absurd first.accepted accepts
  | succ fuel ih =>
    by_cases accepts : Accepts range rng.next.1
    · rw [redraw_of_accepts accepts, Option.some_inj]
      constructor
      · rintro rfl
        exact ⟨0, Nat.zero_le _, ⟨accepts, by omega⟩, rfl⟩
      · rintro ⟨n, _, first, rfl⟩
        have isFirst : n = 0 := by
          by_contra later
          exact first.rejected 0 (by omega) accepts
        rw [isFirst]
        rfl
    · rw [redraw_of_rejects accepts, ih]
      constructor
      · rintro ⟨n, small, first, rfl⟩
        refine ⟨n + 1, by omega, ⟨first.accepted, ?_⟩, rfl⟩
        intro j below
        cases j with
        | zero =>
          exact accepts
        | succ j =>
          exact first.rejected j (by omega)
      · rintro ⟨n, small, first, rfl⟩
        cases n with
        | zero =>
          exact absurd first.accepted accepts
        | succ n =>
          exact ⟨n, by omega, first.later, rfl⟩

theorem toNat_lowWord (m : Nat) : (lowWord m).toNat = m % 2 ^ 64 :=
  UInt64.toNat_ofNat'

theorem toNat_rejectBelow (positive : 0 < range.toNat) :
    (rejectBelow range).toNat = 2 ^ 64 % range.toNat := by
  have small := range.toNat_lt
  have negated : (0 - range).toNat = 2 ^ 64 - range.toNat := by
    rw [UInt64.toNat_sub, UInt64.toNat_zero, Nat.add_zero]
    exact Nat.mod_eq_of_lt (by omega)
  rw [rejectBelow, UInt64.toNat_mod, negated, ← Nat.mod_eq_sub_mod small.le]

theorem accepts_iff (positive : 0 < range.toNat) (x : UInt64) :
    Accepts range x ↔ 2 ^ 64 % range.toNat ≤ x.toNat * range.toNat % 2 ^ 64 := by
  rw [Accepts, UInt64.le_iff_toNat_le, toNat_rejectBelow positive, toNat_lowWord, widened]

theorem toNat_valueOf (positive : 0 < range.toNat) (x : UInt64) :
    (valueOf range x).toNat = x.toNat * range.toNat / 2 ^ 64 := by
  have small := value_lt positive x.toNat_lt
  have below := range.toNat_lt
  rw [valueOf, highWord, UInt64.toNat_ofNat', Nat.shiftRight_eq_div_pow,
    widened, Nat.mod_eq_of_lt (by omega)]

theorem valueOf_lt (positive : 0 < range.toNat) (x : UInt64) : valueOf range x < range := by
  rw [UInt64.lt_iff_toNat_lt, toNat_valueOf positive]
  exact value_lt positive x.toNat_lt

/-- A draw at which the early test passes is accepted. -/
theorem accepts_of_early (positive : 0 < range.toNat)
    (early : ¬ lowWord (widened x range) < range) : Accepts range x := by
  have below := Nat.mod_lt (2 ^ 64) positive
  have notLess := UInt64.le_iff_toNat_le.mp (UInt64.not_lt.mp early)
  rw [Accepts, UInt64.le_iff_toNat_le, toNat_rejectBelow positive]
  omega

/-- The function returns the value of the first draw that is accepted. -/
theorem boundedRandom_eq_some_iff (positive : 0 < range.toNat) {fuel : Nat}
    {result : UInt64 × TFastRng} :
    boundedRandom fuel rng range = some result ↔ ∃ n ≤ fuel, FirstAccepted range rng n ∧
      result = (valueOf range (rng.draw n), rng.after (n + 1)) := by
  have someRange : range ≠ 0 := by
    rintro rfl
    simp at positive
  have loop : boundedRandom fuel rng range =
      (redraw range fuel (widened rng.next.1 range) rng.next.2).map
          fun stopped => (highWord stopped.1, stopped.2) := by
    rw [boundedRandom, if_neg someRange]
    by_cases early : lowWord (widened rng.next.1 range) < range
    · simp only [early, if_true, Option.map_eq_bind]
      rfl
    · have accepts := accepts_of_early positive early
      simp only [early, if_false, redraw_of_accepts accepts]
      rfl
  rw [loop, Option.map_eq_some_iff]
  constructor
  · rintro ⟨stopped, isStopped, rfl⟩
    rcases redraw_eq_some_iff.mp isStopped with ⟨n, small, first, rfl⟩
    exact ⟨n, small, first, rfl⟩
  · rintro ⟨n, small, first, rfl⟩
    exact ⟨_, redraw_eq_some_iff.mpr ⟨n, small, first, rfl⟩, rfl⟩

theorem ncard_words (P : Nat → Prop) [DecidablePred P] :
    {x : UInt64 | P x.toNat}.ncard = ((Finset.range (2 ^ 64)).filter P).card := by
  have injective : Function.Injective UInt64.toNat := fun _ _ => UInt64.toNat_inj.mp
  have image : Set.image UInt64.toNat {x : UInt64 | P x.toNat} =
      ((Finset.range (2 ^ 64)).filter P : Finset Nat) := by
    ext n
    rw [Finset.mem_coe, Finset.mem_filter, Finset.mem_range]
    constructor
    · rintro ⟨x, isMember, rfl⟩
      exact ⟨x.toNat_lt, isMember⟩
    · rintro ⟨small, isMember⟩
      have isNumber : (UInt64.ofNat n).toNat = n := UInt64.toNat_ofNat_of_lt small
      refine ⟨UInt64.ofNat n, ?_, isNumber⟩
      rw [Set.mem_ofPred_eq, isNumber]
      exact isMember
  rw [← Set.ncard_image_of_injective _ injective, image, Set.ncard_coe_finset]

end

/--
The function returns the value of the first draw that is accepted, which is
below the range; of the words that are accepted each value has the same number,
and the words left over are the rejected ones.
-/
theorem boundedRandom_unbiased {range : UInt64} (positive : 1 ≤ range) :
    (∀ fuel rng result, (boundedRandom fuel rng range = some result ↔
      ∃ n ≤ fuel, FirstAccepted range rng n ∧
      result = (valueOf range (rng.draw n), rng.after (n + 1))) ∧
      (boundedRandom fuel rng range = some result → result.1 < range)) ∧ (∀ k < range,
      {x | Accepts range x ∧ valueOf range x = k}.ncard = 2 ^ 64 / range.toNat) ∧
      {x | ¬ Accepts range x}.ncard = 2 ^ 64 % range.toNat := by
  have isPositive : 0 < range.toNat := UInt64.le_iff_toNat_le.mp positive
  refine ⟨?_, ?_, ?_⟩
  · intro fuel rng result
    refine ⟨boundedRandom_eq_some_iff isPositive, ?_⟩
    intro returned
    rcases (boundedRandom_eq_some_iff isPositive).mp returned with ⟨n, _, _, rfl⟩
    exact valueOf_lt isPositive _
  · intro k below
    have same : {x | Accepts range x ∧ valueOf range x = k} =
          {x : UInt64 | 2 ^ 64 % range.toNat ≤
              x.toNat * range.toNat % 2 ^ 64 ∧
            x.toNat * range.toNat / 2 ^ 64 = k.toNat} := by
      ext x
      rw [Set.mem_ofPred_eq, Set.mem_ofPred_eq, accepts_iff isPositive,
        ← UInt64.toNat_inj, toNat_valueOf isPositive]
    rw [same, ncard_words fun x => 2 ^ 64 % range.toNat ≤
        x * range.toNat % 2 ^ 64 ∧ x * range.toNat / 2 ^ 64 = k.toNat]
    exact card_kept_of_value isPositive (UInt64.lt_iff_toNat_lt.mp below)
  · have same : {x | ¬ Accepts range x} =
          {x : UInt64 | ¬ 2 ^ 64 % range.toNat ≤
            x.toNat * range.toNat % 2 ^ 64} := by
      ext x
      rw [Set.mem_ofPred_eq, Set.mem_ofPred_eq, accepts_iff isPositive]
    rw [same, ncard_words fun x => ¬ 2 ^ 64 % range.toNat ≤ x * range.toNat % 2 ^ 64]
    exact card_rejected isPositive

/-- One word is rejected for three values. -/
theorem boundedRandom_unbiased_three : (1 : UInt64) ≤ 3 ∧ {x | ¬ Accepts 3 x}.ncard = 1 :=
  have some : (1 : UInt64) ≤ 3 := by decide
  ⟨some, (boundedRandom_unbiased some).2.2⟩

end PortableTpcc
