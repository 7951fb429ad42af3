import PortableTpcc.FastRng
import PortableTpcc.LinearOrbits
import Mathlib.Data.Nat.Bitwise
import Mathlib.Tactic.NormNum.Prime

namespace PortableTpcc

/-!
# The period of the generator

The states are words, and the step of the generator respects their exclusive
or.  So its far iterates can be computed: the table below writes the iterates of
the state 1 at the powers of two as combinations of its first 64 iterates.  The
state 1 returns after `2 ^ 64 - 1` steps and not after a part of them, so that
its orbit holds all states other than zero.
-/

open Function

/-- The step of `Next`, on the number of the state. -/
def xorshift (x : Nat) : Nat :=
  let x := x ^^^ (x >>> 12)
  let x := x ^^^ ((x <<< 25) % 2 ^ 64)
  x ^^^ (x >>> 27)

theorem toNat_next_state (rng : TFastRng) : rng.next.2.state.toNat = xorshift rng.state.toNat := by
  simp only [TFastRng.next, xorshift, UInt64.toNat_xor,
    UInt64.toNat_shiftRight, UInt64.toNat_shiftLeft]
  rfl

theorem toNat_after_state (rng : TFastRng) (n : Nat) :
    (rng.after n).state.toNat = xorshift^[n] rng.state.toNat := by
  induction n generalizing rng with
  | zero =>
    rfl
  | succ n ih =>
    rw [TFastRng.after_succ, ih, toNat_next_state, iterate_succ_apply]

theorem xor_shiftRight_xor (x y count : Nat) :
    (x ^^^ y) ^^^ ((x ^^^ y) >>> count) = (x ^^^ (x >>> count)) ^^^ (y ^^^ (y >>> count)) := by
  rw [Nat.shiftRight_xor_distrib]
  ac_rfl

theorem xor_shiftLeft_xor (x y count : Nat) :
    (x ^^^ y) ^^^ (((x ^^^ y) <<< count) % 2 ^ 64) = (x ^^^ ((x <<< count) % 2 ^ 64)) ^^^
      (y ^^^ ((y <<< count) % 2 ^ 64)) := by
  rw [Nat.shiftLeft_xor_distrib, Nat.xor_mod_two_pow]
  ac_rfl

theorem xorshift_xor (x y : Nat) : xorshift (x ^^^ y) = xorshift x ^^^ xorshift y := by
  rw [xorshift, xor_shiftRight_xor x y, xor_shiftLeft_xor, xor_shiftRight_xor]
  rfl

section

variable {x : Nat}

theorem xor_shiftRight_mem (member : x ∈ Finset.Ico 1 (2 ^ 64)) {count : Nat}
    (positive : 0 < count) : x ^^^ (x >>> count) ∈ Finset.Ico 1 (2 ^ 64) := by
  rcases Finset.mem_Ico.mp member with ⟨someBit, isWord⟩
  have smaller : x >>> count < x := by
    rw [Nat.shiftRight_eq_div_pow]
    exact Nat.div_lt_self someBit (Nat.one_lt_two_pow positive.ne')
  have someLeft : x ^^^ (x >>> count) ≠ 0 := by
    rw [ne_eq, Nat.xor_eq_zero_iff]
    omega
  exact Finset.mem_Ico.mpr ⟨by omega, Nat.xor_lt_two_pow isWord (by omega)⟩

theorem xor_shiftLeft_mem (member : x ∈ Finset.Ico 1 (2 ^ 64)) :
    x ^^^ ((x <<< 25) % 2 ^ 64) ∈ Finset.Ico 1 (2 ^ 64) := by
  rcases Finset.mem_Ico.mp member with ⟨someBit, isWord⟩
  have different : x ≠ (x <<< 25) % 2 ^ 64 := by
    intro same
    have split := Nat.div_add_mod (x <<< 25) (2 ^ 64)
    rw [← same, Nat.shiftLeft_eq] at split
    have divides : 2 ^ 64 ∣ x * (2 ^ 25 - 1) := ⟨x * 2 ^ 25 / 2 ^ 64, by omega⟩
    have coprime : Nat.Coprime (2 ^ 64) (2 ^ 25 - 1) := Nat.Coprime.pow_left 64 (by decide)
    exact absurd (Nat.le_of_dvd someBit (coprime.dvd_of_dvd_mul_right divides)) (by omega)
  have someLeft : x ^^^ ((x <<< 25) % 2 ^ 64) ≠ 0 := by
    rw [ne_eq, Nat.xor_eq_zero_iff]
    exact different
  exact Finset.mem_Ico.mpr ⟨by omega, Nat.xor_lt_two_pow isWord (Nat.mod_lt _ (by decide))⟩

/-- A state other than zero is followed by another one. -/
theorem xorshift_mem (member : x ∈ Finset.Ico 1 (2 ^ 64)) : xorshift x ∈ Finset.Ico 1 (2 ^ 64) := by
  unfold xorshift
  apply xor_shiftRight_mem _ (by decide)
  apply xor_shiftLeft_mem
  exact xor_shiftRight_mem member (by decide)

end

/-- The iterates of 1 at the powers of two, as combinations of the first. -/
def strides : List Nat :=
  [0x2, 0x4, 0x10, 0x100, 0x10000, 0x100000000, 0x18b73aa7cc9b71,
   0x4b30f6956e8b3256, 0xaf6e32a27cdf42d9, 0x6800eb8b3ff83d31,
   0x84976180596828b8, 0x1d1e2570b912262c, 0x6ed0fe952739aa0d,
   0x4acdf14403e6d782, 0x15650bbce2910ab8, 0x253e01174149d9b,
   0x4cfb4504c59ebb5d, 0x90dce4ca7bbdf58d, 0x15416e1385f6f3b1,
   0x1fce93c3860ad3fa, 0x107d2c1d15d7abdb, 0x45e2ed918ddd3d94,
   0xe6fa46c60f3934d7, 0x12773977810e94bd, 0x11e9b367213b8164,
   0x43dc15f14f465026, 0x4656f082e9776c6d, 0xd9de1fb6a561bc1c,
   0x66098b3e95a3ebd3, 0x54e90e46c611f339, 0x9bd35c9705846c28,
   0x7cfd4c4bbd3c4012, 0xbbd5e1c3a495e3e0, 0x27af256777088fe9,
   0x872587b95244ac59, 0x175eebe371f53016, 0xd5696ca0deb441d8,
   0x772b7bb0931105fe, 0x44e2567a9c4ffbfe, 0xd6ca82b623c7ff33,
   0x6bab9de996e640de, 0x33d3b09065b4f533, 0x3d4c8732c0b9cca3,
   0x534b85c21cf3d3fa, 0x18c122842cdb910f, 0xc412395005a239c0,
   0xae216b579b9f3d14, 0xaa4cac6db4cec803, 0x76c6208c83ee6437,
   0x402d93f8f4129623, 0x78dbb37280d93ebc, 0x370c5f1dcd9c3308,
   0x2c015a523a9e25d7, 0xfb0d5ac4f3f101fc, 0x9038964c51f205bb,
   0x477e817727dffbc6, 0xf1f41fc8e34f5315, 0xb4cfbd6459cfe2b8,
   0xf30233985a915308, 0xe973b90b65efb2fb, 0x1127892b7fb7b188,
   0x6591fd5014fe68f9, 0xb9853182be3cf22f, 0x7088bb1b4483478b]

/-- The prime factors of `2 ^ 64 - 1`. -/
def periodFactors : List Nat :=
  [3, 5, 17, 257, 641, 65537, 6700417]

theorem prod_periodFactors : periodFactors.prod = 2 ^ 64 - 1 := by
  decide

theorem prime_of_mem_periodFactors : ∀ q ∈ periodFactors, q.Prime := by
  simp only [periodFactors, List.forall_mem_cons]
  norm_num

theorem strides_valid : stridesFrom xorshift Nat.xor 0 64 1 (xorshift^[1] 1) strides = true := by
  decide +kernel

theorem leaps_of_one : leap xorshift Nat.xor 0 64 strides (2 ^ 64 - 1) 1 = 1 ∧ ∀ q ∈ periodFactors,
      leap xorshift Nat.xor 0 64 strides ((2 ^ 64 - 1) / q) 1 ≠ 1 := by
  decide +kernel

/-- The states other than zero are one orbit. -/
theorem minimalPeriod_xorshift {x : Nat} (member : x ∈ Finset.Ico 1 (2 ^ 64)) :
    minimalPeriod xorshift x = (Finset.Ico 1 (2 ^ 64)).card := by
  have isLeap {count : Nat} (small : count < 2 ^ 64) :
      leap xorshift Nat.xor 0 64 strides count 1 = xorshift^[count] 1 := by
    have leapt : leap xorshift Nat.xor 0 64 strides count (xorshift^[0] 1) =
        xorshift^[0 + 1 * count] 1 :=
      leap_eq_iterate xorshift_xor rfl strides_valid small 0
    rw [Nat.zero_add, Nat.one_mul] at leapt
    exact leapt
  have ofOne : minimalPeriod xorshift 1 = (Finset.Ico 1 (2 ^ 64)).card := by
    rw [Nat.card_Ico, ← prod_periodFactors]
    apply minimalPeriod_eq_prod prime_of_mem_periodFactors
    · rw [prod_periodFactors, ← isLeap (by decide)]
      exact leaps_of_one.1
    · intro q isFactor
      rw [prod_periodFactors, ← isLeap]
      · exact leaps_of_one.2 q isFactor
      · exact (Nat.div_le_self _ q).trans_lt (by decide)
  exact minimalPeriod_of_mem (fun _ => xorshift_mem)
    (Finset.mem_Ico.mpr ⟨le_rfl, by decide⟩) ofOne member

section

variable {rng : TFastRng}

theorem TFastRng.eq_of_state {first second : TFastRng} (same : first.state = second.state) :
    first = second := by
  cases first
  cases second
  exact congrArg TFastRng.mk same

theorem word_mem {x : UInt64} (nonzero : x ≠ 0) : x.toNat ∈ Finset.Ico 1 (2 ^ 64) := by
  have someBit : x.toNat ≠ 0 := fun isZero => nonzero (UInt64.toNat_inj.mp isZero)
  exact Finset.mem_Ico.mpr ⟨by omega, x.toNat_lt⟩

theorem after_state_ne_zero (nonzero : rng.state ≠ 0) (n : Nat) : (rng.after n).state ≠ 0 := by
  intro isZero
  have member := iterate_mem (fun _ => xorshift_mem) (word_mem nonzero) n
  rw [← toNat_after_state, isZero] at member
  exact absurd (Finset.mem_Ico.mp member).1 (by decide)

theorem existsUnique_after (nonzero : rng.state ≠ 0) {state : UInt64} (isState : state ≠ 0) :
    ∃! n, n < 2 ^ 64 - 1 ∧ (rng.after n).state = state := by
  have same (n : Nat) : (rng.after n).state = state ↔
      xorshift^[n] rng.state.toNat = state.toNat := by
    rw [← toNat_after_state, UInt64.toNat_inj]
  have visited :=
    existsUnique_iterate (fun _ => xorshift_mem) (word_mem nonzero)
      (minimalPeriod_xorshift (word_mem nonzero)) (word_mem isState)
  rw [Nat.card_Ico] at visited
  simpa only [same] using visited

theorem after_period (nonzero : rng.state ≠ 0) : rng.after (2 ^ 64 - 1) = rng := by
  have period := minimalPeriod_xorshift (word_mem nonzero)
  rw [Nat.card_Ico] at period
  have returns : xorshift^[2 ^ 64 - 1] rng.state.toNat = rng.state.toNat := by
    rw [← period]
    exact iterate_minimalPeriod
  rw [← toNat_after_state, UInt64.toNat_inj] at returns
  exact TFastRng.eq_of_state returns

theorem accepts_largest {range : UInt64} (positive : 0 < range.toNat) :
    Accepts range 0xFFFFFFFFFFFFFFFF := by
  have small := range.toNat_lt
  rw [accepts_iff positive]
  have largest : (0xFFFFFFFFFFFFFFFF : UInt64).toNat = 2 ^ 64 - 1 := rfl
  have product : (2 ^ 64 - 1) * range.toNat =
      2 ^ 64 - range.toNat + 2 ^ 64 * (range.toNat - 1) := by
    omega
  have low : (2 ^ 64 - 1) * range.toNat % 2 ^ 64 = 2 ^ 64 - range.toNat := by
    rw [product, Nat.add_mul_mod_self_left]
    exact Nat.mod_eq_of_lt (by omega)
  have split := Nat.div_add_mod (2 ^ 64) range.toNat
  have someTimes : 1 ≤ 2 ^ 64 / range.toNat := (Nat.le_div_iff_mul_le positive).mpr (by omega)
  have once : range.toNat * 1 ≤ range.toNat * (2 ^ 64 / range.toNat) :=
    Nat.mul_le_mul_left _ someTimes
  rw [largest, low]
  omega

/-- A draw is read off the state that it leaves. -/
theorem TFastRng.draw_eq (rng : TFastRng) (n : Nat) :
    rng.draw n = (rng.after (n + 1)).state * 0x2545F4914F6CDD1D := by
  rw [TFastRng.draw, TFastRng.after, TFastRng.after, iterate_succ_apply']
  rfl

theorem exists_draw (nonzero : rng.state ≠ 0) {word : UInt64} (isWord : word ≠ 0) :
    ∃ n, rng.draw n = word := by
  -- The factor that undoes the multiplication of `Next`.
  let state := word * 0x59071D96D81ECD35
  have undone : state * 0x2545F4914F6CDD1D = word := by
    rw [UInt64.mul_assoc]
    exact UInt64.mul_one word
  have isState : state ≠ 0 := by
    intro isZero
    rw [isZero, UInt64.zero_mul] at undone
    exact isWord undone.symm
  rcases (existsUnique_after (after_state_ne_zero nonzero 1) isState).exists with ⟨n, _, reached⟩
  refine ⟨n, ?_⟩
  rw [TFastRng.draw_eq, TFastRng.after_succ]
  rw [TFastRng.after_succ, TFastRng.after_zero] at reached
  rw [reached, undone]

theorem exists_firstAccepted (nonzero : rng.state ≠ 0) {range : UInt64}
    (positive : 0 < range.toNat) : ∃ n, FirstAccepted range rng n := by
  have someAccepted : ∃ n, Accepts range (rng.draw n) := by
    have isWord : (0xFFFFFFFFFFFFFFFF : UInt64) ≠ 0 := by decide
    rcases exists_draw nonzero isWord with ⟨n, isLargest⟩
    exact ⟨n, isLargest ▸ accepts_largest positive⟩
  exact ⟨Nat.find someAccepted, Nat.find_spec someAccepted, fun _ => Nat.find_min someAccepted⟩

theorem boundedRandom_returns (nonzero : rng.state ≠ 0) (range : UInt64) :
    ∃ fuel result, boundedRandom fuel rng range = some result := by
  by_cases isZero : range = 0
  · exact ⟨0, (0, rng), by rw [boundedRandom, if_pos isZero]⟩
  · have positive : 0 < range.toNat := by
      rw [Nat.pos_iff_ne_zero]
      exact fun none => isZero (UInt64.toNat_inj.mp none)
    rcases exists_firstAccepted nonzero positive with ⟨n, first⟩
    exact ⟨_, _, (boundedRandom_eq_some_iff positive).mpr ⟨_, le_rfl, first, rfl⟩⟩

end

theorem ofSeed_state_ne_zero (seed : UInt64) : (TFastRng.ofSeed seed).state ≠ 0 := by
  unfold TFastRng.ofSeed
  split
  · assumption
  · decide

/--
The state is never zero, every other state comes once in `2 ^ 64 - 1` steps, and
then the states repeat; a bounded number is returned at any time.
-/
theorem fastRng_full_period (seed : UInt64) :
    (∀ n, ((TFastRng.ofSeed seed).after n).state ≠ 0) ∧ (∀ state ≠ 0, ∃! n, n < 2 ^ 64 - 1 ∧
      ((TFastRng.ofSeed seed).after n).state = state) ∧
      (TFastRng.ofSeed seed).after (2 ^ 64 - 1) = TFastRng.ofSeed seed ∧ ∀ n range, ∃ fuel result,
      boundedRandom fuel ((TFastRng.ofSeed seed).after n) range = some result := by
  have nonzero := ofSeed_state_ne_zero seed
  refine ⟨after_state_ne_zero nonzero, ?_, after_period nonzero, ?_⟩
  · intro state isState
    exact existsUnique_after nonzero isState
  · intro n range
    exact boundedRandom_returns (after_state_ne_zero nonzero n) range

end PortableTpcc
