import Mathlib.Algebra.Order.Floor.Ring
import Mathlib.Data.Int.Log
import Mathlib.Data.Rat.Floor
import Mathlib.Data.Nat.Factorization.Basic
import Mathlib.Tactic.Linarith
import Mathlib.Tactic.Positivity
import Mathlib.Tactic.Ring

namespace PortableTpcc

namespace Binary64

/-!
# Numbers of 53 bits

Rounding to a binary floating-point number with a significand of 53 bits, ties to the even one, and
the shortest decimal that is rounded to such a number.  Numbers too large for the format are not
treated apart: the exponent has no upper bound.
-/

/-- The nearest integer, of two the even one. -/
def roundHalfEven (x : ℚ) : ℤ :=
  if x - ⌊x⌋ < 1 / 2 ∨ (x - ⌊x⌋ = 1 / 2 ∧ 2 ∣ ⌊x⌋) then ⌊x⌋ else ⌊x⌋ + 1

/-- The exponent of the last bit of a number around `x`. -/
def lastBit (x : ℚ) : ℤ :=
  max (Int.log 2 x) (-1022) - 52

/-- Rounding of a number that is not negative. -/
def roundAbs (x : ℚ) : ℚ :=
  roundHalfEven (x / 2 ^ lastBit x) * 2 ^ lastBit x

/-- Round to nearest, ties to even. -/
def round (x : ℚ) : ℚ :=
  if x < 0 then -roundAbs (-x) else roundAbs x

theorem roundHalfEven_intCast (z : ℤ) : roundHalfEven z = z := by
  simp [roundHalfEven]

theorem floor_le_roundHalfEven (x : ℚ) : ⌊x⌋ ≤ roundHalfEven x := by
  unfold roundHalfEven
  split <;> omega

theorem roundHalfEven_le_floor_add_one (x : ℚ) : roundHalfEven x ≤ ⌊x⌋ + 1 := by
  unfold roundHalfEven
  split <;> omega

/-- Rounding keeps the order. -/
theorem roundHalfEven_mono {x y : ℚ} (le : x ≤ y) : roundHalfEven x ≤ roundHalfEven y := by
  rcases (Int.floor_le_floor le).lt_or_eq with less | same
  · exact (roundHalfEven_le_floor_add_one x).trans
      ((Int.add_one_le_of_lt less).trans (floor_le_roundHalfEven y))
  · unfold roundHalfEven
    rw [← same]
    by_cases down : y - ⌊x⌋ < 1 / 2 ∨ (y - ⌊x⌋ = 1 / 2 ∧ 2 ∣ ⌊x⌋)
    · have alsoDown : x - ⌊x⌋ < 1 / 2 ∨ (x - ⌊x⌋ = 1 / 2 ∧ 2 ∣ ⌊x⌋) := by
        rcases down with below | ⟨half, even⟩
        · exact .inl (by linarith)
        · rcases (show x - ⌊x⌋ ≤ 1 / 2 by linarith).lt_or_eq with below | atHalf
          · exact .inl below
          · exact .inr ⟨atHalf, even⟩
      rw [if_pos down, if_pos alsoDown]
    · rw [if_neg down]
      split <;> omega

/-- The error of rounding to an integer. -/
theorem abs_roundHalfEven_sub_le (x : ℚ) : |roundHalfEven x - x| ≤ 1 / 2 := by
  have low := Int.floor_le x
  have high := Int.lt_floor_add_one x
  unfold roundHalfEven
  split
  · rename_i down
    have near : x - ⌊x⌋ ≤ 1 / 2 := down.elim le_of_lt fun half => half.1.le
    rw [abs_le]
    constructor <;> linarith
  · rename_i up
    have far : 1 / 2 ≤ x - ⌊x⌋ := not_lt.mp fun below => up (.inl below)
    push_cast
    rw [abs_le]
    constructor <;> linarith

section

variable {x y : ℚ}

theorem lt_two_zpow_lastBit (x : ℚ) : x < 2 ^ 53 * 2 ^ lastBit x := by
  have below := Int.lt_zpow_succ_log_self (b := 2) (by decide) x
  have exponent : Int.log 2 x + 1 ≤ 53 + lastBit x := by
    unfold lastBit
    omega
  calc x < (2 : ℚ) ^ (Int.log 2 x + 1) := by exact_mod_cast below
    _ ≤ 2 ^ (53 + lastBit x) := zpow_le_zpow_right₀ (by norm_num) exponent
    _ = 2 ^ 53 * 2 ^ lastBit x := by rw [zpow_add₀ (by norm_num)]; norm_num

theorem two_zpow_lastBit_le (pos : 0 < x) (normal : -1022 ≤ Int.log 2 x) :
    2 ^ 52 * 2 ^ lastBit x ≤ x := by
  have above := Int.zpow_log_le_self (b := 2) (by decide) pos
  have exponent : Int.log 2 x = 52 + lastBit x := by
    unfold lastBit
    omega
  rw [exponent, Nat.cast_ofNat, zpow_add₀ (by norm_num)] at above
  exact_mod_cast above

theorem two_zpow_pos (e : ℤ) : (0 : ℚ) < 2 ^ e :=
  zpow_pos (by norm_num) e

/-- A number that ends with its last bit is not changed. -/
theorem roundAbs_of_multiple {z : ℤ} (multiple : x = z * 2 ^ lastBit x) : roundAbs x = x := by
  have scaled : x / 2 ^ lastBit x = z := by
    rw [div_eq_iff (two_zpow_pos _).ne', ← multiple]
  rw [roundAbs, scaled, roundHalfEven_intCast, ← multiple]

theorem roundAbs_nonneg (nonneg : 0 ≤ x) : 0 ≤ roundAbs x := by
  have scaled : 0 ≤ x / 2 ^ lastBit x := div_nonneg nonneg (two_zpow_pos _).le
  have rounded := roundHalfEven_mono (by exact_mod_cast scaled : ((0 : ℤ) : ℚ) ≤ x / 2 ^ lastBit x)
  rw [roundHalfEven_intCast] at rounded
  exact mul_nonneg (by exact_mod_cast rounded) (two_zpow_pos _).le

theorem roundAbs_le_of_le {n : ℤ} (below : x ≤ n * 2 ^ lastBit x) :
    roundAbs x ≤ n * 2 ^ lastBit x := by
  have rounded := roundHalfEven_mono ((div_le_iff₀ (two_zpow_pos _)).mpr below)
  rw [roundHalfEven_intCast] at rounded
  exact mul_le_mul_of_nonneg_right (by exact_mod_cast rounded) (two_zpow_pos _).le

theorem le_roundAbs_of_le {n : ℤ} (above : n * 2 ^ lastBit x ≤ x) :
    n * 2 ^ lastBit x ≤ roundAbs x := by
  have rounded := roundHalfEven_mono ((le_div_iff₀ (two_zpow_pos _)).mpr above)
  rw [roundHalfEven_intCast] at rounded
  exact mul_le_mul_of_nonneg_right (by exact_mod_cast rounded) (two_zpow_pos _).le

/-- With equal spacing the integers decide; otherwise a power of two lies between. -/
theorem roundAbs_mono (nonneg : 0 ≤ x) (le : x ≤ y) : roundAbs x ≤ roundAbs y := by
  rcases nonneg.eq_or_lt with rfl | pos
  · rw [roundAbs_of_multiple (z := 0) (by simp)]
    exact roundAbs_nonneg le
  have logs : Int.log 2 x ≤ Int.log 2 y := Int.log_mono_right pos le
  rcases (show lastBit x ≤ lastBit y by unfold lastBit; omega).eq_or_lt with same | less
  · unfold roundAbs
    rw [same]
    have scaled : x / 2 ^ lastBit y ≤ y / 2 ^ lastBit y :=
      div_le_div_of_nonneg_right le (two_zpow_pos _).le
    exact mul_le_mul_of_nonneg_right (by exact_mod_cast roundHalfEven_mono scaled)
      (two_zpow_pos _).le
  · have normal : -1022 ≤ Int.log 2 y := by
      unfold lastBit at less
      omega
    calc roundAbs x ≤ ((2 ^ 53 : ℤ) : ℚ) * 2 ^ lastBit x :=
          roundAbs_le_of_le (by exact_mod_cast (lt_two_zpow_lastBit x).le)
      _ = ((2 ^ 52 : ℤ) : ℚ) * 2 ^ (lastBit x + 1) := by
          rw [zpow_add₀ (by norm_num)]
          push_cast
          ring
      _ ≤ ((2 ^ 52 : ℤ) : ℚ) * 2 ^ lastBit y := by
          gcongr
          · norm_num
          · omega
      _ ≤ roundAbs y :=
          le_roundAbs_of_le (by exact_mod_cast two_zpow_lastBit_le (pos.trans_le le) normal)

end

/-- Rounding to 53 bits keeps the order. -/
theorem round_mono : Monotone round := by
  intro x y le
  unfold round
  split
  · split
    · exact neg_le_neg (roundAbs_mono (by linarith) (by linarith))
    · have left := roundAbs_nonneg (x := -x) (by linarith)
      have right := roundAbs_nonneg (x := y) (by linarith)
      linarith
  · rw [if_neg (by linarith)]
    exact roundAbs_mono (by linarith) le

theorem round_neg (x : ℚ) : round (-x) = -round x := by
  unfold round
  rcases lt_trichotomy x 0 with negative | rfl | positive
  · rw [if_pos negative, if_neg (by linarith), neg_neg]
  · have zero : roundAbs 0 = 0 := roundAbs_of_multiple (z := 0) (by simp)
    simp [zero]
  · rw [if_pos (by linarith : -x < 0), if_neg (by linarith), neg_neg]

/-- Half a unit in the last place. -/
theorem abs_roundAbs_sub_le {x : ℚ} (large : 1 ≤ x) : |roundAbs x - x| ≤ x / 2 ^ 53 := by
  have normal : 0 ≤ Int.log 2 x := by
    rw [← Int.zpow_le_iff_le_log (by decide) (by linarith)]
    simpa using large
  have unit := two_zpow_lastBit_le (by linarith) (by omega : -1022 ≤ Int.log 2 x)
  have error := abs_roundHalfEven_sub_le (x / 2 ^ lastBit x)
  have scaled : roundAbs x - x =
      (roundHalfEven (x / 2 ^ lastBit x) - x / 2 ^ lastBit x) * 2 ^ lastBit x := by
    rw [sub_mul, div_mul_cancel₀ _ (two_zpow_pos _).ne', roundAbs]
  rw [scaled, abs_mul, abs_of_pos (two_zpow_pos _), le_div_iff₀ (by norm_num)]
  nlinarith [two_zpow_pos (lastBit x)]

/-- The relative error of rounding. -/
theorem abs_round_sub_le {x : ℚ} (large : 1 ≤ |x|) : |round x - x| ≤ |x| / 2 ^ 53 := by
  unfold round
  split
  · rename_i negative
    rw [abs_of_neg negative] at large ⊢
    rw [show -roundAbs (-x) - x = -(roundAbs (-x) - -x) by ring, abs_neg]
    exact abs_roundAbs_sub_le large
  · rename_i nonneg
    rw [abs_of_nonneg (not_lt.mp nonneg)] at large ⊢
    exact abs_roundAbs_sub_le large

/-- A natural number of the format: at most 53 bits and a power of two. -/
def Fits (n : ℕ) : Prop :=
  ∃ significand exponent, n = significand * 2 ^ exponent ∧ significand < 2 ^ 53

theorem round_natCast (n : ℕ) : round n = roundAbs n := by
  rw [round, if_neg (not_lt.mpr n.cast_nonneg)]

/-- A number of 53 bits is not changed. -/
theorem round_of_fits {n : ℕ} (fits : Fits n) : round n = n := by
  obtain ⟨significand, exponent, rfl, small⟩ := fits
  rw [round_natCast]
  rcases Nat.eq_zero_or_pos significand with rfl | pos
  · simpa using roundAbs_of_multiple (x := 0) (z := 0) (by simp)
  have logs : Int.log 2 ((significand * 2 ^ exponent : ℕ) : ℚ) < 53 + exponent := by
    rw [← Int.lt_zpow_iff_log_lt (by decide) (by positivity)]
    have bound : significand * 2 ^ exponent < 2 ^ 53 * 2 ^ exponent := by gcongr
    rw [← pow_add] at bound
    exact_mod_cast bound
  have least : 0 ≤ Int.log 2 ((significand * 2 ^ exponent : ℕ) : ℚ) := by
    rw [← Int.zpow_le_iff_le_log (by decide) (by positivity), zpow_zero, Nat.one_le_cast]
    exact Nat.mul_pos pos (by positivity)
  obtain ⟨k, isBit⟩ : ∃ k : ℕ, (exponent : ℤ) = k + lastBit (significand * 2 ^ exponent : ℕ) := by
    refine ⟨(exponent - lastBit (significand * 2 ^ exponent : ℕ)).toNat, ?_⟩
    unfold lastBit
    omega
  refine roundAbs_of_multiple (z := significand * 2 ^ k) ?_
  have power : (2 : ℚ) ^ exponent = 2 ^ k * 2 ^ lastBit ((significand * 2 ^ exponent : ℕ) : ℚ) := by
    rw [← zpow_natCast, isBit, zpow_add₀ (by norm_num), zpow_natCast]
  push_cast at power ⊢
  rw [mul_assoc, ← power]

theorem fits_of_le {significand : ℕ} (small : significand ≤ 2 ^ 53) (exponent : ℕ) :
    Fits (significand * 2 ^ exponent) := by
  rcases small.lt_or_eq with less | rfl
  · exact ⟨significand, exponent, rfl, less⟩
  · exact ⟨1, 53 + exponent, by rw [one_mul, pow_add], by norm_num⟩

theorem exists_roundAbs_eq {x : ℚ} {e : ℕ} (nonneg : 0 ≤ x) (isBit : lastBit x = e) :
    ∃ significand : ℕ, significand ≤ 2 ^ 53 ∧ roundAbs x = (significand * 2 ^ e : ℕ) := by
  have below : x / 2 ^ lastBit x ≤ ((2 ^ 53 : ℤ) : ℚ) := by
    rw [div_le_iff₀ (two_zpow_pos _)]
    exact_mod_cast (lt_two_zpow_lastBit x).le
  have above : ((0 : ℤ) : ℚ) ≤ x / 2 ^ lastBit x := by
    simpa using div_nonneg nonneg (two_zpow_pos _).le
  have most := roundHalfEven_mono below
  have least := roundHalfEven_mono above
  rw [roundHalfEven_intCast] at most least
  obtain ⟨significand, isSignificand⟩ := Int.eq_ofNat_of_zero_le least
  refine ⟨significand, by omega, ?_⟩
  rw [roundAbs, isSignificand, isBit]
  push_cast
  rw [zpow_natCast]

/-- What a number is rounded to is in the format. -/
theorem fits_of_round_eq {x : ℚ} {n : ℕ} (isRounded : round x = n) : Fits n := by
  unfold round at isRounded
  split at isRounded
  · rename_i negative
    have least := roundAbs_nonneg (x := -x) (by linarith)
    have zero : (n : ℚ) = 0 := le_antisymm (by linarith) n.cast_nonneg
    exact ⟨0, 0, by simpa using zero, by norm_num⟩
  rename_i nonneg
  rcases le_or_gt 0 (lastBit x) with integral | fractional
  · obtain ⟨e, isBit⟩ := Int.eq_ofNat_of_zero_le integral
    obtain ⟨significand, small, isProduct⟩ := exists_roundAbs_eq (not_lt.mp nonneg) isBit
    obtain rfl : n = significand * 2 ^ e := Nat.cast_injective (isRounded.symm.trans isProduct)
    exact fits_of_le small e
  · have unit : (2 : ℚ) ^ lastBit x ≤ 1 := zpow_le_one_of_nonpos₀ (by norm_num) fractional.le
    have bound := roundAbs_le_of_le (n := 2 ^ 53) (by exact_mod_cast (lt_two_zpow_lastBit x).le)
    have small : (n : ℚ) ≤ (2 ^ 53 : ℕ) := by
      rw [isRounded] at bound
      push_cast at bound ⊢
      linarith
    simpa using fits_of_le (Nat.cast_le.mp small) 0

theorem fits_of_le_two_pow {n : ℕ} (small : n ≤ 2 ^ 53) : Fits n := by
  simpa using fits_of_le small 0

theorem round_intCast_of_le {n : ℤ} (small : |n| ≤ 2 ^ 53) : round n = n := by
  obtain ⟨k, rfl | rfl⟩ := n.eq_nat_or_neg
  · rw [Nat.abs_cast] at small
    simpa using round_of_fits (fits_of_le_two_pow (by exact_mod_cast small))
  · rw [abs_neg, Nat.abs_cast] at small
    simpa [round_neg] using round_of_fits (fits_of_le_two_pow (by exact_mod_cast small))

/-! ## Shortest decimals -/

/-- The shortest decimal with at most `p` zeros at its end that is rounded to `v`, of two the one
nearer to `v`, and of two as near the one with an even last digit. -/
def shortestFrom (v : ℕ) : ℕ → ℕ
  | 0 => v
  | p + 1 =>
    let low := v / 10 ^ (p + 1) * 10 ^ (p + 1)
    let high := low + 10 ^ (p + 1)
    if round low = v ∧
        (round high ≠ v ∨ v - low < high - v ∨ (v - low = high - v ∧ 2 ∣ v / 10 ^ (p + 1))) then
      low
    else if round high = v then
      high
    else
      shortestFrom v p

/-- The shortest decimal that is rounded to `v`. -/
def shortest (v : ℕ) : ℕ :=
  shortestFrom v (Nat.log 10 v + 1)

/-- Among the decimals that are rounded to `v`, `k` is preferred to `x`, a multiple of `10 ^ p`. -/
def Preferred (v k p x : ℕ) : Prop :=
  10 ^ p ∣ k ∧ (10 ^ (p + 1) ∣ k ∨ ((k : ℤ) - v).natAbs < ((x : ℤ) - v).natAbs ∨
    (((k : ℤ) - v).natAbs = ((x : ℤ) - v).natAbs ∧ (x = k ∨ 2 ∣ k / 10 ^ p)))

/-- No decimal that is rounded to `v` has more zeros at its end than `k`, and of those with as many
none is nearer to `v`. -/
def IsShortest (v k : ℕ) : Prop :=
  round k = v ∧ ∀ p x : ℕ, 10 ^ p ∣ x → round x = v → Preferred v k p x

section

variable {v : ℕ}

/-- What lies between a number and what it is rounded to is rounded to the same. -/
theorem round_eq_of_between (fits : Fits v) {x y : ℕ} (isRounded : round x = v)
    (between : x ≤ y ∧ y ≤ v ∨ v ≤ y ∧ y ≤ x) : round y = v := by
  have self := round_of_fits fits
  rcases between with ⟨above, below⟩ | ⟨above, below⟩
  · exact le_antisymm (self ▸ round_mono (Nat.cast_le.mpr below))
      (isRounded ▸ round_mono (Nat.cast_le.mpr above))
  · exact le_antisymm (isRounded ▸ round_mono (Nat.cast_le.mpr below))
      (self ▸ round_mono (Nat.cast_le.mpr above))

/-- A multiple is at most the greatest one up to `v` or at least the next one. -/
theorem multiple_le_or_ge {t x : ℕ} (multiple : t ∣ x) (v : ℕ) :
    x ≤ v / t * t ∨ v / t * t + t ≤ x := by
  obtain ⟨c, rfl⟩ := multiple
  rcases le_or_gt c (v / t) with below | above
  · exact .inl (by rw [mul_comm]; exact Nat.mul_le_mul_right t below)
  · exact .inr (by rw [mul_comm t c, ← Nat.succ_mul]; exact Nat.mul_le_mul_right t above)

/-- The induction is on the number of zeros that are still tried; nothing with more of them is
rounded to `v`. -/
theorem isShortest_shortestFrom (fits : Fits v) (p : ℕ)
    (longer : ∀ q x : ℕ, p < q → 10 ^ q ∣ x → round x ≠ v) : IsShortest v (shortestFrom v p) := by
  induction p with
  | zero =>
    refine ⟨round_of_fits fits, fun q x multiple isRounded => ?_⟩
    obtain rfl : q = 0 := by
      by_contra positive
      exact longer q x (Nat.pos_of_ne_zero positive) multiple isRounded
    refine ⟨by simp, .inr ?_⟩
    rw [shortestFrom]
    rcases eq_or_ne x v with rfl | other
    · exact .inr ⟨by simp, .inl rfl⟩
    · exact .inl (by omega)
  | succ p ih =>
    have positive : 0 < 10 ^ (p + 1) := by positivity
    have under : v / 10 ^ (p + 1) * 10 ^ (p + 1) ≤ v := Nat.div_mul_le_self _ _
    have beyond : v < v / 10 ^ (p + 1) * 10 ^ (p + 1) + 10 ^ (p + 1) := by
      rw [← Nat.succ_mul]
      exact Nat.lt_mul_of_div_lt (Nat.lt_succ_self _) positive
    have shorter : ∀ q x : ℕ, 10 ^ q ∣ x → round x = v → q ≤ p + 1 := fun q x multiple isRounded =>
      not_lt.mp fun more => longer q x more multiple isRounded
    rw [shortestFrom]
    split
    · rename_i choice
      obtain ⟨isRounded, nearest⟩ := choice
      refine ⟨isRounded, fun q x multiple isRounded' => ?_⟩
      rcases (shorter q x multiple isRounded').lt_or_eq with fewer | rfl
      · exact ⟨(pow_dvd_pow 10 fewer.le).mul_left _, .inl ((pow_dvd_pow 10 fewer).mul_left _)⟩
      · refine ⟨dvd_mul_left _ _, .inr ?_⟩
        rw [Nat.mul_div_cancel _ positive]
        rcases multiple_le_or_ge multiple v with below | above
        · omega
        · have alsoHigh := round_eq_of_between fits isRounded' (.inr ⟨beyond.le, above⟩)
          have near := nearest.resolve_left (not_not_intro alsoHigh)
          omega
    split
    · rename_i choice isRounded
      refine ⟨isRounded, fun q x multiple isRounded' => ?_⟩
      have multiple' : 10 ^ (p + 1) ∣ v / 10 ^ (p + 1) * 10 ^ (p + 1) + 10 ^ (p + 1) :=
        Dvd.intro_left _ (Nat.succ_mul _ _)
      rcases (shorter q x multiple isRounded').lt_or_eq with fewer | rfl
      · exact ⟨(pow_dvd_pow 10 fewer.le).trans multiple',
          .inl ((pow_dvd_pow 10 fewer).trans multiple')⟩
      · refine ⟨multiple', .inr ?_⟩
        rw [Nat.add_div_right _ positive, Nat.mul_div_cancel _ positive]
        rcases multiple_le_or_ge multiple v with below | above
        · have alsoLow := round_eq_of_between fits isRounded' (.inl ⟨below, under⟩)
          have far := not_and.mp choice alsoLow
          omega
        · omega
    · rename_i notLow notHigh
      refine ih fun q x more multiple isRounded => ?_
      obtain rfl : q = p + 1 := le_antisymm (shorter q x multiple isRounded) more
      rcases multiple_le_or_ge multiple v with below | above
      · exact notLow ⟨round_eq_of_between fits isRounded (.inl ⟨below, under⟩), .inl notHigh⟩
      · exact notHigh (round_eq_of_between fits isRounded (.inr ⟨beyond.le, above⟩))

theorem isShortest_shortest (fits : Fits v) : IsShortest v (shortest v) := by
  rcases Nat.eq_zero_or_pos v with rfl | positive
  · have zero : shortest 0 = 0 := by decide +kernel
    rw [zero]
    exact ⟨by decide +kernel, fun p x _ _ => ⟨dvd_zero _, .inl (dvd_zero _)⟩⟩
  refine isShortest_shortestFrom fits _ fun q x many multiple isRounded => ?_
  have nonzero : x ≠ 0 := by
    rintro rfl
    rw [round_of_fits (fits_of_le_two_pow (by omega))] at isRounded
    exact positive.ne (Nat.cast_injective isRounded)
  have least : (1 : ℚ) ≤ x := Nat.one_le_cast.mpr (Nat.one_le_iff_ne_zero.mpr nonzero)
  have near := abs_round_sub_le (x := x) (by rwa [Nat.abs_cast])
  rw [isRounded, Nat.abs_cast, abs_le] at near
  have twice : (x : ℚ) ≤ (2 * v : ℕ) := by
    push_cast
    linarith
  have digits : v < 10 ^ (Nat.log 10 v + 1) := Nat.lt_pow_succ_log_self (by norm_num) v
  have large : 10 * 10 ^ (Nat.log 10 v + 1) ≤ x := by
    rw [mul_comm, ← pow_succ]
    exact (Nat.pow_le_pow_right (by norm_num) many).trans (Nat.le_of_dvd (by omega) multiple)
  have bound := Nat.cast_le.mp twice
  omega

/-- Two that are as near and both even would have `v` itself between them. -/
theorem IsShortest.unique (fits : Fits v) {k l : ℕ} (first : IsShortest v k)
    (second : IsShortest v l) : k = l := by
  rcases Nat.eq_zero_or_pos k with rfl | positive
  · have divides := (second.2 l 0 (dvd_zero _) first.1).1
    exact (Nat.eq_zero_of_dvd_of_lt divides (Nat.lt_pow_self (by norm_num))).symm
  obtain ⟨p, a, notMultiple, isFirst⟩ :=
    Nat.exists_eq_pow_mul_and_not_dvd positive.ne' 10 (by norm_num)
  have highest : ¬ 10 ^ (p + 1) ∣ k := by
    rw [isFirst, pow_succ]
    exact fun divides => notMultiple (Nat.dvd_of_mul_dvd_mul_left (by positivity) divides)
  have nearer := (first.2 p l (second.2 p k ⟨a, isFirst⟩ first.1).1 second.1).2.resolve_left highest
  obtain ⟨⟨b, isSecond⟩, nearer'⟩ := second.2 p k ⟨a, isFirst⟩ first.1
  have highest' : ¬ 10 ^ (p + 1) ∣ l := fun divides =>
    highest (first.2 (p + 1) l divides second.1).1
  have nearer'' := nearer'.resolve_left highest'
  by_contra other
  have even : 2 ∣ a ∧ 2 ∣ b ∧ ((k : ℤ) - v).natAbs = ((l : ℤ) - v).natAbs := by
    rw [isFirst, Nat.mul_div_cancel_left _ (by positivity), ← isFirst] at nearer
    rw [isSecond, Nat.mul_div_cancel_left _ (by positivity), ← isSecond] at nearer''
    omega
  obtain ⟨⟨a', rfl⟩, ⟨b', rfl⟩, same⟩ := even
  have middle : v = 10 ^ p * (a' + b') := by
    have sum : 2 * v = k + l := by omega
    rw [isFirst, isSecond] at sum
    linarith
  have self := (first.2 p v ⟨_, middle⟩ (round_of_fits fits)).2.resolve_left highest
  omega

/-- The computed decimal is the only shortest one. -/
theorem shortest_eq_iff (fits : Fits v) (k : ℕ) : shortest v = k ↔ IsShortest v k :=
  ⟨fun same => same ▸ isShortest_shortest fits, fun isShortest =>
    IsShortest.unique fits (isShortest_shortest fits) isShortest⟩

/-- A bound that is its own shortest decimal is not crossed. -/
theorem le_shortest_iff {bound : ℕ} (fits : Fits v) (bound_fits : Fits bound)
    (isShortest : shortest bound = bound) : bound ≤ shortest v ↔ bound ≤ v := by
  have rounded := (isShortest_shortest fits).1
  have self := round_of_fits bound_fits
  constructor
  · intro above
    have le := round_mono (Nat.cast_le.mpr above : (bound : ℚ) ≤ shortest v)
    rw [self, rounded] at le
    exact Nat.cast_le.mp le
  · intro above
    by_contra below
    have le := round_mono (Nat.cast_le.mpr (not_le.mp below).le : (shortest v : ℚ) ≤ bound)
    rw [self, rounded] at le
    obtain rfl : v = bound := le_antisymm (Nat.cast_le.mp le) above
    exact below isShortest.ge

end

end Binary64

end PortableTpcc
