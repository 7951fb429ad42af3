import Mathlib.Algebra.BigOperators.Group.Finset.Piecewise
import Mathlib.Algebra.Order.BigOperators.Group.Finset
import Mathlib.Order.Lattice.Nat
import Mathlib.Tactic.Linarith

namespace PortableTpcc

/-!
# Summaries of samples

A summary of natural numbers keeps how many of them fell into each slot, how
many were out of range, and their number, sum, least and greatest.  Summaries
of two lists of samples add up to the summary of both, whatever the order; so
a summary may be taken in parts.

A summary is *valid* when its numbers could be those of samples, as far as that
can be told from the numbers.  Valid summaries are closed under addition, and
every summary of samples is valid.

Nothing here depends on how the slots are laid out, only that a greater value
never falls into an earlier slot.
-/

/-- A division of the numbers below a limit into slots, in order. -/
structure Slotting where
  limit : ℕ
  size : ℕ
  slot : ℕ → ℕ
  slot_lt : ∀ {value}, value < limit → slot value < size
  slot_mono : ∀ {low high}, low ≤ high → high < limit → slot low ≤ slot high

/-- What is kept of some samples. -/
@[ext]
structure Summary where
  buckets : ℕ → ℕ
  total : ℕ
  overflow : ℕ
  sum : ℕ
  least : WithTop ℕ
  greatest : ℕ

namespace Summary

instance : Zero Summary where
  zero :=
    { buckets := 0
      total := 0
      overflow := 0
      sum := 0
      least := ⊤
      greatest := 0 }

instance : Add Summary where
  add first second :=
    { buckets := first.buckets + second.buckets
      total := first.total + second.total
      overflow := first.overflow + second.overflow
      sum := first.sum + second.sum
      least := min first.least second.least
      greatest := max first.greatest second.greatest }

section

variable (first second : Summary)

@[simp] theorem zero_buckets : (0 : Summary).buckets = 0 :=
  rfl

@[simp] theorem zero_total : (0 : Summary).total = 0 :=
  rfl

@[simp] theorem zero_overflow : (0 : Summary).overflow = 0 :=
  rfl

@[simp] theorem zero_sum : (0 : Summary).sum = 0 :=
  rfl

@[simp] theorem zero_least : (0 : Summary).least = ⊤ :=
  rfl

@[simp] theorem zero_greatest : (0 : Summary).greatest = 0 :=
  rfl

@[simp] theorem add_buckets : (first + second).buckets = first.buckets + second.buckets :=
  rfl

@[simp] theorem add_total : (first + second).total = first.total + second.total :=
  rfl

@[simp] theorem add_overflow : (first + second).overflow = first.overflow + second.overflow :=
  rfl

@[simp] theorem add_sum : (first + second).sum = first.sum + second.sum :=
  rfl

@[simp] theorem add_least : (first + second).least = min first.least second.least :=
  rfl

@[simp] theorem add_greatest : (first + second).greatest = max first.greatest second.greatest :=
  rfl

end

/-- Summaries can be added in any order and grouping. -/
instance : AddCommMonoid Summary where
  add_assoc first second third := by
    ext <;> simp [add_assoc, min_assoc, max_assoc]
  zero_add summary := by
    ext <;> simp
  add_zero summary := by
    ext <;> simp
  add_comm first second := by
    ext <;> simp [add_comm, min_comm, max_comm]
  nsmul := nsmulRec

/-- The slots that are occupied. -/
def occupied (summary : Summary) : Set ℕ :=
  { index | summary.buckets index ≠ 0 }

/-- The buckets in use of two summaries. -/
theorem occupied_add (first second : Summary) :
    (first + second).occupied = first.occupied ∪ second.occupied := by
  ext index
  simp only [occupied, add_buckets, Pi.add_apply, Set.mem_union, Set.mem_ofPred_eq]
  omega

end Summary

namespace Slotting

variable (slots : Slotting)

/-- The summary of one sample. -/
def single (value : ℕ) : Summary where
  buckets index := if value < slots.limit ∧ slots.slot value = index then 1 else 0
  total := 1
  overflow := if value < slots.limit then 0 else 1
  sum := value
  least := value
  greatest := value

/-- The summary of a list of samples. -/
def summary (samples : List ℕ) : Summary :=
  (samples.map slots.single).sum

@[simp] theorem summary_nil : slots.summary [] = 0 :=
  rfl

@[simp] theorem summary_cons (value : ℕ) (samples : List ℕ) :
    slots.summary (value :: samples) = slots.single value + slots.summary samples :=
  List.sum_cons

/-- The summary of two lists is the sum of theirs. -/
theorem summary_append (first second : List ℕ) :
    slots.summary (first ++ second) = slots.summary first + slots.summary second := by
  simp [summary]

/-- The order of the samples does not matter. -/
theorem summary_perm {first second : List ℕ} (permuted : first.Perm second) :
    slots.summary first = slots.summary second :=
  (permuted.map _).sum_eq

/-- Every sample is counted once. -/
theorem total_summary (samples : List ℕ) : (slots.summary samples).total = samples.length := by
  induction samples with
  | nil =>
    rfl
  | cons value rest ih =>
    simp [ih, single, add_comm]

theorem sum_summary (samples : List ℕ) : (slots.summary samples).sum = samples.sum := by
  induction samples with
  | nil =>
    rfl
  | cons value rest ih =>
    simp [ih, single]

/-! ## Valid summaries -/

/-- What the least sample of a summary must satisfy. -/
structure ValidFrom (summary : Summary) (low : ℕ) : Prop where
  isLeast : summary.least = low
  ordered : low ≤ summary.greatest
  single : summary.total = 1 → low = summary.greatest
  sumLow : low * (summary.total - 1) + summary.greatest ≤ summary.sum
  sumHigh : summary.sum ≤ summary.greatest * summary.total
  outOfRange : summary.overflow = summary.total → slots.limit ≤ low
  first : summary.overflow < summary.total →
    low < slots.limit ∧ IsLeast summary.occupied (slots.slot low)
  overflowed : 0 < summary.overflow → slots.limit ≤ summary.greatest
  last : summary.overflow = 0 → summary.greatest < slots.limit ∧
    IsGreatest summary.occupied (slots.slot summary.greatest)

/-- The numbers of a summary fit together. -/
structure Valid (summary : Summary) : Prop where
  within : ∀ index, slots.size ≤ index → summary.buckets index = 0
  counted : (∑ index ∈ Finset.range slots.size, summary.buckets index) + summary.overflow =
    summary.total
  empty : summary.total = 0 → summary = 0
  nonempty : summary.total ≠ 0 → ∃ low, slots.ValidFrom summary low

variable {slots}

variable {summary : Summary}

/-- All samples are out of range exactly when no slot is occupied. -/
theorem occupied_eq_empty_iff (within : ∀ index, slots.size ≤ index → summary.buckets index = 0)
    (counted : (∑ index ∈ Finset.range slots.size, summary.buckets index) + summary.overflow =
        summary.total) : summary.occupied = ∅ ↔ summary.overflow = summary.total := by
  have noneCounted : summary.overflow = summary.total ↔
      ∑ index ∈ Finset.range slots.size, summary.buckets index = 0 := by
    omega
  rw [noneCounted, Finset.sum_eq_zero_iff, Set.eq_empty_iff_forall_notMem]
  constructor
  · intro noneOccupied index _
    exact not_not.mp (noneOccupied index)
  · intro allZero index isOccupied
    apply isOccupied
    by_cases inside : index < slots.size
    · exact allZero index (Finset.mem_range.mpr inside)
    · exact within index (not_lt.mp inside)

theorem Valid.occupied_eq_empty (valid : slots.Valid summary)
    (outside : summary.overflow = summary.total) : summary.occupied = ∅ :=
  (occupied_eq_empty_iff valid.within valid.counted).mpr outside

theorem Valid.overflow_le (valid : slots.Valid summary) : summary.overflow ≤ summary.total := by
  have counted := valid.counted
  omega

theorem Valid.buckets_le (valid : slots.Valid summary) (index : ℕ) :
    summary.buckets index ≤ summary.total := by
  by_cases inside : index < slots.size
  · have counted := valid.counted
    have part : summary.buckets index ≤ ∑ other ∈ Finset.range slots.size, summary.buckets other :=
      Finset.single_le_sum (fun _ _ => Nat.zero_le _) (Finset.mem_range.mpr inside)
    omega
  · rw [valid.within index (not_lt.mp inside)]
    exact Nat.zero_le _

theorem valid_zero : slots.Valid 0 where
  within _ _ := rfl
  counted := by simp
  empty _ := rfl
  nonempty notEmpty := absurd rfl notEmpty

theorem occupied_single {value : ℕ} (inRange : value < slots.limit) :
    (slots.single value).occupied = {slots.slot value} := by
  ext index
  simp [Summary.occupied, single, inRange, eq_comm]

theorem valid_single (value : ℕ) : slots.Valid (slots.single value) where
  within index outside := by
    refine if_neg ?_
    rintro ⟨inRange, rfl⟩
    exact absurd (slots.slot_lt inRange) (not_lt.mpr outside)
  counted := by
    by_cases inRange : value < slots.limit
    · simp [single, inRange, slots.slot_lt inRange]
    · simp [single, inRange]
  empty isEmpty := by
    simp [single] at isEmpty
  nonempty _ :=
    ⟨value,
      { isLeast := rfl
        ordered := le_rfl
        single := fun _ => rfl
        sumLow := by simp [single]
        sumHigh := by simp [single]
        outOfRange := by simp [single]
        first := by
          intro inRange
          have below : value < slots.limit := by
            by_contra above
            simp [single, above] at inRange
          rw [occupied_single below]
          exact ⟨below, isLeast_singleton⟩
        overflowed := by
          intro outOfRange
          have above : ¬ value < slots.limit := by
            intro below
            simp [single, below] at outOfRange
          exact not_lt.mp above
        last := by
          intro inRange
          have below : value < slots.limit := by
            by_contra above
            simp [single, above] at inRange
          rw [occupied_single below]
          exact ⟨below, isGreatest_singleton⟩ }⟩

/-- The least and the greatest of two samples have the slots of the two. -/
theorem slot_min {first second : ℕ} (firstIn : first < slots.limit)
    (secondIn : second < slots.limit) :
    slots.slot (min first second) = min (slots.slot first) (slots.slot second) := by
  rcases le_total first second with lower | lower
  · rw [min_eq_left lower, min_eq_left (slots.slot_mono lower secondIn)]
  · rw [min_eq_right lower, min_eq_right (slots.slot_mono lower firstIn)]

theorem slot_max {first second : ℕ} (firstIn : first < slots.limit)
    (secondIn : second < slots.limit) :
    slots.slot (max first second) = max (slots.slot first) (slots.slot second) := by
  rcases le_total first second with lower | lower
  · rw [max_eq_right lower, max_eq_right (slots.slot_mono lower secondIn)]
  · rw [max_eq_left lower, max_eq_left (slots.slot_mono lower firstIn)]

section

variable {first second : Summary} {low other : ℕ}

/-- The lower bound of the sum survives an addition. -/
theorem ValidFrom.add_sumLow (firstValid : slots.ValidFrom first low)
    (secondValid : slots.ValidFrom second other) (firstNonempty : first.total ≠ 0)
    (secondNonempty : second.total ≠ 0) :
    min low other * (first.total + second.total - 1) + max first.greatest second.greatest ≤
      first.sum + second.sum := by
  obtain ⟨m, firstTotal⟩ := Nat.exists_eq_succ_of_ne_zero firstNonempty
  obtain ⟨n, secondTotal⟩ := Nat.exists_eq_succ_of_ne_zero secondNonempty
  have firstLow := firstValid.sumLow
  have secondLow := secondValid.sumLow
  rw [firstTotal, Nat.succ_sub_one] at firstLow
  rw [secondTotal, Nat.succ_sub_one] at secondLow
  have count : first.total + second.total - 1 = m + n + 1 := by omega
  have leftPart : min low other * m ≤ low * m := Nat.mul_le_mul_right m (min_le_left low other)
  have rightPart : min low other * n ≤ other * n := Nat.mul_le_mul_right n (min_le_right low other)
  -- One sample more than the two bounds allow for: the lesser maximum.
  have oneMore : min low other + max first.greatest second.greatest ≤
      first.greatest + second.greatest := by
    have firstOrdered := firstValid.ordered
    have secondOrdered := secondValid.ordered
    omega
  rw [count, Nat.mul_add, Nat.mul_add, Nat.mul_one]
  omega

theorem ValidFrom.add_first (firstValid : slots.ValidFrom first low)
    (secondValid : slots.ValidFrom second other) (firstCounted : slots.Valid first)
    (secondCounted : slots.Valid second)
    (someInRange : first.overflow + second.overflow < first.total + second.total) :
    min low other < slots.limit ∧
      IsLeast (first + second).occupied (slots.slot (min low other)) := by
  have firstLe := firstCounted.overflow_le
  have secondLe := secondCounted.overflow_le
  rw [Summary.occupied_add]
  by_cases firstOut : first.overflow = first.total
  · -- Nothing of the first part is in range, so its least sample is not.
    have secondIn : second.overflow < second.total := by omega
    obtain ⟨below, isLeast⟩ := secondValid.first secondIn
    have above := firstValid.outOfRange firstOut
    rw [firstCounted.occupied_eq_empty firstOut, Set.empty_union,
      min_eq_right (below.le.trans above)]
    exact ⟨below, isLeast⟩
  · obtain ⟨below, isLeast⟩ := firstValid.first (lt_of_le_of_ne firstLe firstOut)
    by_cases secondOut : second.overflow = second.total
    · have above := secondValid.outOfRange secondOut
      rw [secondCounted.occupied_eq_empty secondOut, Set.union_empty,
        min_eq_left (below.le.trans above)]
      exact ⟨below, isLeast⟩
    · obtain ⟨otherBelow, otherLeast⟩ := secondValid.first (lt_of_le_of_ne secondLe secondOut)
      rw [slot_min below otherBelow]
      exact ⟨(min_le_left _ _).trans_lt below, isLeast.union otherLeast⟩

/-- The bounds of two summaries are bounds of their sum. -/
theorem ValidFrom.add (firstValid : slots.ValidFrom first low)
    (secondValid : slots.ValidFrom second other) (firstCounted : slots.Valid first)
    (secondCounted : slots.Valid second) (firstNonempty : first.total ≠ 0)
    (secondNonempty : second.total ≠ 0) : slots.ValidFrom (first + second) (min low other) where
  isLeast := by
    rw [Summary.add_least, firstValid.isLeast, secondValid.isLeast]
    rfl
  ordered := by
    have firstOrdered := firstValid.ordered
    have secondOrdered := secondValid.ordered
    rw [Summary.add_greatest]
    omega
  single isOne := by
    rw [Summary.add_total] at isOne
    omega
  sumLow := firstValid.add_sumLow secondValid firstNonempty secondNonempty
  sumHigh := by
    have firstHigh := firstValid.sumHigh
    have secondHigh := secondValid.sumHigh
    rw [Summary.add_sum, Summary.add_greatest, Summary.add_total, Nat.mul_add]
    have leftPart := Nat.mul_le_mul_right first.total (le_max_left first.greatest second.greatest)
    have rightPart :=
      Nat.mul_le_mul_right second.total (le_max_right first.greatest second.greatest)
    omega
  outOfRange allOut := by
    rw [Summary.add_overflow, Summary.add_total] at allOut
    have firstLe := firstCounted.overflow_le
    have secondLe := secondCounted.overflow_le
    exact le_min (firstValid.outOfRange (by omega)) (secondValid.outOfRange (by omega))
  first someInRange := firstValid.add_first secondValid firstCounted secondCounted someInRange
  overflowed some_ := by
    rw [Summary.add_overflow] at some_
    rw [Summary.add_greatest, le_max_iff]
    by_cases firstNone : first.overflow = 0
    · exact .inr (secondValid.overflowed (by omega))
    · exact .inl (firstValid.overflowed (by omega))
  last none_ := by
    rw [Summary.add_overflow] at none_
    obtain ⟨firstBelow, firstLast⟩ := firstValid.last (by omega)
    obtain ⟨secondBelow, secondLast⟩ := secondValid.last (by omega)
    rw [Summary.add_greatest, Summary.occupied_add, slot_max firstBelow secondBelow]
    exact ⟨max_lt firstBelow secondBelow, firstLast.union secondLast⟩

end

/-- Sums of valid summaries are valid. -/
theorem Valid.add {first second : Summary} (firstValid : slots.Valid first)
    (secondValid : slots.Valid second) : slots.Valid (first + second) := by
  by_cases firstEmpty : first.total = 0
  · rw [firstValid.empty firstEmpty, zero_add]
    exact secondValid
  · by_cases secondEmpty : second.total = 0
    · rw [secondValid.empty secondEmpty, add_zero]
      exact firstValid
    · obtain ⟨low, fromLow⟩ := firstValid.nonempty firstEmpty
      obtain ⟨other, fromOther⟩ := secondValid.nonempty secondEmpty
      exact
        { within := fun index outside => by
            simp [firstValid.within index outside, secondValid.within index outside]
          counted := by
            have firstCounted := firstValid.counted
            have secondCounted := secondValid.counted
            simp only [Summary.add_buckets, Pi.add_apply,
              Finset.sum_add_distrib, Summary.add_overflow, Summary.add_total]
            omega
          empty := fun isEmpty => by
            rw [Summary.add_total] at isEmpty
            omega
          nonempty := fun _ =>
            ⟨_, fromLow.add fromOther firstValid secondValid firstEmpty secondEmpty⟩ }

/-- The summary of any samples is valid. -/
theorem valid_summary (samples : List ℕ) : slots.Valid (slots.summary samples) := by
  induction samples with
  | nil =>
    exact valid_zero
  | cons value rest ih =>
    rw [summary_cons]
    exact (valid_single value).add ih

end Slotting

end PortableTpcc
