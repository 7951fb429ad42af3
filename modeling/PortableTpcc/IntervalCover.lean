import Mathlib

namespace PortableTpcc

/-!
# Covering integers by half-open intervals

A list of intervals owns an integer as often as it lies in one of them.  The
lengths of the intervals add up to the number of integers they own, counted
with repetitions; so lengths tell nothing about gaps unless overlaps are known
not to occur.
-/

/-- A half-open interval. -/
structure Span where
  start : Int
  stop : Int
deriving Repr, DecidableEq

/-- The integer lies in the interval. -/
def Span.Contains (span : Span) (w : Int) : Prop :=
  span.start ≤ w ∧ w < span.stop

instance (span : Span) (w : Int) : Decidable (span.Contains w) :=
  inferInstanceAs (Decidable (_ ∧ _))

/-- How many of the intervals an integer lies in. -/
def owners (spans : List Span) (w : Int) : Nat :=
  spans.countP fun span => span.Contains w

@[simp] theorem owners_nil (w : Int) : owners [] w = 0 :=
  rfl

theorem owners_cons (span : Span) (spans : List Span) (w : Int) :
    owners (span :: spans) w = owners spans w + if span.Contains w then 1 else 0 := by
  simp [owners, List.countP_cons]

theorem owners_append (first second : List Span) (w : Int) :
    owners (first ++ second) w = owners first w + owners second w :=
  List.countP_append

variable {spans : List Span}

theorem owners_pos_iff {w : Int} : 0 < owners spans w ↔ ∃ span ∈ spans, span.Contains w := by
  simp [owners, List.countP_pos_iff]

/-- The sum of the lengths. -/
def totalLength (spans : List Span) : Int :=
  (spans.map fun span => span.stop - span.start).sum

@[simp] theorem totalLength_nil : totalLength [] = 0 :=
  rfl

theorem totalLength_cons (span : Span) (spans : List Span) :
    totalLength (span :: spans) = span.stop - span.start + totalLength spans := by
  simp [totalLength]

/-- The interval is not reversed and lies between two bounds. -/
structure Span.Within (span : Span) (low high : Int) : Prop where
  above : low ≤ span.start
  ordered : span.start ≤ span.stop
  below : span.stop ≤ high

variable {low high : Int}

/-- The integers of an interval, counted one by one. -/
theorem sum_contains {span : Span} (within : span.Within low high) :
    ∑ w ∈ Finset.Ico low high, (if span.Contains w then (1 : Int) else 0) =
      span.stop - span.start := by
  have sameSet : (Finset.Ico low high).filter (fun w => span.Contains w) =
        Finset.Ico span.start span.stop := by
    ext w
    have above := within.above
    have below := within.below
    rw [Finset.mem_filter, Finset.mem_Ico, Finset.mem_Ico, Span.Contains]
    omega
  have ordered := within.ordered
  rw [Finset.sum_boole, sameSet, Int.card_Ico]
  omega

/-- The lengths count each integer as often as it is owned. -/
theorem sum_owners (within : ∀ span ∈ spans, span.Within low high) :
    ∑ w ∈ Finset.Ico low high, (owners spans w : Int) = totalLength spans := by
  induction spans with
  | nil =>
    simp
  | cons span rest ih =>
    have isWithin := within span List.mem_cons_self
    have restWithin := fun other member => within other (List.mem_cons_of_mem span member)
    simp only [owners_cons, Nat.cast_add, Nat.cast_ite, Nat.cast_one,
      Nat.cast_zero, Finset.sum_add_distrib, ih restWithin,
      sum_contains isWithin, totalLength_cons]
    ring

theorem sum_one_Ico (ordered : low ≤ high) :
    ∑ _w ∈ Finset.Ico low high, (1 : Int) = high - low := by
  rw [Finset.sum_const, Int.card_Ico, nsmul_one]
  omega

theorem totalLength_nonneg (within : ∀ span ∈ spans, span.Within low high) :
    0 ≤ totalLength spans := by
  rw [← sum_owners within]
  exact Finset.sum_nonneg fun w _ => Int.natCast_nonneg _

/-- Without overlaps, the lengths are at most the length of the whole. -/
theorem totalLength_le (ordered : low ≤ high) (within : ∀ span ∈ spans, span.Within low high)
    (once : ∀ w, owners spans w ≤ 1) : totalLength spans ≤ high - low := by
  rw [← sum_owners within, ← sum_one_Ico ordered]
  apply Finset.sum_le_sum
  intro w _
  exact_mod_cast once w

/-- Without overlaps, intervals of the right total length leave no gap. -/
theorem owners_eq_one (within : ∀ span ∈ spans, span.Within low high)
    (once : ∀ w, owners spans w ≤ 1) (full : totalLength spans = high - low) {w : Int}
    (above : low ≤ w) (below : w < high) : owners spans w = 1 := by
  have ones := sum_one_Ico (above.trans below.le)
  have sameSum : ∑ w ∈ Finset.Ico low high, (owners spans w : Int) =
      ∑ w ∈ Finset.Ico low high, (1 : Int) := by
    rw [sum_owners within, ones, full]
  have bounded : ∀ w ∈ Finset.Ico low high, (owners spans w : Int) ≤ 1 := by
    intro w _
    exact_mod_cast once w
  have each := (Finset.sum_eq_sum_iff_of_le bounded).mp sameSum
  exact_mod_cast each w (Finset.mem_Ico.mpr ⟨above, below⟩)

/-- Intervals that own each integer once have the right total length. -/
theorem totalLength_of_owners (ordered : low ≤ high) (within : ∀ span ∈ spans, span.Within low high)
    (once : ∀ w, low ≤ w → w < high → owners spans w = 1) : totalLength spans = high - low := by
  rw [← sum_owners within]
  have ones : ∑ w ∈ Finset.Ico low high, (owners spans w : Int) =
      ∑ w ∈ Finset.Ico low high, (1 : Int) := by
    apply Finset.sum_congr rfl
    intro w member
    have bounds := Finset.mem_Ico.mp member
    rw [once w bounds.1 bounds.2, Nat.cast_one]
  rw [ones, sum_one_Ico ordered]

/-- Each interval starts where the one before it stops. -/
def Contiguous (low : Int) : List Span → Int → Prop
  | [], high => low = high
  | span :: rest, high =>
    span.start = low ∧ low ≤ span.stop ∧ Contiguous span.stop rest high

theorem Contiguous.le (contiguous : Contiguous low spans high) : low ≤ high := by
  induction spans generalizing low with
  | nil =>
    exact Int.le_of_eq contiguous
  | cons span rest ih =>
    rcases contiguous with ⟨_, ordered, later⟩
    exact ordered.trans (ih later)

theorem Contiguous.within (contiguous : Contiguous low spans high) {span : Span}
    (member : span ∈ spans) : span.Within low high := by
  induction spans generalizing low with
  | nil =>
    exact absurd member List.not_mem_nil
  | cons first rest ih =>
    rcases contiguous with ⟨rfl, ordered, later⟩
    rcases List.mem_cons.mp member with rfl | inRest
    · exact ⟨le_rfl, ordered, later.le⟩
    · have within := ih later inRest
      exact ⟨ordered.trans within.above, within.ordered, within.below⟩

/-- Contiguous intervals own what lies between their ends, once. -/
theorem Contiguous.owners_eq (contiguous : Contiguous low spans high) (w : Int) :
    owners spans w = if low ≤ w ∧ w < high then 1 else 0 := by
  induction spans generalizing low with
  | nil =>
    have same : low = high := contiguous
    rw [owners_nil, if_neg (by omega)]
  | cons span rest ih =>
    rcases contiguous with ⟨rfl, ordered, later⟩
    have stops := later.le
    rw [owners_cons, ih later]
    by_cases inFirst : span.Contains w
    · have bounds : span.start ≤ w ∧ w < span.stop := inFirst
      rw [if_pos inFirst, if_neg (by omega), if_pos (by omega)]
    · have bounds : ¬ (span.start ≤ w ∧ w < span.stop) := inFirst
      rw [if_neg inFirst, Nat.add_zero]
      congr 1
      apply propext
      omega

end PortableTpcc
