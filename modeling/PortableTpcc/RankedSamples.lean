import PortableTpcc.PiecewiseBounds

namespace PortableTpcc

/-!
# The samples of a rank

The slot that holds the sample of a rank can be found from the counts of the
slots alone: it is the first one up to which there are as many samples as the
rank says.
-/

/--
The value is the one at this rank: fewer samples are below it than the rank
says, and as many are not above it.
-/
structure IsNth (samples : List ℕ) (rank value : ℕ) : Prop where
  fewBelow : samples.countP (· < value) < rank
  enough : rank ≤ samples.countP (· ≤ value)

namespace Slotting

variable (slots : Slotting)

/-- The samples in a slot. -/
def tally (samples : List ℕ) (index : ℕ) : ℕ :=
  samples.countP fun value => value < slots.limit ∧ slots.slot value = index

/-- The samples in the slots before one. -/
def before (samples : List ℕ) (index : ℕ) : ℕ :=
  samples.countP fun value => value < slots.limit ∧ slots.slot value < index

variable {slots} {samples : List ℕ}

theorem before_zero : slots.before samples 0 = 0 := by
  simp [before]

theorem before_succ (index : ℕ) :
    slots.before samples (index + 1) = slots.before samples index + slots.tally samples index := by
  induction samples with
  | nil =>
    rfl
  | cons value rest ih =>
    simp only [before, tally, List.countP_cons, decide_eq_true_eq]
      at ih ⊢
    rw [ih]
    split_ifs <;> omega

theorem before_mono {low high : ℕ} (ordered : low ≤ high) :
    slots.before samples low ≤ slots.before samples high := by
  apply List.countP_mono_left
  intro value _ earlier
  simp only [decide_eq_true_eq] at earlier ⊢
  exact ⟨earlier.1, earlier.2.trans_le ordered⟩

theorem before_le (index : ℕ) : slots.before samples index ≤ samples.length :=
  List.countP_le_length

/-- Only in one slot the number of samples passes a rank. -/
theorem before_unique {rank index other : ℕ} (passed : slots.before samples index < rank)
    (reached : rank ≤ slots.before samples (index + 1))
    (otherPassed : slots.before samples other < rank)
    (otherReached : rank ≤ slots.before samples (other + 1)) : index = other := by
  by_contra different
  rcases lt_or_gt_of_ne different with less | greater
  · have ordered : slots.before samples (index + 1) ≤ slots.before samples other := before_mono less
    exact absurd (reached.trans ordered) (not_le.mpr otherPassed)
  · have ordered : slots.before samples (other + 1) ≤ slots.before samples index :=
      before_mono greater
    exact absurd (otherReached.trans ordered) (not_le.mpr passed)

section

variable {rank value : ℕ}

/-- Before the slot of the value at a rank there are too few samples. -/
theorem before_slot_lt (nth : IsNth samples rank value) :
    slots.before samples (slots.slot value) < rank := by
  apply lt_of_le_of_lt _ nth.fewBelow
  apply List.countP_mono_left
  intro other _ earlier
  simp only [decide_eq_true_eq] at earlier ⊢
  by_contra above
  have later := slots.slot_mono (not_lt.mp above) earlier.1
  omega

/-- Up to that slot there are enough. -/
theorem le_before_slot (nth : IsNth samples rank value) (inRange : value < slots.limit) :
    rank ≤ slots.before samples (slots.slot value + 1) := by
  apply nth.enough.trans
  apply List.countP_mono_left
  intro other _ below
  simp only [decide_eq_true_eq] at below ⊢
  have earlier := slots.slot_mono below inRange
  exact ⟨below.trans_lt inRange, by omega⟩

/-- A rank beyond the limit is not reached in any slot. -/
theorem before_lt_of_limit_le (nth : IsNth samples rank value) (outside : slots.limit ≤ value)
    (index : ℕ) : slots.before samples index < rank := by
  apply lt_of_le_of_lt _ nth.fewBelow
  apply List.countP_mono_left
  intro other _ earlier
  simp only [decide_eq_true_eq] at earlier ⊢
  exact earlier.1.trans_le outside

variable (slots samples) in
/-- The slots and what is beyond the limit hold all samples. -/
theorem before_size_add :
    slots.before samples slots.size + samples.countP (fun value => slots.limit ≤ value) =
      samples.length := by
  induction samples with
  | nil =>
    rfl
  | cons value rest ih =>
    simp only [before, List.countP_cons, decide_eq_true_eq, List.length_cons]
      at ih ⊢
    rw [← ih]
    by_cases inRange : value < slots.limit
    · simp only [inRange, slots.slot_lt inRange, and_self, if_true, not_le.mpr inRange, if_false]
      omega
    · simp only [inRange, false_and, if_false, not_lt.mp inRange, if_true]
      omega

end

/-- The samples up to the bound of a slot are those of the slots up to it. -/
theorem Bounds.before_le {upper : ℕ → ℕ} (bounds : slots.Bounds upper) {index : ℕ}
    (inside : index < slots.size) :
    slots.before samples (index + 1) ≤ samples.countP (fun value => value ≤ upper index) := by
  apply List.countP_mono_left
  intro value _ earlier
  simp only [decide_eq_true_eq] at earlier ⊢
  apply (bounds.le_upper earlier.1).trans
  rcases Nat.lt_succ_iff_lt_or_eq.mp earlier.2 with less | same
  · exact (bounds.increasing less inside).le
  · exact same ▸ le_rfl

end Slotting

end PortableTpcc
