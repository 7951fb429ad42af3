import PortableTpcc.TimerQueue

namespace PortableTpcc

/-!
# Buckets of timers

What the operations on one bucket do to its items, to its bounds and to the
order of its items.
-/

variable {Time T : Type}

/-- The deadlines of these items. -/
def deadlines (items : List (TItem Time T)) : Multiset Time :=
  (items.map TItem.deadline : List Time)

variable {items : List (TItem Time T)}

theorem deadlines_of_perm {others : List (TItem Time T)} (perm : items.Perm others) :
    deadlines items = deadlines others :=
  Multiset.coe_eq_coe.mpr (perm.map TItem.deadline)

variable [LinearOrder Time]

/-- No item is later than one after it. -/
def Ascends (items : List (TItem Time T)) : Prop :=
  items.Pairwise fun a b => a.deadline ≤ b.deadline

/-- An item is placed before the first one that is later. -/
theorem ascends_insert (ascends : Ascends items) (item : TItem Time T) :
    let stays := fun each : TItem Time T => !decide (item.deadline < each.deadline)
    Ascends (items.takeWhile stays ++ item :: items.dropWhile stays) := by
  intro stays
  induction items with
  | nil =>
    exact List.pairwise_singleton _ _
  | cons first rest ih =>
    obtain ⟨firstLeast, restAscends⟩ := List.pairwise_cons.mp ascends
    by_cases later : item.deadline < first.deadline
    · have stops : stays first = false := by
        simp [stays, later]
      rw [List.takeWhile_cons_of_neg (by simp [stops]),
        List.dropWhile_cons_of_neg (by simp [stops])]
      apply List.pairwise_cons.mpr
      refine ⟨?_, ascends⟩
      intro each isIn
      rcases List.mem_cons.mp isIn with rfl | isIn
      · exact later.le
      · exact later.le.trans (firstLeast each isIn)
    · have continues : stays first = true := by
        simp [stays, later]
      rw [List.takeWhile_cons_of_pos continues, List.dropWhile_cons_of_pos continues]
      apply List.pairwise_cons.mpr
      refine ⟨?_, ih restAscends⟩
      intro each isIn
      rcases List.mem_append.mp isIn with before | after
      · exact firstLeast each (List.takeWhile_subset _ before)
      · rcases List.mem_cons.mp after with rfl | after
        · exact not_lt.mp later
        · exact firstLeast each (List.dropWhile_subset _ after)

theorem ascending_of_ascends (ascends : Ascends items) :
    TBinnedTimerQueue.ascending items = true := by
  fun_induction TBinnedTimerQueue.ascending items with
  | case1 first second rest ih =>
    obtain ⟨firstLeast, restAscends⟩ := List.pairwise_cons.mp ascends
    have inOrder := firstLeast second List.mem_cons_self
    simp [inOrder, ih restAscends]
  | case2 =>
    rfl

namespace TBucket

variable {bucket : TBucket Time T}

theorem perm_addBack (item : TItem Time T) :
    (bucket.addBack item).items.Perm (item :: bucket.items) :=
  List.perm_append_singleton item bucket.items

theorem take_upperBound (items : List (TItem Time T)) (item : TItem Time T) :
    items.take (upperBound items item) =
      items.takeWhile fun each => !decide (item.deadline < each.deadline) :=
  (List.prefix_iff_eq_take.mp (List.takeWhile_prefix _)).symm

theorem drop_upperBound (items : List (TItem Time T)) (item : TItem Time T) :
    items.drop (upperBound items item) =
      items.dropWhile fun each => !decide (item.deadline < each.deadline) := by
  have whole := List.take_append_drop (upperBound items item) items
  rw [take_upperBound] at whole
  exact List.append_cancel_left (whole.trans List.takeWhile_append_dropWhile.symm)

/-- The flag of a bucket is right. -/
def Flagged (bucket : TBucket Time T) : Prop :=
  bucket.isSorted = true → Ascends bucket.items

theorem flagged_addBack (flagged : bucket.Flagged) (item : TItem Time T) :
    (bucket.addBack item).Flagged := by
  intro isSorted
  apply List.pairwise_append.mpr
  cases last : bucket.items.getLast? with
  | none =>
    have empty := List.getLast?_eq_none_iff.mp last
    simp [empty]
  | some back =>
    obtain ⟨front, items⟩ := List.getLast?_eq_some_iff.mp last
    simp only [addBack, last] at isSorted
    split at isSorted
    · cases isSorted
    · rename_i notEarlier
      have ascends := flagged isSorted
      refine ⟨ascends, List.pairwise_singleton _ _, ?_⟩
      intro each isIn added isAdded
      rw [List.mem_singleton.mp isAdded]
      apply le_trans _ (not_lt.mp notEarlier)
      rw [items] at ascends isIn
      rcases List.mem_append.mp isIn with before | same
      · exact (List.pairwise_append.mp ascends).2.2 each before back
          (List.mem_singleton_self back)
      · rw [List.mem_singleton.mp same]

/-- The item is inserted and nothing else is changed. -/
theorem perm_addSorted (bucket : TBucket Time T) (item : TItem Time T) (cursor : Nat) :
    (bucket.addSorted item cursor).items.Perm (item :: bucket.items) := by
  unfold addSorted
  split
  · exact perm_addBack item
  · apply List.perm_middle.trans
    rw [List.take_append_drop]

theorem perm_sort (bucket : TBucket Time T) (std : StdSort Time T) :
    (bucket.sort std).items.Perm bucket.items := by
  unfold sort
  split
  · exact .refl _
  · exact std.perm bucket.items

/-- A sorted bucket ascends. -/
theorem ascends_sort (std : StdSort Time T) (flagged : bucket.Flagged) :
    Ascends (bucket.sort std).items := by
  unfold sort
  split
  · rename_i isSorted
    exact flagged isSorted
  · exact std.ascends bucket.items

variable [BoundedOrder Time]

/-- The bounds of a bucket are those of all its items, consumed or not. -/
structure Bounded (bucket : TBucket Time T) : Prop where
  least : bucket.minDeadline = (deadlines bucket.items).inf
  greatest : bucket.maxDeadline = (deadlines bucket.items).sup

theorem bounded_clear : (clear : TBucket Time T).Bounded :=
  ⟨rfl, rfl⟩

/-- The stored minimum bounds the items. -/
theorem Bounded.le_min_iff (bounded : bucket.Bounded) {deadline : Time} :
    deadline ≤ bucket.minDeadline ↔ ∀ item ∈ bucket.items, deadline ≤ item.deadline := by
  rw [bounded.least, Multiset.le_inf]
  simp [deadlines]

theorem Bounded.max_le_iff (bounded : bucket.Bounded) {deadline : Time} :
    bucket.maxDeadline ≤ deadline ↔ ∀ item ∈ bucket.items, item.deadline ≤ deadline := by
  rw [bounded.greatest, Multiset.sup_le]
  simp [deadlines]

theorem Bounded.insert (bounded : bucket.Bounded) (item : TItem Time T)
    {items : List (TItem Time T)} (perm : items.Perm (item :: bucket.items)) (isSorted : Bool) :
    Bounded {
      items
      minDeadline := min bucket.minDeadline item.deadline
      maxDeadline := max bucket.maxDeadline item.deadline
      isSorted } := by
  have joined : deadlines items = item.deadline ::ₘ deadlines bucket.items := deadlines_of_perm perm
  constructor
  · rw [joined, Multiset.inf_cons, ← bounded.least]
    exact min_comm _ _
  · rw [joined, Multiset.sup_cons, ← bounded.greatest]
    exact max_comm _ _

theorem bounded_addBack (bounded : bucket.Bounded) (item : TItem Time T) :
    (bucket.addBack item).Bounded :=
  bounded.insert item (perm_addBack item) _

/-- What stands from the cursor on when an item is added to the current one. -/
theorem exists_addSorted (bounded : bucket.Bounded) {cursor : Nat}
    (ascends : Ascends (bucket.items.drop cursor)) (item : TItem Time T) :
    ∃ remaining, (bucket.addSorted item cursor).items = bucket.items.take cursor ++ remaining ∧
      remaining.Perm (item :: bucket.items.drop cursor) ∧
        Ascends remaining := by
  unfold addSorted
  split
  · rename_i latest
    refine ⟨bucket.items.drop cursor ++ [item], ?_, ?_, ?_⟩
    · rw [← List.append_assoc, List.take_append_drop]
      rfl
    · exact List.perm_append_singleton _ _
    · apply List.pairwise_append.mpr
      refine ⟨ascends, List.pairwise_singleton _ _, ?_⟩
      intro each isIn added isAdded
      rw [List.mem_singleton.mp isAdded]
      exact bounded.max_le_iff.mp latest each (List.mem_of_mem_drop isIn)
  · refine ⟨_, ?_, ?_, ascends_insert ascends item⟩
    · simp only [List.take_add, ← List.drop_drop, take_upperBound,
        drop_upperBound, List.append_assoc]
    · apply List.perm_middle.trans
      rw [List.takeWhile_append_dropWhile]

theorem bounded_addSorted (bounded : bucket.Bounded) (item : TItem Time T) (cursor : Nat) :
    (bucket.addSorted item cursor).Bounded := by
  have perm := bucket.perm_addSorted item cursor
  unfold addSorted at perm ⊢
  split
  · exact bounded_addBack bounded item
  · rename_i notLatest
    rw [if_neg notLatest] at perm
    exact bounded.insert item perm _

/-- The items that are not consumed, after an item is added. -/
theorem drop_addSorted (bounded : bucket.Bounded) {cursor : Nat}
    (inRange : cursor ≤ bucket.items.length) (ascends : Ascends (bucket.items.drop cursor))
    (item : TItem Time T) :
    ((bucket.addSorted item cursor).items.drop cursor).Perm (item :: bucket.items.drop cursor) ∧
      Ascends ((bucket.addSorted item cursor).items.drop cursor) := by
  obtain ⟨remaining, items, perm, remainingAscends⟩ := exists_addSorted bounded ascends item
  have length : (bucket.items.take cursor).length = cursor := by
    simp [inRange]
  rw [items, List.drop_left' length]
  exact ⟨perm, remainingAscends⟩

theorem bounded_sort (std : StdSort Time T) (bounded : bucket.Bounded) :
    (bucket.sort std).Bounded := by
  have same := deadlines_of_perm (bucket.perm_sort std)
  have bounds : (bucket.sort std).minDeadline = bucket.minDeadline ∧
      (bucket.sort std).maxDeadline = bucket.maxDeadline := by
    unfold sort
    split <;> exact ⟨rfl, rfl⟩
  constructor
  · rw [same, bounds.1, bounded.least]
  · rw [same, bounds.2, bounded.greatest]

/-- The loop for the minimum. -/
theorem foldl_min (first : TItem Time T) (rest : List (TItem Time T)) :
    rest.foldl (fun least item => min least item.deadline) first.deadline =
      (deadlines (first :: rest)).inf := by
  induction rest generalizing first with
  | nil =>
    simp [deadlines]
  | cons second rest ih =>
    have step :=
      ih
        { first with deadline := min first.deadline second.deadline }
    rw [List.foldl_cons, step]
    simp [deadlines, min_assoc]

theorem foldl_max (first : TItem Time T) (rest : List (TItem Time T)) :
    rest.foldl (fun greatest item => max greatest item.deadline) first.deadline =
      (deadlines (first :: rest)).sup := by
  induction rest generalizing first with
  | nil =>
    simp [deadlines]
  | cons second rest ih =>
    have step :=
      ih
        { first with deadline := max first.deadline second.deadline }
    rw [List.foldl_cons, step]
    simp [deadlines, max_assoc]

/-- The bounds of the bucket pass the check of `Validate`. -/
theorem boundsMatch_of_bounded (bounded : bucket.Bounded) : bucket.boundsMatch = true := by
  unfold boundsMatch
  split
  · rename_i empty
    simp [bounded.least, bounded.greatest, empty, deadlines]
  · rename_i first rest items
    rw [foldl_min, foldl_max, ← items]
    simp [bounded.least, bounded.greatest]

end TBucket

end PortableTpcc
