import PortableTpcc.TimerQueueBuckets

namespace PortableTpcc

/-!
# The ring of buckets

The buckets are looked at from the current one on.  In this order the filled
buckets come first, no item of a bucket is later than an item of a bucket after
it, and a bucket that the current one makes room for is the last.
-/

variable {Time T : Type} [LinearOrder Time] [BoundedOrder Time]

/-- How the buckets of a ring lie, with the cursor in the first. -/
structure Arranged (ring : Nat → TBucket Time T) (cursor : Nat) : Prop where
  bounded : ∀ k, (ring k).Bounded
  inRange : cursor ≤ (ring 0).items.length
  frontAscends : Ascends ((ring 0).items.drop cursor)
  flagged : ∀ k, 0 < k → (ring k).Flagged
  ordered : ∀ j k, j < k → ∀ item ∈ (ring j).items, ∀ later ∈ (ring k).items,
    item.deadline ≤ later.deadline
  contiguous : ∀ k, (ring k).items = [] → (ring (k + 1)).items = []

/-- A deadline belongs to the bucket at this offset. -/
structure Fits (ring : Nat → TBucket Time T) (offset : Nat) (deadline : Time) : Prop where
  before : ∀ j, j < offset → ∀ item ∈ (ring j).items, item.deadline ≤ deadline
  after : ∀ j, offset < j → ∀ item ∈ (ring j).items, deadline ≤ item.deadline
  joined : ∀ j, j < offset → (ring j).items ≠ []

namespace Arranged

variable {ring : Nat → TBucket Time T} {cursor : Nat}

variable {j k : Nat}

/-- The buckets before a filled one are filled. -/
theorem filled_of_le (arranged : Arranged ring cursor) (le : j ≤ k) (filled : (ring k).items ≠ []) :
    (ring j).items ≠ [] := by
  induction k, le using Nat.le_induction with
  | base =>
    exact filled
  | succ k _ ih =>
    apply ih
    intro empty
    exact filled (arranged.contiguous k empty)

variable {deadline : Time}

theorem filled_of_min_lt (arranged : Arranged ring cursor) (lt : (ring k).minDeadline < deadline) :
    (ring k).items ≠ [] := by
  intro empty
  apply not_le.mpr lt
  apply (arranged.bounded k).le_min_iff.mpr
  simp [empty]

/-- A deadline before a bucket is before all later buckets. -/
theorem le_of_le_min (arranged : Arranged ring cursor) (lt : j ≤ k)
    (le : deadline ≤ (ring j).minDeadline) {item : TItem Time T} (isIn : item ∈ (ring k).items) :
    deadline ≤ item.deadline := by
  have least := (arranged.bounded j).le_min_iff.mp le
  rcases Nat.eq_or_lt_of_le lt with rfl | lt
  · exact least item isIn
  · have filled := arranged.filled_of_le lt.le (List.ne_nil_of_mem isIn)
    obtain ⟨some, isSome⟩ := List.exists_mem_of_ne_nil _ filled
    exact (least some isSome).trans (arranged.ordered j k lt some isSome item isIn)

/-- A deadline within a bucket is before all later buckets. -/
theorem le_of_le_max (arranged : Arranged ring cursor) (lt : j < k)
    (le : deadline ≤ (ring j).maxDeadline) {item : TItem Time T} (isIn : item ∈ (ring k).items) :
    deadline ≤ item.deadline := by
  apply le.trans
  apply (arranged.bounded j).max_le_iff.mpr
  intro earlier isEarlier
  exact arranged.ordered j k lt earlier isEarlier item isIn

end Arranged

/-- The bucket that one turn of `ComputeBucket` decides for. -/
def ringChoice (ring : Nat → TBucket Time T) (count limit : Nat) (deadline : Time)
    (i : Nat) : Option Nat :=
  if deadline ≤ (ring i).maxDeadline then
    some i
  else if deadline ≤ (ring ((i + 1) % count)).minDeadline then
    if (ring i).size ≥ limit then some ((i + 1) % count) else some i
  else
    none

omit [BoundedOrder Time] in
theorem ringChoice_eq_none {ring : Nat → TBucket Time T} {count limit : Nat} {deadline : Time}
    {i : Nat} (passes : ringChoice ring count limit deadline i = none) :
    (ring i).maxDeadline < deadline ∧ (ring ((i + 1) % count)).minDeadline < deadline := by
  unfold ringChoice at passes
  split at passes
  · cases passes
  · split at passes
    · split at passes <;> cases passes
    · rename_i above aboveNext
      exact ⟨not_le.mp above, not_le.mp aboveNext⟩

/-- The first index of a range at which a search succeeds. -/
theorem exists_of_findSome?_range {α : Type} {f : Nat → Option α} {count : Nat} {found : α}
    (finds : (List.range count).findSome? f = some found) :
    ∃ i, i < count ∧ f i = some found ∧ ∀ j, j < i → f j = none := by
  induction count with
  | zero =>
    cases finds
  | succ count ih =>
    rw [List.range_succ, List.findSome?_append] at finds
    cases earlier : (List.range count).findSome? f with
    | some first =>
      rw [earlier] at finds
      obtain ⟨i, lt, rest⟩ := ih (earlier.trans finds)
      exact ⟨i, lt.trans (Nat.lt_succ_self count), rest⟩
    | none =>
      have here : f count = some found := by
        simpa [earlier] using finds
      have none := List.findSome?_eq_none_iff.mp earlier
      exact ⟨count, Nat.lt_succ_self count, here,
          fun j lt => none j (List.mem_range.mpr lt)⟩

section

variable {ring : Nat → TBucket Time T} {cursor count limit : Nat}
variable {deadline : Time}

variable {i : Nat}

/-- The buckets that were passed are filled and before the deadline. -/
theorem Arranged.passed (arranged : Arranged ring cursor) (inRange : i < count)
    (passes : ∀ j, j < i → ringChoice ring count limit deadline j = none) :
    (∀ j, j < i → ∀ item ∈ (ring j).items, item.deadline ≤ deadline) ∧
      ∀ j, j < i → (ring j).items ≠ [] := by
  constructor
  · intro j lt
    exact (arranged.bounded j).max_le_iff.mp (ringChoice_eq_none (passes j lt)).1.le
  · intro j lt
    have filled : (ring (j + 1)).items ≠ [] := by
      have below := (ringChoice_eq_none (passes j lt)).2
      rw [Nat.mod_eq_of_lt (by omega)] at below
      exact arranged.filled_of_min_lt below
    exact arranged.filled_of_le (Nat.le_succ j) filled

/-- The search does not come round to the current bucket. -/
theorem Arranged.not_round (arranged : Arranged ring cursor) (two : 2 ≤ count)
    (last : i + 1 = count) (passes : ∀ j, j < i → ringChoice ring count limit deadline j = none) :
    ¬deadline ≤ (ring 0).minDeadline := by
  intro below
  have notFirst : 0 < i := by omega
  obtain ⟨before, joined⟩ := arranged.passed (by omega) passes
  obtain ⟨item, isIn⟩ := List.exists_mem_of_ne_nil _ (joined 0 notFirst)
  have above := (ringChoice_eq_none (passes 0 notFirst)).1
  have least := (arranged.bounded 0).le_min_iff.mp below item isIn
  have greatest := (arranged.bounded 0).max_le_iff.mp le_rfl item isIn
  exact absurd (least.trans greatest) (not_le.mpr above)

/-- One turn decides for a bucket that the deadline belongs to. -/
theorem Arranged.fits_ringChoice (arranged : Arranged ring cursor) (two : 2 ≤ count)
    (positive : 1 ≤ limit) {offset : Nat} (inRange : i < count)
    (passes : ∀ j, j < i → ringChoice ring count limit deadline j = none)
    (decides : ringChoice ring count limit deadline i = some offset)
    (beyond : ∀ k, count ≤ k → ring k = .clear) : offset < count ∧ Fits ring offset deadline := by
  obtain ⟨before, joined⟩ := arranged.passed inRange passes
  unfold ringChoice at decides
  split at decides
  · -- The deadline lies within the bucket.
    rename_i within
    obtain rfl := Option.some.inj decides
    refine ⟨inRange, before, ?_, joined⟩
    intro j lt item isIn
    exact arranged.le_of_le_max lt within isIn
  · rename_i above
    split at decides
    · rename_i belowNext
      have next (lt : i + 1 < count) : deadline ≤ (ring (i + 1)).minDeadline := by
        rw [Nat.mod_eq_of_lt lt] at belowNext
        exact belowNext
      split at decides
      · -- The bucket is full, and the deadline opens the next one.
        rename_i full
        obtain rfl := Option.some.inj decides
        have filled : (ring i).items ≠ [] := by
          intro empty
          simp only [TBucket.size, empty, List.length_nil] at full
          omega
        have lt : i + 1 < count := by
          by_contra last
          have last : i + 1 = count := by omega
          rw [last, Nat.mod_self] at belowNext
          exact arranged.not_round two last passes belowNext
        rw [Nat.mod_eq_of_lt lt]
        refine ⟨lt, ?_, ?_, ?_⟩
        · intro j le
          rcases Nat.lt_succ_iff_lt_or_eq.mp le with lt | rfl
          · exact before j lt
          · exact (arranged.bounded j).max_le_iff.mp (not_le.mp above).le
        · intro j lt' item isIn
          exact arranged.le_of_le_min lt'.le (next lt) isIn
        · intro j le
          rcases Nat.lt_succ_iff_lt_or_eq.mp le with lt | rfl
          · exact joined j lt
          · exact filled
      · obtain rfl := Option.some.inj decides
        refine ⟨inRange, before, ?_, joined⟩
        intro j lt item isIn
        by_cases last : i + 1 < count
        · exact arranged.le_of_le_min lt (next last) isIn
        · rw [beyond j (by omega)] at isIn
          cases isIn
    · cases decides

/-- The bucket that `ComputeBucket` chooses, counted from the current one. -/
def ringSearch (ring : Nat → TBucket Time T) (count limit : Nat) (deadline : Time) : Nat :=
  ((List.range count).findSome? (ringChoice ring count limit deadline)).getD (count - 1)

/-- A deadline is put where it belongs. -/
theorem Arranged.fits_ringSearch (arranged : Arranged ring cursor) (two : 2 ≤ count)
    (positive : 1 ≤ limit) (beyond : ∀ k, count ≤ k → ring k = .clear) (deadline : Time) :
    ringSearch ring count limit deadline < count ∧
      Fits ring (ringSearch ring count limit deadline) deadline := by
  unfold ringSearch
  cases search : (List.range count).findSome? (ringChoice ring count limit deadline) with
  | some offset =>
    obtain ⟨i, inRange, decides, passes⟩ := exists_of_findSome?_range search
    exact arranged.fits_ringChoice two positive inRange passes decides beyond
  | none =>
    -- The deadline is after everything and goes to the last bucket.
    have passes (j : Nat) (lt : j < count) :=
      List.findSome?_eq_none_iff.mp search j (List.mem_range.mpr lt)
    obtain ⟨before, joined⟩ :=
      arranged.passed (i := count - 1) (by omega)
        fun j lt => passes j (by omega)
    refine ⟨?_, before, ?_, joined⟩
    · simp only [Option.getD_none]
      omega
    · intro j lt item isIn
      simp only [Option.getD_none] at lt
      rw [beyond j (by omega)] at isIn
      cases isIn

end

namespace Arranged

variable {ring : Nat → TBucket Time T} {cursor : Nat}

theorem clear : Arranged (fun _ => (.clear : TBucket Time T)) 0 where
  bounded _ := TBucket.bounded_clear
  inRange := le_rfl
  frontAscends := List.Pairwise.nil
  flagged _ _ _ := List.Pairwise.nil
  ordered _ _ _ _ isIn := nomatch isIn
  contiguous _ _ := rfl

theorem insert (arranged : Arranged ring cursor) {offset : Nat} {item : TItem Time T}
    (fits : Fits ring offset item.deadline) {bucket : TBucket Time T}
    (perm : bucket.items.Perm (item :: (ring offset).items)) (bounded : bucket.Bounded)
    (front : offset = 0 → cursor ≤ bucket.items.length ∧ Ascends (bucket.items.drop cursor))
    (flagged : 0 < offset → bucket.Flagged) :
    Arranged (Function.update ring offset bucket) cursor where
  bounded k := by
    by_cases same : k = offset
    · subst same
      simpa using bounded
    · simpa [same] using arranged.bounded k
  inRange := by
    by_cases same : 0 = offset
    · subst same
      simpa using (front rfl).1
    · simpa [same] using arranged.inRange
  frontAscends := by
    by_cases same : 0 = offset
    · subst same
      simpa using (front rfl).2
    · simpa [same] using arranged.frontAscends
  flagged k positive := by
    by_cases same : k = offset
    · subst same
      simpa using flagged positive
    · simpa [same] using arranged.flagged k positive
  ordered j k lt first isFirst second isSecond := by
    by_cases sameJ : j = offset
    · subst sameJ
      simp only [Function.update_self, Function.update_of_ne (Nat.ne_of_gt lt)]
        at isFirst isSecond
      rcases List.mem_cons.mp (perm.mem_iff.mp isFirst) with rfl | isFirst
      · exact fits.after k lt second isSecond
      · exact arranged.ordered j k lt first isFirst second isSecond
    · rw [Function.update_of_ne sameJ] at isFirst
      by_cases sameK : k = offset
      · subst sameK
        rw [Function.update_self] at isSecond
        rcases List.mem_cons.mp (perm.mem_iff.mp isSecond) with rfl | isSecond
        · exact fits.before j lt first isFirst
        · exact arranged.ordered j k lt first isFirst second isSecond
      · rw [Function.update_of_ne sameK] at isSecond
        exact arranged.ordered j k lt first isFirst second isSecond
  contiguous k empty := by
    by_cases same : k = offset
    · subst same
      rw [Function.update_self] at empty
      exact absurd (empty ▸ perm) (by simp)
    · rw [Function.update_of_ne same] at empty
      by_cases next : k + 1 = offset
      · exact absurd empty (fits.joined k (by omega))
      · rw [Function.update_of_ne next]
        exact arranged.contiguous k empty

/-- The bucket that an item is added to, with the item. -/
def joined (ring : Nat → TBucket Time T) (cursor offset : Nat)
    (item : TItem Time T) : TBucket Time T :=
  if offset = 0 then
    (ring offset).addSorted item cursor
  else
    (ring offset).addBack item

theorem join (arranged : Arranged ring cursor) {offset : Nat} {item : TItem Time T}
    (fits : Fits ring offset item.deadline) :
    Arranged (Function.update ring offset (joined ring cursor offset item)) cursor := by
  cases offset with
  | zero =>
    have perm := (ring 0).perm_addSorted item cursor
    apply arranged.insert fits perm
    · exact TBucket.bounded_addSorted (arranged.bounded 0) item cursor
    · intro _
      refine ⟨?_, ?_⟩
      · exact arranged.inRange.trans ((Nat.le_succ _).trans_eq perm.length_eq.symm)
      · exact (TBucket.drop_addSorted (arranged.bounded 0) arranged.inRange
          arranged.frontAscends item).2
    · intro positive
      cases positive
  | succ offset =>
    apply arranged.insert fits (TBucket.perm_addBack item)
    · exact TBucket.bounded_addBack (arranged.bounded (offset + 1)) item
    · intro first
      cases first
    · intro positive
      exact TBucket.flagged_addBack (arranged.flagged (offset + 1) positive) item

theorem consume (arranged : Arranged ring cursor) (left : cursor < (ring 0).items.length) :
    Arranged ring (cursor + 1) where
  bounded := arranged.bounded
  inRange := left
  frontAscends := by
    rw [← List.tail_drop]
    exact arranged.frontAscends.tail
  flagged := arranged.flagged
  ordered := arranged.ordered
  contiguous := arranged.contiguous

/-- The ring after `Advance`. -/
def advanced (std : StdSort Time T) (ring : Nat → TBucket Time T) : Nat → TBucket Time T :=
  Function.update (fun k => ring (k + 1)) 0 ((ring 1).sort std)

omit [BoundedOrder Time] in
theorem perm_advanced (std : StdSort Time T) (ring : Nat → TBucket Time T) (k : Nat) :
    (advanced std ring k).items.Perm (ring (k + 1)).items := by
  cases k with
  | zero =>
    exact (ring 1).perm_sort std
  | succ k =>
    exact .refl _

theorem advance (arranged : Arranged ring cursor) (std : StdSort Time T) :
    Arranged (advanced std ring) 0 where
  bounded k := by
    cases k with
    | zero =>
      exact TBucket.bounded_sort std (arranged.bounded 1)
    | succ k =>
      exact arranged.bounded (k + 2)
  inRange := Nat.zero_le _
  frontAscends := TBucket.ascends_sort std (arranged.flagged 1 Nat.one_pos)
  flagged k positive := by
    cases k with
    | zero =>
      cases positive
    | succ k =>
      exact arranged.flagged (k + 2) (Nat.succ_pos _)
  ordered j k lt first isFirst second isSecond := by
    rw [(perm_advanced std ring j).mem_iff] at isFirst
    rw [(perm_advanced std ring k).mem_iff] at isSecond
    exact arranged.ordered (j + 1) (k + 1) (Nat.succ_lt_succ lt) first isFirst second isSecond
  contiguous k empty := by
    have before : (ring (k + 1)).items = [] := by
      have perm := perm_advanced std ring k
      rw [empty] at perm
      exact perm.nil_eq.symm
    have after := arranged.contiguous (k + 1) before
    have perm := perm_advanced std ring (k + 1)
    rw [after] at perm
    exact perm.eq_nil

end Arranged

/-- The items of a bucket that are not consumed. -/
def remaining (ring : Nat → TBucket Time T) (cursor : Nat) : Nat → List (TItem Time T)
  | 0 => (ring 0).items.drop cursor
  | k + 1 => (ring (k + 1)).items

/-- All items that are not consumed. -/
def stored (ring : Nat → TBucket Time T) (cursor count : Nat) : Multiset (TItem Time T) :=
  ∑ k ∈ Finset.range count, (remaining ring cursor k : Multiset (TItem Time T))

section

variable {ring : Nat → TBucket Time T} {cursor count : Nat}
variable {item : TItem Time T}

omit [LinearOrder Time] [BoundedOrder Time] in
theorem mem_stored :
    item ∈ stored ring cursor count ↔ ∃ k, k < count ∧ item ∈ remaining ring cursor k := by
  simp [stored, Multiset.mem_sum]

variable {offset : Nat}

omit [LinearOrder Time] [BoundedOrder Time] in
theorem remaining_update_of_ne {k : Nat} (bucket : TBucket Time T) (different : k ≠ offset) :
    remaining (Function.update ring offset bucket) cursor k = remaining ring cursor k := by
  cases k with
  | zero =>
    simp [remaining, Function.update_of_ne different]
  | succ k =>
    simp [remaining, Function.update_of_ne different]

omit [LinearOrder Time] [BoundedOrder Time] in
theorem stored_insert {bucket : TBucket Time T} (inRange : offset < count)
    (perm : (remaining (Function.update ring offset bucket) cursor offset).Perm
      (item :: remaining ring cursor offset)) :
    stored (Function.update ring offset bucket) cursor count =
      item ::ₘ stored ring cursor count := by
  have isIn := Finset.mem_range.mpr inRange
  have others : ∑ k ∈ (Finset.range count).erase offset,
      (remaining (Function.update ring offset bucket) cursor k : Multiset (TItem Time T)) =
      ∑ k ∈ (Finset.range count).erase offset,
      (remaining ring cursor k : Multiset (TItem Time T)) := by
    apply Finset.sum_congr rfl
    intro k isOther
    rw [remaining_update_of_ne bucket (Finset.ne_of_mem_erase isOther)]
  unfold stored
  rw [← Finset.add_sum_erase _ _ isIn, others, Multiset.coe_eq_coe.mpr perm,
    ← Finset.add_sum_erase _ _ isIn, ← Multiset.cons_coe, Multiset.cons_add]

theorem Arranged.stored_join (arranged : Arranged ring cursor) (inRange : offset < count)
    (item : TItem Time T) :
    stored (Function.update ring offset (Arranged.joined ring cursor offset item)) cursor count =
      item ::ₘ stored ring cursor count := by
  apply stored_insert inRange
  cases offset with
  | zero =>
    simp only [remaining, Function.update_self]
    exact (TBucket.drop_addSorted (arranged.bounded 0) arranged.inRange
      arranged.frontAscends item).1
  | succ offset =>
    simp only [remaining, Function.update_self]
    exact TBucket.perm_addBack item

omit [LinearOrder Time] [BoundedOrder Time] in
/-- The item at the cursor is not stored any more. -/
theorem stored_consume {rest : List (TItem Time T)} (positive : 0 < count)
    (front : (ring 0).items.drop cursor = item :: rest) :
    stored ring cursor count = item ::ₘ stored ring (cursor + 1) count := by
  have next : (ring 0).items.drop (cursor + 1) = rest := by
    rw [← List.tail_drop, front]
    rfl
  obtain ⟨others, rfl⟩ := Nat.exists_eq_succ_of_ne_zero positive.ne'
  unfold stored
  rw [Finset.sum_range_succ', Finset.sum_range_succ']
  simp only [remaining, front, next, ← Multiset.cons_coe]
  rw [Multiset.add_cons]

omit [BoundedOrder Time] in
/-- Nothing is lost or added when the consumed bucket is given up. -/
theorem stored_advanced (std : StdSort Time T) (positive : 0 < count)
    (exhausted : (ring 0).items.drop cursor = []) (beyond : (ring count).items = []) :
    stored (Arranged.advanced std ring) 0 count = stored ring cursor count := by
  have moved (k : Nat) : (remaining (Arranged.advanced std ring) 0 k : Multiset (TItem Time T)) =
      remaining ring cursor (k + 1) := by
    apply Multiset.coe_eq_coe.mpr
    cases k with
    | zero =>
      exact Arranged.perm_advanced std ring 0
    | succ k =>
      exact .refl _
  obtain ⟨others, rfl⟩ := Nat.exists_eq_succ_of_ne_zero positive.ne'
  have first : remaining ring cursor 0 = [] := exhausted
  have last : remaining ring cursor (others + 1) = [] := beyond
  unfold stored
  rw [Finset.sum_congr rfl fun k _ => moved k, Finset.sum_range_succ, last,
    Finset.sum_range_succ' (fun k =>
      (remaining ring cursor k : Multiset (TItem Time T))), first]

/-- The item at the cursor comes before all that are stored. -/
theorem Arranged.front_least (arranged : Arranged ring cursor) {rest : List (TItem Time T)}
    (front : (ring 0).items.drop cursor = item :: rest) {other : TItem Time T}
    (isStored : other ∈ stored ring cursor count) : item.deadline ≤ other.deadline := by
  obtain ⟨k, _, isIn⟩ := mem_stored.mp isStored
  cases k with
  | zero =>
    have ascends := arranged.frontAscends
    simp only [remaining] at isIn
    rw [front] at ascends isIn
    rcases List.mem_cons.mp isIn with rfl | isIn
    · exact le_rfl
    · exact (List.pairwise_cons.mp ascends).1 other isIn
  | succ k =>
    have isFront : item ∈ (ring 0).items := by
      apply List.mem_of_mem_drop (i := cursor)
      rw [front]
      exact List.mem_cons_self
    exact arranged.ordered 0 (k + 1) (Nat.succ_pos k) item isFront other isIn

/-- When the current bucket is consumed, the next one is filled. -/
theorem Arranged.next_filled (arranged : Arranged ring cursor)
    (exhausted : (ring 0).items.drop cursor = []) (isStored : item ∈ stored ring cursor count) :
    (ring 1).items ≠ [] := by
  obtain ⟨k, _, isIn⟩ := mem_stored.mp isStored
  cases k with
  | zero =>
    simp only [remaining] at isIn
    rw [exhausted] at isIn
    cases isIn
  | succ k =>
    exact arranged.filled_of_le (Nat.succ_le_succ (Nat.zero_le k)) (List.ne_nil_of_mem isIn)

/-- The least deadline is then that of the next bucket. -/
theorem Arranged.inf_eq_next (arranged : Arranged ring cursor) (two : 2 ≤ count)
    (exhausted : (ring 0).items.drop cursor = []) :
    ((stored ring cursor count).map TItem.deadline).inf = (ring 1).minDeadline := by
  apply le_antisymm
  · apply (arranged.bounded 1).le_min_iff.mpr
    intro item isIn
    have isStored : item ∈ stored ring cursor count := mem_stored.mpr ⟨1, two, isIn⟩
    exact Multiset.inf_le (Multiset.mem_map_of_mem TItem.deadline isStored)
  · apply Multiset.le_inf.mpr
    intro deadline isDeadline
    obtain ⟨item, isStored, rfl⟩ := Multiset.mem_map.mp isDeadline
    obtain ⟨k, _, isIn⟩ := mem_stored.mp isStored
    cases k with
    | zero =>
      simp only [remaining] at isIn
      rw [exhausted] at isIn
      cases isIn
    | succ k =>
      exact arranged.le_of_le_min (Nat.succ_le_succ (Nat.zero_le k)) le_rfl isIn

end

end PortableTpcc
