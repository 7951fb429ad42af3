import PortableTpcc.TimerQueueRing

namespace PortableTpcc

/-!
# The timer queue is a priority queue

Each operation of the queue is an operation on its ring.  The arrangement of
the ring is kept, `Validate` accepts it, and every answer is one that the
multiset of the stored items permits.
-/

theorem eq_of_add_mod_eq {count shift i j : Nat} (inRangeI : i < count) (inRangeJ : j < count)
    (same : (i + shift) % count = (j + shift) % count) : i = j := by
  have congruent := Nat.ModEq.add_right_cancel' shift same
  unfold Nat.ModEq at congruent
  rwa [Nat.mod_eq_of_lt inRangeI, Nat.mod_eq_of_lt inRangeJ] at congruent

theorem exists_add_mod_eq {count shift index : Nat} (isShift : shift < count)
    (inRange : index < count) : ∃ k, k < count ∧ (k + shift) % count = index := by
  by_cases le : shift ≤ index
  · refine ⟨index - shift, by omega, ?_⟩
    rw [Nat.sub_add_cancel le, Nat.mod_eq_of_lt inRange]
  · refine ⟨index + count - shift, by omega, ?_⟩
    rw [Nat.sub_add_cancel (by omega), Nat.add_mod_right, Nat.mod_eq_of_lt inRange]

theorem findSome?_congr {α β : Type} {f g : α → Option β} {items : List α}
    (same : ∀ item ∈ items, f item = g item) : items.findSome? f = items.findSome? g := by
  induction items with
  | nil =>
    rfl
  | cons first rest ih =>
    rw [List.findSome?_cons, List.findSome?_cons, same first List.mem_cons_self,
      ih fun item isIn => same item (List.mem_cons_of_mem first isIn)]

variable {Time T : Type} [LinearOrder Time] [BoundedOrder Time]

/-- These buckets, counted from one of them. -/
def ringFrom (buckets : List (TBucket Time T)) (start offset : Nat) : TBucket Time T :=
  if offset < buckets.length then
    buckets.getD ((offset + start) % buckets.length) .clear
  else
    .clear

section

variable {buckets : List (TBucket Time T)} {start : Nat}

theorem ringFrom_of_lt {k : Nat} (lt : k < buckets.length) :
    ringFrom buckets start k = buckets.getD ((k + start) % buckets.length) .clear :=
  if_pos lt

theorem ringFrom_of_le {k : Nat} (le : buckets.length ≤ k) : ringFrom buckets start k = .clear :=
  if_neg (Nat.not_lt.mpr le)

theorem getD_set {index : Nat} (inRange : index < buckets.length) (bucket : TBucket Time T)
    (other : Nat) :
    (buckets.set index bucket).getD other .clear =
      if other = index then bucket else buckets.getD other .clear := by
  rw [List.getD_eq_getElem?_getD, List.getElem?_set]
  by_cases same : index = other
  · subst same
    simp [inRange]
  · simp [same, Ne.symm same]

theorem ringFrom_set {offset index : Nat} (inRange : offset < buckets.length)
    (isIndex : (offset + start) % buckets.length = index) (bucket : TBucket Time T) :
    ringFrom (buckets.set index bucket) start =
      Function.update (ringFrom buckets start) offset bucket := by
  subst isIndex
  funext k
  have inList : (offset + start) % buckets.length < buckets.length :=
    Nat.mod_lt _ (Nat.zero_lt_of_lt inRange)
  by_cases lt : k < buckets.length
  · rw [ringFrom_of_lt (by simpa using lt), getD_set inList, List.length_set]
    by_cases same : k = offset
    · simp [same]
    · have different : (k + start) % buckets.length ≠ (offset + start) % buckets.length :=
        fun equal => same (eq_of_add_mod_eq lt inRange equal)
      rw [if_neg different, Function.update_of_ne same, ringFrom_of_lt lt]
  · have different : k ≠ offset := by
      intro same
      exact lt (same ▸ inRange)
    have le : buckets.length ≤ k := Nat.not_lt.mp lt
    rw [Function.update_of_ne different, ringFrom_of_le le, ringFrom_of_le (by simpa using le)]

/-- The first bucket of the ring is cleared and comes last. -/
theorem ringFrom_advance (isStart : start < buckets.length) (k : Nat) :
    ringFrom (buckets.set start .clear) ((start + 1) % buckets.length) k =
      ringFrom buckets start (k + 1) := by
  have shifted : (k + (start + 1) % buckets.length) % buckets.length =
      (k + 1 + start) % buckets.length := by
    rw [Nat.add_mod_mod, Nat.add_assoc, Nat.add_comm 1 start]
  by_cases lt : k < buckets.length
  · rw [ringFrom_of_lt (by simpa using lt), List.length_set, shifted, getD_set isStart]
    by_cases last : k + 1 < buckets.length
    · have different : (k + 1 + start) % buckets.length ≠ start := by
        intro same
        have atStart : (0 + start) % buckets.length = start := by
          rw [Nat.zero_add, Nat.mod_eq_of_lt isStart]
        have := eq_of_add_mod_eq last (Nat.zero_lt_of_lt lt) (same.trans atStart.symm)
        omega
      rw [if_neg different, ringFrom_of_lt last]
    · have atStart : (k + 1 + start) % buckets.length = start := by
        have length : k + 1 = buckets.length := by omega
        rw [length, Nat.add_mod_left, Nat.mod_eq_of_lt isStart]
      rw [if_pos atStart, ringFrom_of_le (Nat.not_lt.mp last)]
  · have le : buckets.length ≤ k := Nat.not_lt.mp lt
    rw [ringFrom_of_le (by simpa using le), ringFrom_of_le (by omega)]

end

namespace TBinnedTimerQueue

variable (queue : TBinnedTimerQueue Time T)

/-- The buckets counted from the current one. -/
def ring : Nat → TBucket Time T :=
  ringFrom queue.buckets queue.currentBucket

/-- The items that were added and not popped. -/
def contents : Multiset (TItem Time T) :=
  stored queue.ring queue.currentCursor queue.bucketCount

/-- The buckets of the queue lie as they should. -/
structure Shaped : Prop where
  two : 2 ≤ queue.bucketCount
  inRing : queue.currentBucket < queue.bucketCount
  limited : 1 ≤ queue.bucketSoftLimit
  arranged : Arranged queue.ring queue.currentCursor

/-- What holds of the queue between two calls. -/
structure Sound : Prop extends Shaped queue where
  counted : queue.size = Multiset.card queue.contents

variable {queue}

variable {k : Nat}

theorem ring_of_le (le : queue.bucketCount ≤ k) : queue.ring k = .clear :=
  ringFrom_of_le le

theorem bucket_ring (lt : k < queue.bucketCount) :
    queue.bucket ((k + queue.currentBucket) % queue.bucketCount) = queue.ring k :=
  (ringFrom_of_lt lt).symm

theorem Shaped.positive (shaped : queue.Shaped) : 0 < queue.bucketCount :=
  Nat.zero_lt_of_lt shaped.inRing

theorem Shaped.ring_zero (shaped : queue.Shaped) : queue.ring 0 = queue.current := by
  rw [← bucket_ring shaped.positive, Nat.zero_add, Nat.mod_eq_of_lt shaped.inRing]
  rfl

theorem considerBucket_eq (deadline : Time) {i : Nat} (lt : i < queue.bucketCount) :
    queue.considerBucket deadline i =
      (ringChoice queue.ring queue.bucketCount queue.bucketSoftLimit deadline
      i).map fun k => (k + queue.currentBucket) % queue.bucketCount := by
  have positive : 0 < queue.bucketCount := Nat.zero_lt_of_lt lt
  have next : ((i + queue.currentBucket) % queue.bucketCount + 1) % queue.bucketCount =
      ((i + 1) % queue.bucketCount + queue.currentBucket) %
          queue.bucketCount := by
    rw [Nat.mod_add_mod, Nat.mod_add_mod, Nat.add_right_comm]
  unfold considerBucket ringChoice
  dsimp only
  rw [next, bucket_ring lt, bucket_ring (Nat.mod_lt _ positive)]
  split_ifs <;> rfl

/-- The search in the buckets is a search in the ring. -/
theorem computeBucket_eq (positive : 0 < queue.bucketCount) (deadline : Time) :
    queue.computeBucket deadline =
      (ringSearch queue.ring queue.bucketCount queue.bucketSoftLimit deadline +
      queue.currentBucket) % queue.bucketCount := by
  have turns : (List.range queue.bucketCount).findSome? (queue.considerBucket deadline) =
      ((List.range queue.bucketCount).findSome?
      (ringChoice queue.ring queue.bucketCount queue.bucketSoftLimit deadline)).map
          fun k => (k + queue.currentBucket) % queue.bucketCount := by
    rw [List.map_findSome?]
    apply findSome?_congr
    intro i isIn
    exact considerBucket_eq deadline (List.mem_range.mp isIn)
  unfold computeBucket ringSearch
  rw [turns]
  cases (List.range queue.bucketCount).findSome?
      (ringChoice queue.ring queue.bucketCount queue.bucketSoftLimit deadline) with
  | some offset =>
    rfl
  | none =>
    have last : queue.currentBucket + queue.bucketCount - 1 =
        queue.bucketCount - 1 + queue.currentBucket := by
      omega
    simp only [Option.map_none, Option.getD_none, last]

theorem Shaped.ring_add (shaped : queue.Shaped) {deadline : Time} {offset : Nat}
    (lt : offset < queue.bucketCount)
    (computes : queue.computeBucket deadline = (offset + queue.currentBucket) % queue.bucketCount)
    (value : T) : (queue.add deadline value).ring = Function.update queue.ring offset
      (Arranged.joined queue.ring queue.currentCursor offset ⟨deadline, value⟩) := by
  have isCurrent : (offset + queue.currentBucket) % queue.bucketCount = queue.currentBucket ↔
      offset = 0 := by
    have atStart : (0 + queue.currentBucket) % queue.bucketCount = queue.currentBucket := by
      rw [Nat.zero_add, Nat.mod_eq_of_lt shaped.inRing]
    constructor
    · intro same
      exact eq_of_add_mod_eq lt shaped.positive (same.trans atStart.symm)
    · intro first
      rw [first, atStart]
  unfold add Arranged.joined
  simp only [computes, bucket_ring lt, ← isCurrent]
  exact ringFrom_set lt rfl _

/-- `Add` adds one item. -/
theorem Sound.add (sound : queue.Sound) (deadline : Time) (value : T) :
    (queue.add deadline value).Sound ∧ (queue.add deadline value).contents =
      ⟨deadline, value⟩ ::ₘ queue.contents := by
  have shaped := sound.toShaped
  obtain ⟨lt, fits⟩ :=
    shaped.arranged.fits_ringSearch shaped.two shaped.limited (fun _ le => ring_of_le le) deadline
  have ring := shaped.ring_add lt (computeBucket_eq shaped.positive deadline) value
  have sameCount : (queue.add deadline value).bucketCount = queue.bucketCount := List.length_set
  generalize ringSearch queue.ring queue.bucketCount queue.bucketSoftLimit deadline =
    offset at lt fits ring
  have arranged : Arranged (queue.add deadline value).ring queue.currentCursor := by
    rw [ring]
    exact shaped.arranged.join fits
  have contents : (queue.add deadline value).contents = ⟨deadline, value⟩ ::ₘ queue.contents := by
    unfold contents
    rw [sameCount, ring]
    exact shaped.arranged.stored_join lt ⟨deadline, value⟩
  refine ⟨⟨⟨?_, ?_, shaped.limited, arranged⟩, ?_⟩, contents⟩
  · rw [sameCount]
    exact shaped.two
  · rw [sameCount]
    exact shaped.inRing
  · rw [contents, Multiset.card_cons, ← sound.counted]
    rfl

theorem Shaped.take (shaped : queue.Shaped) {item : TItem Time T}
    {rest : TBinnedTimerQueue Time T} (takes : queue.takeCurrent = some (item, rest)) :
    rest.Shaped ∧ rest.size = queue.size ∧ queue.contents = item ::ₘ rest.contents ∧
      ∀ other ∈ queue.contents, item.deadline ≤ other.deadline := by
  obtain ⟨found, atCursor, taken⟩ := Option.map_eq_some_iff.mp takes
  obtain ⟨rfl, rfl⟩ := Prod.mk.inj taken
  rw [← shaped.ring_zero] at atCursor
  obtain ⟨left, isItem⟩ := List.getElem?_eq_some_iff.mp atCursor
  have front := List.drop_eq_getElem_cons left
  rw [isItem] at front
  refine ⟨⟨shaped.two, shaped.inRing, shaped.limited, ?_⟩, rfl, ?_, ?_⟩
  · exact shaped.arranged.consume left
  · exact stored_consume shaped.positive front
  · intro other isStored
    exact shaped.arranged.front_least front isStored

theorem Shaped.exhausted (shaped : queue.Shaped) (takes : queue.takeCurrent = none) :
    (queue.ring 0).items.drop queue.currentCursor = [] := by
  have atCursor := Option.map_eq_none_iff.mp takes
  rw [← shaped.ring_zero] at atCursor
  exact List.drop_eq_nil_iff.mpr (List.getElem?_eq_none_iff.mp atCursor)

theorem Shaped.exists_take (shaped : queue.Shaped)
    (left : (queue.ring 0).items.drop queue.currentCursor ≠ []) :
    ∃ taken, queue.takeCurrent = some taken := by
  cases takes : queue.takeCurrent with
  | some taken =>
    exact ⟨taken, rfl⟩
  | none =>
    exact absurd (shaped.exhausted takes) left

theorem Shaped.ring_advance (shaped : queue.Shaped) (std : StdSort Time T) :
    (queue.advance std).ring = Arranged.advanced std queue.ring := by
  let cleared := queue.buckets.set queue.currentBucket .clear
  let next := (queue.currentBucket + 1) % queue.bucketCount
  have length : cleared.length = queue.bucketCount := List.length_set
  have isNext : (0 + next) % cleared.length = next := by
    rw [length, Nat.zero_add]
    exact Nat.mod_mod _ _
  have positive : 0 < cleared.length := length ▸ shaped.positive
  have shifted : ringFrom cleared next = fun k => queue.ring (k + 1) :=
    funext fun k => ringFrom_advance shaped.inRing k
  have first : cleared.getD next .clear = queue.ring 1 := by
    rw [← congrFun shifted 0, ringFrom_of_lt positive, isNext]
  change ringFrom (cleared.set next ((cleared.getD next .clear).sort std)) next = _
  rw [ringFrom_set positive isNext, shifted, first]
  rfl

/-- The current bucket is given up when it is consumed. -/
theorem Shaped.advance (shaped : queue.Shaped) (std : StdSort Time T)
    (exhausted : (queue.ring 0).items.drop queue.currentCursor = []) :
    (queue.advance std).Shaped ∧ (queue.advance std).contents = queue.contents := by
  have sameCount : (queue.advance std).bucketCount = queue.bucketCount := by
    simp [TBinnedTimerQueue.advance, bucketCount]
  have ring := shaped.ring_advance std
  refine ⟨⟨?_, ?_, shaped.limited, ?_⟩, ?_⟩
  · rw [sameCount]
    exact shaped.two
  · rw [sameCount]
    exact Nat.mod_lt _ shaped.positive
  · rw [ring]
    exact shaped.arranged.advance std
  · unfold contents
    rw [ring, sameCount]
    apply stored_advanced std shaped.positive exhausted
    rw [ring_of_le le_rfl]
    rfl

/-- The next bucket has an item when the current one is consumed. -/
theorem Shaped.advanceToItem (shaped : queue.Shaped) (std : StdSort Time T)
    (takes : queue.takeCurrent = none) (nonempty : queue.contents ≠ 0) :
    ∃ item rest, TBinnedTimerQueue.advanceToItem std queue.bucketCount queue = (.ok item, rest) ∧
      rest.Shaped ∧ rest.size = queue.size ∧ queue.contents = item ::ₘ rest.contents ∧
      ∀ other ∈ queue.contents, item.deadline ≤ other.deadline := by
  have exhausted := shaped.exhausted takes
  obtain ⟨advanced, same⟩ := shaped.advance std exhausted
  obtain ⟨_, isStored⟩ := Multiset.exists_mem_of_ne_zero nonempty
  have nextFilled := shaped.arranged.next_filled exhausted isStored
  have left : ((queue.advance std).ring 0).items.drop (queue.advance std).currentCursor ≠ [] := by
    rw [shaped.ring_advance std]
    intro empty
    have perm := Arranged.perm_advanced std queue.ring 0
    rw [show (Arranged.advanced std queue.ring 0).items = [] from empty] at perm
    exact nextFilled perm.nil_eq.symm
  obtain ⟨⟨item, rest⟩, takesNext⟩ := advanced.exists_take left
  obtain ⟨restShaped, size, contents, least⟩ := advanced.take takesNext
  rw [same] at contents least
  obtain ⟨others, count⟩ := Nat.exists_eq_succ_of_ne_zero shaped.positive.ne'
  refine ⟨item, rest, ?_, restShaped, size, contents, least⟩
  rw [count]
  simp only [TBinnedTimerQueue.advanceToItem, takesNext]

/-- `PopFront` takes an item that is due first. -/
theorem Sound.popFront (sound : queue.Sound) (std : StdSort Time T) (filled : queue.size ≠ 0) :
    ∃ item rest, queue.popFront std = (.ok item, rest) ∧ rest.Sound ∧
      queue.contents = item ::ₘ rest.contents ∧
      ∀ other ∈ queue.contents, item.deadline ≤ other.deadline := by
  have shaped : Shaped { queue with size := queue.size - 1 } :=
    ⟨sound.two, sound.inRing, sound.limited, sound.arranged⟩
  have counts {item : TItem Time T} {rest : TBinnedTimerQueue Time T}
      (size : rest.size = queue.size - 1) (contents : queue.contents = item ::ₘ rest.contents) :
      rest.size = Multiset.card rest.contents := by
    have counted := sound.counted
    rw [contents, Multiset.card_cons] at counted
    omega
  unfold TBinnedTimerQueue.popFront
  rw [if_neg filled]
  dsimp only
  cases takes : takeCurrent { queue with size := queue.size - 1 } with
  | some taken =>
    obtain ⟨item, rest⟩ := taken
    obtain ⟨restShaped, size, contents, least⟩ := shaped.take takes
    exact ⟨item, rest, rfl, ⟨restShaped, counts size contents⟩, contents, least⟩
  | none =>
    have nonempty : queue.contents ≠ 0 := by
      intro empty
      exact filled (by rw [sound.counted, empty, Multiset.card_zero])
    obtain ⟨item, rest, pops, restShaped, size, contents, least⟩ :=
      shaped.advanceToItem std takes nonempty
    exact ⟨item, rest, pops, ⟨restShaped, counts size contents⟩, contents, least⟩

theorem Sound.nonempty (sound : queue.Sound) (filled : queue.size ≠ 0) : queue.contents ≠ 0 := by
  intro empty
  exact filled (by rw [sound.counted, empty, Multiset.card_zero])

/-- The least deadline of the stored items is returned. -/
theorem Sound.getNextDeadline_eq (sound : queue.Sound) :
    queue.getNextDeadline = (queue.contents.map TItem.deadline).inf := by
  have shaped := sound.toShaped
  unfold getNextDeadline
  by_cases empty : queue.size = 0
  · have none : queue.contents = 0 := Multiset.card_eq_zero.mp (sound.counted ▸ empty)
    simp [empty, none]
  · rw [if_neg empty]
    cases atCursor : queue.current.items[queue.currentCursor]? with
    | some item =>
      obtain ⟨-, -, contents, least⟩ := shaped.take (by rw [takeCurrent, atCursor]; rfl)
      have isStored : item ∈ queue.contents := by
        rw [contents]
        exact Multiset.mem_cons_self _ _
      exact (PriorityQueue.inf_eq_of_least isStored least).symm
    | none =>
      have exhausted := shaped.exhausted (by rw [takeCurrent, atCursor]; rfl)
      obtain ⟨_, isStored⟩ := Multiset.exists_mem_of_ne_zero (sound.nonempty empty)
      have nextFilled := shaped.arranged.next_filled exhausted isStored
      have next : queue.bucket ((queue.currentBucket + 1) % queue.bucketCount) =
            queue.ring 1 := by
        rw [Nat.add_comm, bucket_ring shaped.two]
      obtain ⟨others, count⟩ := Nat.exists_eq_add_of_le shaped.two
      have turns : queue.bucketCount - 1 = others + 1 := by omega
      have found : (queue.ring 1).items.isEmpty = false := by
        simpa using nextFilled
      dsimp only
      rw [turns, List.range'_succ, List.findSome?_cons]
      simp only [next, found]
      exact (shaped.arranged.inf_eq_next shaped.two exhausted).symm

theorem Shaped.sizeAt_ring (shaped : queue.Shaped) (lt : k < queue.bucketCount) :
    queue.sizeAt ((k + queue.currentBucket) % queue.bucketCount) =
      (remaining queue.ring queue.currentCursor k).length := by
  have atStart : (0 + queue.currentBucket) % queue.bucketCount = queue.currentBucket := by
    rw [Nat.zero_add, Nat.mod_eq_of_lt shaped.inRing]
  unfold sizeAt
  rw [bucket_ring lt]
  cases k with
  | zero =>
    rw [if_pos atStart]
    exact List.length_drop.symm
  | succ k =>
    have different : (k + 1 + queue.currentBucket) % queue.bucketCount ≠
          queue.currentBucket := by
      intro same
      exact Nat.succ_ne_zero k (eq_of_add_mod_eq lt shaped.positive (same.trans atStart.symm))
    rw [if_neg different]
    rfl

/-- The sizes add up to the stored items, in whatever order they are taken. -/
theorem Shaped.sum_sizeAt (shaped : queue.Shaped) :
    ((List.range queue.bucketCount).map queue.sizeAt).sum = Multiset.card queue.contents := by
  have inOrder : ∑ index ∈ Finset.range queue.bucketCount, queue.sizeAt index =
      ∑ k ∈ Finset.range queue.bucketCount,
      queue.sizeAt ((k + queue.currentBucket) % queue.bucketCount) := by
    symm
    apply Finset.sum_nbij fun k => (k + queue.currentBucket) % queue.bucketCount
    · intro k _
      exact Finset.mem_range.mpr (Nat.mod_lt _ shaped.positive)
    · intro i isI j isJ same
      exact eq_of_add_mod_eq (Finset.mem_range.mp isI) (Finset.mem_range.mp isJ) same
    · intro index isIn
      obtain ⟨k, lt, same⟩ := exists_add_mod_eq shaped.inRing (Finset.mem_range.mp isIn)
      exact ⟨k, Finset.mem_coe.mpr (Finset.mem_range.mpr lt), same⟩
    · intro k _
      rfl
  change ∑ index ∈ Finset.range queue.bucketCount, queue.sizeAt index = _
  rw [inOrder, contents, stored, Multiset.card_sum]
  apply Finset.sum_congr rfl
  intro k isIn
  exact shaped.sizeAt_ring (Finset.mem_range.mp isIn)

/-- A sound queue passes its own check. -/
theorem Sound.validate (sound : queue.Sound) : queue.validate = true := by
  have shaped := sound.toShaped
  have ascends : ascending (queue.current.items.drop queue.currentCursor) = true := by
    rw [← shaped.ring_zero]
    exact ascending_of_ascends shaped.arranged.frontAscends
  have bounds (index : Nat) (inRange : index < queue.bucketCount) :
      (queue.bucket index).boundsMatch = true := by
    obtain ⟨k, lt, rfl⟩ := exists_add_mod_eq shaped.inRing inRange
    rw [bucket_ring lt]
    exact TBucket.boundsMatch_of_bounded (shaped.arranged.bounded k)
  have adjacent (offset : Nat) : (queue.ring offset).maxDeadline ≤
      (queue.ring (offset + 1)).minDeadline := by
    apply (shaped.arranged.bounded offset).max_le_iff.mpr
    intro item isIn
    apply (shaped.arranged.bounded (offset + 1)).le_min_iff.mpr
    exact shaped.arranged.ordered offset (offset + 1) (Nat.lt_succ_self offset) item isIn
  have sizes := shaped.sum_sizeAt.trans sound.counted.symm
  unfold TBinnedTimerQueue.validate
  simp only [Bool.and_eq_true, List.all_eq_true, List.mem_range, decide_eq_true_eq]
  refine ⟨⟨⟨ascends, bounds⟩, ?_⟩, sizes⟩
  intro offset lt
  have here : offset < queue.bucketCount := by omega
  have next : offset + 1 < queue.bucketCount := by omega
  have index : ((queue.currentBucket + offset) % queue.bucketCount + 1) % queue.bucketCount =
      (offset + 1 + queue.currentBucket) % queue.bucketCount := by
    rw [Nat.mod_add_mod, Nat.add_comm queue.currentBucket offset, Nat.add_right_comm]
  rw [index, bucket_ring next, Nat.add_comm queue.currentBucket offset, bucket_ring here]
  simp [adjacent offset]

theorem ring_create (bucketCount bucketSoftLimit k : Nat) :
    (create bucketCount bucketSoftLimit : TBinnedTimerQueue Time T).ring k = .clear := by
  unfold ring ringFrom create
  dsimp only
  split
  · rw [List.getD_eq_getElem?_getD, List.getElem?_replicate]
    split <;> rfl
  · rfl

theorem sound_create (bucketCount bucketSoftLimit : Nat) :
    (create bucketCount bucketSoftLimit : TBinnedTimerQueue Time T).Sound ∧
      (create bucketCount bucketSoftLimit : TBinnedTimerQueue Time T).contents = 0 := by
  have ring : (create bucketCount bucketSoftLimit : TBinnedTimerQueue Time T).ring =
        fun _ => .clear :=
    funext (ring_create bucketCount bucketSoftLimit)
  have count : (create bucketCount bucketSoftLimit :
      TBinnedTimerQueue Time T).bucketCount = max 2 bucketCount :=
    List.length_replicate
  have contents : (create bucketCount bucketSoftLimit : TBinnedTimerQueue Time T).contents = 0 := by
    unfold TBinnedTimerQueue.contents
    rw [ring]
    apply Finset.sum_eq_zero
    intro k _
    cases k <;> rfl
  refine ⟨⟨⟨?_, ?_, le_max_left 1 bucketSoftLimit, ?_⟩, ?_⟩, contents⟩
  · rw [count]
    exact le_max_left 2 bucketCount
  · rw [count]
    exact Nat.lt_of_lt_of_le Nat.two_pos (le_max_left 2 bucketCount)
  · rw [ring]
    exact Arranged.clear
  · rw [contents]
    rfl

end TBinnedTimerQueue

namespace TimerAnswer

/-- What the abstract queue sees of an answer. -/
def event :
    TimerAnswer T → PriorityQueue.Event (TItem TimePoint T) TimePoint
  | .added item => .added item
  | .popped (.ok item) => .taken item
  | .popped (.error _) => .refused
  | .next deadline => .looked deadline

/-- The answer is not an error other than that the queue is empty. -/
def Expected : TimerAnswer T → Prop
  | .popped (.error message) => message = "Cannot pop from empty timer queue"
  | _ => True

end TimerAnswer

namespace TBinnedTimerQueue

variable {queue : TBinnedTimerQueue TimePoint T}

/-- Every call is one of a priority queue. -/
theorem Sound.call (sound : queue.Sound) (std : StdSort TimePoint T) (each : TimerCall T) :
    (queue.call std each).2.Sound ∧ PriorityQueue.Permits TItem.deadline queue.contents
      (queue.call std each).1.event (queue.call std each).2.contents ∧
      (queue.call std each).1.Expected := by
  cases each with
  | add delay value now fits =>
    obtain ⟨added, contents⟩ := sound.add (now.after delay fits) value
    exact ⟨added, contents, trivial⟩
  | popFront =>
    by_cases empty : queue.size = 0
    · have none : queue.contents = 0 := Multiset.card_eq_zero.mp (sound.counted ▸ empty)
      simp only [TBinnedTimerQueue.call, TBinnedTimerQueue.popFront, empty, ↓reduceIte]
      exact ⟨sound, ⟨none, none⟩, rfl⟩
    · obtain ⟨item, rest, pops, restSound, contents, least⟩ := sound.popFront std empty
      simp only [TBinnedTimerQueue.call, pops]
      exact ⟨restSound, ⟨contents, least⟩, trivial⟩
  | getNextDeadline =>
    exact ⟨sound, ⟨sound.getNextDeadline_eq, rfl⟩, trivial⟩

/-- Calls one after another are answered as the stored items permit. -/
theorem Sound.calls (std : StdSort TimePoint T) (each : List (TimerCall T)) (sound : queue.Sound) :
    (queue.calls std each).2.Sound ∧ PriorityQueue.Serves TItem.deadline queue.contents
      ((queue.calls std each).1.map TimerAnswer.event) (queue.calls std each).2.contents ∧
      ∀ answer ∈ (queue.calls std each).1, answer.Expected := by
  induction each generalizing queue with
  | nil =>
    exact ⟨sound, .nil _, by simp [TBinnedTimerQueue.calls]⟩
  | cons first rest ih =>
    obtain ⟨nextSound, permits, expected⟩ := sound.call std first
    obtain ⟨lastSound, serves, others⟩ := ih nextSound
    refine ⟨lastSound, .cons permits serves, ?_⟩
    intro answer isAnswer
    rcases List.mem_cons.mp isAnswer with rfl | isAnswer
    · exact expected
    · exact others answer isAnswer

/--
A fresh queue serves any calls as a priority queue: the stored items are those
added and not popped, a pop takes an item of the least deadline and fails only
on an empty queue, the next deadline is the least one, and `Validate` holds
after the last call.
-/
theorem timerQueue_serves (std : StdSort TimePoint T) (bucketCount bucketSoftLimit : Nat)
    (each : List (TimerCall T)) :
    let (answers, last) := (create bucketCount bucketSoftLimit).calls std each
    PriorityQueue.Serves TItem.deadline 0 (answers.map TimerAnswer.event) last.contents ∧
      last.contents + PriorityQueue.takenItems (answers.map TimerAnswer.event) =
      PriorityQueue.addedItems (answers.map TimerAnswer.event) ∧
      (∀ answer ∈ answers, answer.Expected) ∧ last.validate = true := by
  obtain ⟨sound, empty⟩ : (create bucketCount bucketSoftLimit :
      TBinnedTimerQueue TimePoint T).Sound ∧ _ :=
    sound_create bucketCount bucketSoftLimit
  obtain ⟨lastSound, serves, expected⟩ := sound.calls std each
  rw [empty] at serves
  refine ⟨serves, ?_, expected, lastSound.validate⟩
  rw [serves.balance, zero_add]

-- Timers that come out of order, across a bucket that is full.
example :
    let queue := (((create 2 1 : TBinnedTimerQueue (Fin 9) Nat).add 3 0).add 7 1).add 5 2
    let (first, rest) := queue.popFront .insertion
    let (second, rest) := rest.popFront .insertion
    (first, second, rest.getNextDeadline) = (.ok ⟨3, 0⟩, .ok ⟨5, 2⟩, 7) := by
  decide

end TBinnedTimerQueue

end PortableTpcc
