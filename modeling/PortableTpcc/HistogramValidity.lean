import PortableTpcc.HistogramMerge

namespace PortableTpcc

namespace Mind

/-!
# What `Validate` accepts

A payload without components is accepted exactly when it conforms to a layout
and its numbers form a valid summary, provided the extrema are small enough
for `bucketIndex` not to wrap around.
-/

/-- The numbers of a payload as a summary. -/
def RawFields.summary (h : RawFields) : Summary where
  buckets index := (h.buckets.getD index 0).toNat
  total := h.totalCount.toNat
  overflow := h.overflowCount.toNat
  sum := h.sumValues.toNat
  least := if h.totalCount = 0 then ⊤ else (h.minRecorded.toNat : ℕ)
  greatest := h.maxRecorded.toNat

/-- The payload is laid out as the layout says. -/
structure RawFields.Conforms (h : RawFields) (layout : HistogramLayout) :
    Prop where
  layout_eq : h.layout = layoutLinearExp
  unit_ne : h.unit ≠ ""
  subBuckets_eq : subBuckets h = PortableTpcc.subBucketsPerOctave
  hdrTill_eq : h.hdrTill = layout.hdrTill
  maxValue_eq : h.maxValue = layout.maxValue
  length_eq : h.buckets.length = layout.slots.size

/-- The extrema that are in range are below `2 ^ 58`. -/
def RawFields.Exact (h : RawFields) : Prop :=
  (h.minRecorded < h.maxValue → h.minRecorded.toNat < 2 ^ 58) ∧
    (h.maxRecorded < h.maxValue → h.maxRecorded.toNat < 2 ^ 58)

variable {h : RawFields}

variable {result : UInt64}

theorem addUint64_eq_ok {a b : UInt64} :
    addUint64 a b = .ok result ↔ a.toNat + b.toNat = result.toNat := by
  have aBound := a.toNat_lt
  have room : (maxUint64 - a).toNat = maxUint64.toNat - a.toNat := by
    apply UInt64.toNat_sub_of_le
    rw [UInt64.le_iff_toNat_le, toNat_maxUint64]
    omega
  unfold addUint64
  by_cases overflows : b > maxUint64 - a
  · have above := UInt64.lt_iff_toNat_lt.mp overflows
    have resultBound := result.toNat_lt
    rw [room, toNat_maxUint64] at above
    rw [if_pos overflows]
    constructor
    · intro isOk
      cases isOk
    · omega
  · have below : b.toNat ≤ (maxUint64 - a).toNat :=
      not_lt.mp fun above => overflows (UInt64.lt_iff_toNat_lt.mpr above)
    rw [room, toNat_maxUint64] at below
    have sum : (a + b).toNat = a.toNat + b.toNat := toNat_add_of_lt (by omega)
    rw [if_neg overflows, Except.ok.injEq, ← UInt64.toNat_inj, sum]

theorem mulUint64_eq_ok {a b : UInt64} :
    mulUint64 a b = .ok result ↔ a.toNat * b.toNat = result.toNat := by
  unfold mulUint64
  by_cases isZero : a = 0
  · subst isZero
    rw [if_neg (by simp), Except.ok.injEq, ← UInt64.toNat_inj]
    simp
  · have positive : 0 < a.toNat := UInt64.lt_iff_toNat_lt.mp (UInt64.pos_iff_ne_zero.mpr isZero)
    by_cases overflows : b > maxUint64 / a
    · have above := UInt64.lt_iff_toNat_lt.mp overflows
      have resultBound := result.toNat_lt
      rw [UInt64.toNat_div, toNat_maxUint64, Nat.div_lt_iff_lt_mul positive] at above
      rw [if_pos ⟨isZero, overflows⟩]
      constructor
      · intro isOk
        cases isOk
      · intro product
        rw [Nat.mul_comm] at product
        omega
    · have below : b.toNat ≤ (maxUint64 / a).toNat :=
        not_lt.mp fun above => overflows (UInt64.lt_iff_toNat_lt.mpr above)
      rw [UInt64.toNat_div, toNat_maxUint64, Nat.le_div_iff_mul_le positive, Nat.mul_comm] at below
      rw [if_neg (fun both => overflows both.2), Except.ok.injEq,
        ← UInt64.toNat_inj, UInt64.toNat_mul, Nat.mod_eq_of_lt (by omega)]

theorem foldlM_addUint64_eq_ok {counts : List UInt64} {start : UInt64} :
    counts.foldlM addUint64 start = .ok result ↔
      start.toNat + (counts.map UInt64.toNat).sum = result.toNat := by
  induction counts generalizing start with
  | nil =>
    simp [pure, Except.pure, UInt64.toNat_inj]
  | cons count rest ih =>
    rw [List.foldlM_cons, bind_eq_ok, List.map_cons, List.sum_cons]
    constructor
    · rintro ⟨middle, first, later⟩
      rw [addUint64_eq_ok] at first
      rw [ih] at later
      omega
    · intro total
      have resultBound := result.toNat_lt
      have sum : (start + count).toNat = start.toNat + count.toNat := toNat_add_of_lt (by omega)
      refine ⟨start + count, addUint64_eq_ok.mpr sum.symm, ?_⟩
      rw [ih, sum]
      omega

theorem expectedBucketCount_eq_ok {hdrTill maxValue : UInt64} {want : Nat} :
    expectedBucketCount hdrTill maxValue = .ok want ↔ ∃ layout : HistogramLayout,
      hdrTill = layout.hdrTill ∧ maxValue = layout.maxValue ∧ want = layout.slots.size := by
  unfold expectedBucketCount
  constructor
  · intro isOk
    split at isOk
    · cases isOk
    · rename_i valid
      rw [not_or, not_or] at valid
      obtain ⟨hdrTillNe, _, ordered⟩ := valid
      refine ⟨⟨hdrTill, maxValue, UInt64.pos_iff_ne_zero.mpr hdrTillNe,
        UInt64.not_lt.mp ordered⟩, rfl, rfl, ?_⟩
      rw [← countBuckets_octaves]
      exact (Except.ok.inj isOk).symm
  · rintro ⟨layout, rfl, rfl, rfl⟩
    have positive := UInt64.lt_iff_toNat_lt.mp layout.hdrTill_pos
    have ordered := UInt64.le_iff_toNat_le.mp layout.hdrTill_le
    rw [if_neg, countBuckets_octaves]
    rintro (isZero | isZero | above)
    · rw [isZero] at positive
      exact absurd positive (lt_irrefl _)
    · rw [isZero] at ordered
      exact absurd positive (not_lt.mpr ordered)
    · exact absurd (UInt64.lt_iff_toNat_lt.mp above) (not_lt.mpr ordered)

theorem subBuckets_eq_iff (h : RawFields) :
    ¬ (h.subBucketsPerOctave ≠ 0 ∧ h.subBucketsPerOctave ≠ subBucketsPerOctave) ↔
      subBuckets h = subBucketsPerOctave := by
  unfold subBuckets
  by_cases isZero : h.subBucketsPerOctave = 0
  · simp [isZero]
  · simp [isZero]

/-- The checks of the header. -/
theorem validateHeader_eq_ok : validateHeader h = .ok () ↔ ∃ layout, h.Conforms layout := by
  unfold validateHeader
  simp only [bind_eq_ok, rejectIf_eq_ok, expectedBucketCount_eq_ok,
    subBuckets_eq_iff, not_not, exists_const]
  constructor
  · rintro ⟨_, isLinearExp, hasUnit, sub, _, ⟨layout, hdrTill, maxValue, rfl⟩, length⟩
    exact ⟨layout, isLinearExp, hasUnit, sub, hdrTill, maxValue, length⟩
  · rintro ⟨layout, isLinearExp, hasUnit, sub, hdrTill, maxValue, length⟩
    refine ⟨?_, isLinearExp, hasUnit, sub, _, ⟨layout, hdrTill, maxValue, rfl⟩, length⟩
    rw [isLinearExp]
    decide

/-- The counts of the buckets that a layout has add up over its slots. -/
theorem sum_buckets (buckets : List UInt64) :
    (buckets.map UInt64.toNat).sum = ∑ index ∈ Finset.range buckets.length,
      (buckets.getD index 0).toNat := by
  induction buckets with
  | nil =>
    rfl
  | cons count rest ih =>
    rw [List.map_cons, List.sum_cons, List.length_cons,
      Finset.sum_range_succ', ih, Nat.add_comm]
    rfl

variable {layout : HistogramLayout}

/-- The checks of the counters. -/
theorem validateCounts_eq_ok (conforms : h.Conforms layout) :
    validateCounts h = .ok () ↔
      (∑ index ∈ Finset.range layout.slots.size, h.summary.buckets index) + h.summary.overflow =
        h.summary.total := by
  have counts : ∑ index ∈ Finset.range layout.slots.size, h.summary.buckets index =
      (h.buckets.map UInt64.toNat).sum := by
    rw [sum_buckets, conforms.length_eq]
    rfl
  rw [counts]
  unfold validateCounts
  simp only [bind_eq_ok, mapError_eq_ok, rejectIf_eq_ok, not_not,
    foldlM_addUint64_eq_ok, addUint64_eq_ok]
  change _ ↔ _ + h.overflowCount.toNat = h.totalCount.toNat
  constructor
  · rintro ⟨sum, sumEq, _, withOverflow, rfl⟩
    rw [UInt64.toNat_zero] at sumEq
    omega
  · intro total
    have totalBound := h.totalCount.toNat_lt
    have sum : (UInt64.ofNat (h.buckets.map UInt64.toNat).sum).toNat =
        (h.buckets.map UInt64.toNat).sum :=
      UInt64.toNat_ofNat_of_lt' (by change _ < 2 ^ 64; omega)
    refine ⟨UInt64.ofNat (h.buckets.map UInt64.toNat).sum, ?_, h.totalCount, ?_, rfl⟩
    · rw [sum, UInt64.toNat_zero, Nat.zero_add]
    · rw [sum, total]

variable {value : UInt64}

theorem bucketIndexIn_eq {first last : Nat} {octaves : List Octave}
    (chain : IsChain first (octaves.map Octave.piece) last) (index : Nat)
    (above : first ≤ value.toNat) (below : value.toNat < last) (small : value.toNat < 2 ^ 58) :
    bucketIndexIn octaves index value = pieceSlot (octaves.map Octave.piece) index value.toNat := by
  induction octaves generalizing first index with
  | nil =>
    obtain rfl : first = last := chain
    omega
  | cons octave rest ih =>
    obtain ⟨rfl, _, _, others⟩ := chain
    have startLe : octave.start ≤ value := UInt64.le_iff_toNat_le.mpr above
    rw [bucketIndexIn, List.map_cons, pieceSlot]
    by_cases inside : value.toNat < octave.piece.stop
    · have stopLt : value < octave.stop := UInt64.lt_iff_toNat_lt.mpr inside
      rw [if_pos ⟨startLe, stopLt⟩, if_pos inside, Octave.sub_eq_offset startLe stopLt small]
    · have stopLe : ¬ value < octave.stop :=
        fun below => inside (UInt64.lt_iff_toNat_lt.mp below)
      rw [if_neg (fun both => stopLe both.2), if_neg inside]
      exact ih others (index + octave.nsubs) (not_lt.mp inside)

theorem bucketIndex_of_layout (hdrTill_eq : h.hdrTill = layout.hdrTill)
    (maxValue_eq : h.maxValue = layout.maxValue) (below : value < layout.maxValue)
    (small : value.toNat < 2 ^ 58) : bucketIndex h value = layout.slots.slot value.toNat := by
  unfold bucketIndex
  rw [maxValue_eq, hdrTill_eq, if_neg (UInt64.not_le.mpr below)]
  by_cases linear : value < layout.hdrTill
  · have isLinear : value.toNat < layout.hdrTill.toNat := UInt64.lt_iff_toNat_lt.mp linear
    have slot : layout.slots.slot value.toNat = value.toNat := if_pos isLinear
    rw [if_pos linear, slot]
  · have notLinear : ¬ value.toNat < layout.hdrTill.toNat :=
      fun less => linear (UInt64.lt_iff_toNat_lt.mpr less)
    have slot : layout.slots.slot value.toNat =
          pieceSlot layout.pieces layout.hdrTill.toNat value.toNat :=
      if_neg notLinear
    rw [if_neg linear, slot, octaves_eq]
    exact bucketIndexIn_eq layout.isChain_pieces _ (not_lt.mp notLinear)
      (UInt64.lt_iff_toNat_lt.mp below) small

/-- The index of `merge.go` is the slot. -/
theorem bucketIndex_eq_slot (conforms : h.Conforms layout) (below : value < h.maxValue)
    (small : value.toNat < 2 ^ 58) : bucketIndex h value = layout.slots.slot value.toNat := by
  rw [conforms.maxValue_eq] at below
  exact bucketIndex_of_layout conforms.hdrTill_eq conforms.maxValue_eq below small

/-- The buckets of a list that are occupied. -/
def occupiedBuckets (buckets : List UInt64) : Set ℕ :=
  { index | (buckets.getD index 0).toNat ≠ 0 }

theorem occupiedBuckets_snoc (buckets : List UInt64) (count : UInt64) :
    occupiedBuckets (buckets ++ [count]) = if count = 0 then occupiedBuckets buckets else
        insert buckets.length (occupiedBuckets buckets) := by
  have counts (index : ℕ) : ((buckets ++ [count]).getD index 0).toNat =
        if index = buckets.length then
          count.toNat
        else
          (buckets.getD index 0).toNat := by
    simp only [List.getD_eq_getElem?_getD, List.getElem?_append]
    rcases lt_trichotomy index buckets.length with inside | same | outside
    · simp [inside, inside.ne]
    · simp [same]
    · have later : index - buckets.length ≠ 0 := by omega
      rw [if_neg (by omega), if_neg (by omega), List.getElem?_eq_none (by simp; omega),
        List.getElem?_eq_none (by omega)]
  ext index
  simp only [occupiedBuckets, Set.mem_ofPred_eq, counts]
  by_cases isEmpty : count = 0
  · simp only [isEmpty, if_true, Set.mem_ofPred_eq]
    by_cases same : index = buckets.length
    · simp [same, List.getD_eq_getElem?_getD]
    · simp [same]
  · have positive : count.toNat ≠ 0 :=
      fun isZero => isEmpty (UInt64.toNat_inj.mp isZero)
    by_cases same : index = buckets.length
    · simp [same, isEmpty, positive]
    · simp [same, isEmpty]

theorem lt_length_of_mem_occupiedBuckets {buckets : List UInt64} {index : ℕ}
    (isOccupied : index ∈ occupiedBuckets buckets) : index < buckets.length := by
  by_contra outside
  apply isOccupied
  simp [List.getD_eq_getElem?_getD, List.getElem?_eq_none (not_lt.mp outside)]

/-- The scan finds the first and the last occupied bucket, if there are any. -/
theorem scanBucket_spec (buckets : List UInt64) :
    ∃ bounds : Int × Int, buckets.foldl scanBucket (0, -1, -1) = (buckets.length, bounds) ∧
      ((occupiedBuckets buckets = ∅ ∧ bounds = (-1, -1)) ∨ ∃ first last : ℕ,
      IsLeast (occupiedBuckets buckets) first ∧ IsGreatest (occupiedBuckets buckets) last ∧
      bounds = ((first : Int), (last : Int))) := by
  induction buckets using List.reverseRec with
  | nil =>
    refine ⟨(-1, -1), rfl, .inl ⟨?_, rfl⟩⟩
    simp [occupiedBuckets]
  | append_singleton buckets count ih =>
    obtain ⟨bounds, scanned, found⟩ := ih
    rw [List.foldl_append, scanned, List.length_append, occupiedBuckets_snoc]
    by_cases isEmpty : count = 0
    · rw [if_pos isEmpty]
      exact ⟨bounds, by simp [scanBucket, isEmpty], found⟩
    · rw [if_neg isEmpty]
      have last : IsGreatest (insert buckets.length (occupiedBuckets buckets))
            buckets.length := by
        refine ⟨Set.mem_insert _ _, ?_⟩
        rintro index (rfl | isOccupied)
        · exact le_rfl
        · exact (lt_length_of_mem_occupiedBuckets isOccupied).le
      rcases found with ⟨none_, rfl⟩ | ⟨first, _, isFirst, _, rfl⟩
      · refine ⟨(buckets.length, buckets.length), by simp [scanBucket, isEmpty],
          .inr ⟨buckets.length, buckets.length, ?_, last, rfl⟩⟩
        rw [none_]
        simp
      · refine ⟨(first, buckets.length), by simp [scanBucket, isEmpty],
          .inr ⟨first, buckets.length, ?_, last, rfl⟩⟩
        refine ⟨.inr isFirst.1, ?_⟩
        rintro index (rfl | isOccupied)
        · exact (lt_length_of_mem_occupiedBuckets isFirst.1).le
        · exact isFirst.2 isOccupied

/-- The checks of the sum. -/
theorem validateSumBounds_eq_ok (nonempty : h.totalCount ≠ 0) :
    validateSumBounds h = .ok () ↔
      (h.totalCount.toNat = 1 → h.minRecorded.toNat = h.maxRecorded.toNat) ∧
      h.minRecorded.toNat * (h.totalCount.toNat - 1) + h.maxRecorded.toNat ≤ h.sumValues.toNat ∧
      h.sumValues.toNat ≤ h.maxRecorded.toNat * h.totalCount.toNat := by
  have positive : 0 < h.totalCount.toNat :=
    UInt64.lt_iff_toNat_lt.mp (UInt64.pos_iff_ne_zero.mpr nonempty)
  have others : (h.totalCount - 1).toNat = h.totalCount.toNat - 1 :=
    UInt64.toNat_sub_of_le _ _ (UInt64.le_iff_toNat_le.mpr positive)
  have sumBound := h.sumValues.toNat_lt
  unfold validateSumBounds
  by_cases isOne : h.totalCount = 1
  · have one : h.totalCount.toNat = 1 := congrArg UInt64.toNat isOne
    rw [if_pos isOne, rejectIf_eq_ok, one]
    simp only [not_or, not_not, ← UInt64.toNat_inj, Nat.sub_self,
      Nat.mul_zero, Nat.mul_one, Nat.zero_add, forall_const]
    omega
  · have notOne : h.totalCount.toNat ≠ 1 :=
      fun one => isOne (UInt64.toNat_inj.mp one)
    rw [if_neg isOne]
    simp only [bind_eq_ok, mapError_eq_ok, rejectIf_eq_ok, exists_const,
      mulUint64_eq_ok, addUint64_eq_ok, others, UInt64.not_lt, UInt64.le_iff_toNat_le]
    constructor
    · rintro ⟨product, isProduct, lower, isLower, aboveLower, upperCheck⟩
      refine ⟨fun one => absurd one notOne, by omega, ?_⟩
      -- When the upper bound overflows, every sum is below it.
      cases upper : mulUint64 h.maxRecorded h.totalCount with
      | ok bound =>
        rw [upper] at upperCheck
        rw [mulUint64_eq_ok] at upper
        simp only [rejectIf_eq_ok, gt_iff_lt, UInt64.not_lt, UInt64.le_iff_toNat_le] at upperCheck
        omega
      | error error =>
        by_contra tooLarge
        have fits : h.maxRecorded.toNat * h.totalCount.toNat < 2 ^ 64 := by
          omega
        have isOk : mulUint64 h.maxRecorded h.totalCount =
            .ok (h.maxRecorded * h.totalCount) := by
          rw [mulUint64_eq_ok, UInt64.toNat_mul, Nat.mod_eq_of_lt fits]
        rw [isOk] at upper
        cases upper
    · rintro ⟨_, above, below⟩
      have product : (h.minRecorded * (h.totalCount - 1)).toNat =
          h.minRecorded.toNat * (h.totalCount.toNat - 1) := by
        rw [UInt64.toNat_mul, others, Nat.mod_eq_of_lt]
        omega
      have lower : (h.minRecorded * (h.totalCount - 1) + h.maxRecorded).toNat =
          h.minRecorded.toNat * (h.totalCount.toNat - 1) +
              h.maxRecorded.toNat := by
        rw [toNat_add_of_lt, product]
        omega
      refine ⟨h.minRecorded * (h.totalCount - 1), product.symm,
        h.minRecorded * (h.totalCount - 1) + h.maxRecorded,
        by rw [product, lower], by rw [lower]; exact above, ?_⟩
      cases upper : mulUint64 h.maxRecorded h.totalCount with
      | ok bound =>
        rw [mulUint64_eq_ok] at upper
        simp only [rejectIf_eq_ok, gt_iff_lt, UInt64.not_lt, UInt64.le_iff_toNat_le]
        omega
      | error error =>
        rfl

/-- The value is in the bucket that was found, if that is in range. -/
theorem bucketIndex_eq_iff {found : ℕ} (conforms : h.Conforms layout)
    (small : value < h.maxValue → value.toNat < 2 ^ 58) :
    bucketIndex h value = found ↔ value.toNat < layout.slots.limit ∧
      layout.slots.slot value.toNat = found := by
  have limit : layout.slots.limit = h.maxValue.toNat := by
    rw [conforms.maxValue_eq]
    rfl
  rw [limit, ← UInt64.lt_iff_toNat_lt]
  by_cases below : value < h.maxValue
  · rw [bucketIndex_eq_slot conforms below (small below)]
    simp [below]
  · have outside : bucketIndex h value = -1 := if_pos (UInt64.not_lt.mp below)
    rw [outside]
    simp only [below, false_and, iff_false]
    omega

theorem RawFields.Conforms.within (conforms : h.Conforms layout) (index : ℕ)
    (outside : layout.slots.size ≤ index) : h.summary.buckets index = 0 := by
  rw [← conforms.length_eq] at outside
  simp [RawFields.summary, List.getD_eq_getElem?_getD, List.getElem?_eq_none outside]

/-- The checks of the extrema. -/
theorem validateExtremaBuckets_eq_ok (conforms : h.Conforms layout) (exact_ : h.Exact)
    (nonempty : h.totalCount ≠ 0)
    (counted : (∑ index ∈ Finset.range layout.slots.size, h.summary.buckets index) +
      h.summary.overflow = h.summary.total) :
    validateExtremaBuckets h = .ok () ↔ (h.summary.overflow = h.summary.total →
      layout.slots.limit ≤ h.minRecorded.toNat) ∧ (h.summary.overflow < h.summary.total →
      h.minRecorded.toNat < layout.slots.limit ∧ IsLeast h.summary.occupied
      (layout.slots.slot h.minRecorded.toNat)) ∧ (0 < h.summary.overflow →
      layout.slots.limit ≤ h.maxRecorded.toNat) ∧ (h.summary.overflow = 0 →
      h.maxRecorded.toNat < layout.slots.limit ∧ IsGreatest h.summary.occupied
      (layout.slots.slot h.maxRecorded.toNat)) := by
  have limit : layout.slots.limit = h.maxValue.toNat := by
    rw [conforms.maxValue_eq]
    rfl
  have allOutside := Slotting.occupied_eq_empty_iff conforms.within counted
  have overflowLe : h.overflowCount.toNat ≤ h.totalCount.toNat := by
    change _ + h.overflowCount.toNat = h.totalCount.toNat at counted
    omega
  have positive : 0 < h.totalCount.toNat :=
    UInt64.lt_iff_toNat_lt.mp (UInt64.pos_iff_ne_zero.mpr nonempty)
  have inRange : (h.totalCount - h.overflowCount).toNat =
      h.totalCount.toNat - h.overflowCount.toNat :=
    UInt64.toNat_sub_of_le _ _ (UInt64.le_iff_toNat_le.mpr overflowLe)
  have noneInRange : h.totalCount - h.overflowCount = 0 ↔
      h.overflowCount.toNat = h.totalCount.toNat := by
    rw [← UInt64.toNat_inj, inRange, UInt64.toNat_zero]
    omega
  obtain ⟨⟨first, last⟩, scanned, found⟩ := scanBucket_spec h.buckets
  change ((h.summary.occupied = ∅ ∧ _) ∨ ∃ first last : ℕ, IsLeast h.summary.occupied first ∧
    IsGreatest h.summary.occupied last ∧ _) at found
  have overflow : h.summary.overflow = h.overflowCount.toNat := rfl
  have total : h.summary.total = h.totalCount.toNat := rfl
  unfold validateExtremaBuckets
  rw [scanned]
  dsimp only
  rw [overflow, total] at allOutside ⊢
  rcases found with ⟨isEmpty, bounds⟩ | ⟨low, high, isLow, isHigh, bounds⟩
  · -- No bucket is occupied: the samples are all out of range.
    have allOut := allOutside.mp isEmpty
    obtain ⟨rfl, rfl⟩ := Prod.mk.inj bounds
    rw [if_pos (noneInRange.mpr allOut)]
    simp only [bind_eq_ok, rejectIf_eq_ok, exists_const, not_or,
      UInt64.not_lt, UInt64.le_iff_toNat_le, limit]
    constructor
    · rintro ⟨_, minAbove, maxAbove⟩
      exact ⟨fun _ => minAbove, fun some_ => by omega, fun _ => maxAbove,
        fun none_ => by omega⟩
    · rintro ⟨minAbove, _, maxAbove, _⟩
      exact ⟨by decide, minAbove allOut, maxAbove (by omega)⟩
  · have someIn : ¬ h.overflowCount.toNat = h.totalCount.toNat := by
      intro allOut
      rw [allOutside.mpr allOut] at isLow
      exact isLow.1
    obtain ⟨rfl, rfl⟩ := Prod.mk.inj bounds
    rw [if_neg (fun isZero => someIn (noneInRange.mp isZero))]
    have minCheck : bucketIndex h h.minRecorded = low ↔ h.minRecorded.toNat < layout.slots.limit ∧
        IsLeast h.summary.occupied (layout.slots.slot h.minRecorded.toNat) := by
      rw [bucketIndex_eq_iff conforms exact_.1]
      exact and_congr_right fun _ => ⟨fun same => same ▸ isLow, fun isLeast => isLeast.unique isLow⟩
    have maxCheck : bucketIndex h h.maxRecorded = high ↔ h.maxRecorded.toNat < layout.slots.limit ∧
        IsGreatest h.summary.occupied (layout.slots.slot h.maxRecorded.toNat) := by
      rw [bucketIndex_eq_iff conforms exact_.2]
      exact and_congr_right fun _ =>
        ⟨fun same => same ▸ isHigh, fun isGreatest => isGreatest.unique isHigh⟩
    have someLess : h.overflowCount.toNat < h.totalCount.toNat := by omega
    have notNegative : ¬ (low : Int) < 0 := by omega
    simp only [bind_eq_ok, rejectIf_eq_ok, exists_const, notNegative,
      not_false_eq_true, true_and, not_not, minCheck, someIn, someLess, false_implies, forall_const]
    refine and_congr_right fun _ => ?_
    by_cases overflowed : h.overflowCount > 0
    · have some_ : 0 < h.overflowCount.toNat := UInt64.lt_iff_toNat_lt.mp overflowed
      rw [if_pos overflowed, rejectIf_eq_ok, UInt64.not_lt, UInt64.le_iff_toNat_le, limit]
      exact ⟨fun above => ⟨fun _ => above, fun none_ => by omega⟩,
        fun both => both.1 some_⟩
    · have none_ : h.overflowCount.toNat = 0 := by
        rw [gt_iff_lt, UInt64.lt_iff_toNat_lt, UInt64.toNat_zero] at overflowed
        omega
      rw [if_neg overflowed, rejectIf_eq_ok, not_not, maxCheck]
      exact ⟨fun below => ⟨fun some_ => by omega, fun _ => below⟩,
        fun both => both.2 none_⟩

/-- An empty histogram has no least value; `Validate` wants zero there. -/
def RawFields.Normal (h : RawFields) : Prop :=
  h.totalCount = 0 → h.minRecorded = 0

theorem validateEmpty_eq_ok (conforms : h.Conforms layout) (isEmpty : h.totalCount = 0)
    (counted : (∑ index ∈ Finset.range layout.slots.size, h.summary.buckets index) +
          h.summary.overflow =
        h.summary.total) : validateEmpty h = .ok () ↔ h.summary = 0 ∧ h.minRecorded = 0 := by
  unfold validateEmpty
  simp only [bind_eq_ok, rejectIf_eq_ok, exists_const, not_or, not_not]
  constructor
  · rintro ⟨noSum, noOverflow, minZero, maxZero⟩
    have allOut : h.summary.overflow = h.summary.total := by
      simp [RawFields.summary, noOverflow, isEmpty]
    have noneOccupied := (Slotting.occupied_eq_empty_iff conforms.within counted).mpr allOut
    refine ⟨?_, minZero⟩
    ext
    case buckets index =>
      have notOccupied : index ∉ h.summary.occupied := by
        rw [noneOccupied]
        exact Set.notMem_empty index
      exact not_not.mp notOccupied
    all_goals simp [RawFields.summary, isEmpty, noOverflow, noSum, maxZero]
  · rintro ⟨isZero, minZero⟩
    have noSum : h.sumValues.toNat = 0 := congrArg Summary.sum isZero
    have noOverflow : h.overflowCount.toNat = 0 := congrArg Summary.overflow isZero
    have maxZero : h.maxRecorded.toNat = 0 := congrArg Summary.greatest isZero
    exact ⟨UInt64.toNat_inj.mp noSum, UInt64.toNat_inj.mp noOverflow, minZero,
      UInt64.toNat_inj.mp maxZero⟩

/-- All checks of a payload with samples. -/
theorem validateNonempty_eq_ok (conforms : h.Conforms layout) (exact_ : h.Exact)
    (nonempty : h.totalCount ≠ 0)
    (counted : (∑ index ∈ Finset.range layout.slots.size, h.summary.buckets index) +
      h.summary.overflow = h.summary.total) :
    (¬ h.minRecorded > h.maxRecorded ∧ validateSumBounds h = .ok () ∧
      validateExtremaBuckets h = .ok ()) ↔ ∃ low, layout.slots.ValidFrom h.summary low := by
  have least : h.summary.least = (h.minRecorded.toNat : ℕ) := if_neg nonempty
  rw [validateSumBounds_eq_ok nonempty,
    validateExtremaBuckets_eq_ok conforms exact_ nonempty counted,
    gt_iff_lt, UInt64.not_lt, UInt64.le_iff_toNat_le]
  constructor
  · rintro ⟨ordered, ⟨single, sumLow, sumHigh⟩, outOfRange, first, overflowed, last⟩
    exact ⟨h.minRecorded.toNat,
        { isLeast := least
          ordered
          single
          sumLow
          sumHigh
          outOfRange
          first
          overflowed
          last }⟩
  · rintro ⟨low, fromLow⟩
    obtain rfl : low = h.minRecorded.toNat :=
      WithTop.coe_injective (fromLow.isLeast.symm.trans least)
    exact ⟨fromLow.ordered, ⟨fromLow.single, fromLow.sumLow, fromLow.sumHigh⟩, fromLow.outOfRange,
      fromLow.first, fromLow.overflowed, fromLow.last⟩

/-- What `Validate` accepts, for a payload of this layout. -/
theorem validateFields_eq_ok (conforms : h.Conforms layout) (exact_ : h.Exact) :
    validateFields h = .ok () ↔ layout.slots.Valid h.summary ∧ h.Normal := by
  have header : validateHeader h = .ok () := validateHeader_eq_ok.mpr ⟨layout, conforms⟩
  unfold validateFields
  simp only [bind_eq_ok, Unique.exists_iff, PUnit.default_eq_unit, header, true_and]
  by_cases isEmpty : h.totalCount = 0
  · have total : h.summary.total = 0 := congrArg UInt64.toNat isEmpty
    rw [if_pos isEmpty]
    constructor
    · rintro ⟨counts, empty⟩
      have counted := (validateCounts_eq_ok conforms).mp counts
      obtain ⟨isZero, minZero⟩ := (validateEmpty_eq_ok conforms isEmpty counted).mp empty
      rw [isZero]
      exact ⟨Slotting.valid_zero, fun _ => minZero⟩
    · rintro ⟨valid, normal⟩
      exact ⟨(validateCounts_eq_ok conforms).mpr valid.counted,
        (validateEmpty_eq_ok conforms isEmpty valid.counted).mpr
        ⟨valid.empty total, normal isEmpty⟩⟩
  · have total : h.summary.total ≠ 0 :=
      fun isZero => isEmpty (UInt64.toNat_inj.mp isZero)
    rw [if_neg isEmpty]
    simp only [bind_eq_ok, rejectIf_eq_ok, Unique.exists_iff, PUnit.default_eq_unit]
    constructor
    · rintro ⟨counts, checks⟩
      have counted := (validateCounts_eq_ok conforms).mp counts
      have fromLow := (validateNonempty_eq_ok conforms exact_ isEmpty counted).mp checks
      exact
        ⟨{ within := conforms.within
           counted
           empty := fun isZero => absurd isZero total
           nonempty := fun _ => fromLow },
          fun isZero => absurd isZero isEmpty⟩
    · rintro ⟨valid, _⟩
      exact ⟨(validateCounts_eq_ok conforms).mpr valid.counted,
        (validateNonempty_eq_ok conforms exact_ isEmpty valid.counted).mpr (valid.nonempty total)⟩

end Mind

end PortableTpcc
