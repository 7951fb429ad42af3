import PortableTpcc.FallibleChecks
import PortableTpcc.HistogramLayout

namespace PortableTpcc

/-!
# `THistogram`

The histogram of `histogram.cpp`, and what it keeps of the samples recorded in
it: the summary of the samples, as long as no 64-bit counter overflows.
-/

/-- `THistogram::GetTotalBuckets`. -/
def getTotalBuckets (layout : HistogramLayout) : Nat :=
  addBucketCounts layout.hdrTill.toNat (octaves layout.hdrTill layout.maxValue)

/-- `THistogram`: it always has the buckets of its layout. -/
structure THistogram where
  layout : HistogramLayout
  buckets : List UInt64
  totalCount : UInt64
  overflowCount : UInt64
  maxRecordedValue : UInt64
  minRecordedValue : UInt64
  sumValues : UInt64
  sized : buckets.length = getTotalBuckets layout

namespace THistogram

/-- A new histogram of a layout, or one after `Reset`. -/
def empty (layout : HistogramLayout) : THistogram where
  layout
  buckets := List.replicate (getTotalBuckets layout) 0
  totalCount := 0
  overflowCount := 0
  maxRecordedValue := 0
  minRecordedValue := maxUint64
  sumValues := 0
  sized := List.length_replicate

/-- The constructor. -/
def create (hdrTill maxValue : UInt64) : Except String THistogram :=
  if valid : 0 < hdrTill ∧ 0 < maxValue ∧ hdrTill ≤ maxValue then
    .ok (empty ⟨hdrTill, maxValue, valid.1, valid.2.2⟩)
  else
    .error "Invalid histogram parameters"

/--
What `GetBucketIndex` does at an octave, with the index of its first bucket and
the bucket found so far; the number of all buckets says that none was found.
-/
def findBucket (size : Nat) (value : UInt64) (progress : Nat × Nat) (octave : Octave) : Nat × Nat :=
  let (index, found) := progress
  if found ≠ size then
    (index, found)
  else if value ≥ octave.start ∧ value < octave.stop then
    (index, index + octave.sub value)
  else
    (index + octave.nsubs, found)

/-- `THistogram::GetBucketIndex`. -/
def getBucketIndex (hist : THistogram) (value : UInt64) : Except String Nat :=
  if value < hist.layout.hdrTill then
    .ok value.toNat
  else
    let size := hist.buckets.length
    let found :=
      ((octaves hist.layout.hdrTill hist.layout.maxValue).foldl
        (findBucket size value) (hist.layout.hdrTill.toNat, size)).2
    if found = size then
      .error "THistogram internal error"
    else
      .ok found

/-- `THistogram::RecordValue`. -/
def recordValue (hist : THistogram) (value : UInt64) :
    Except String THistogram := do
  let counted :=
    { hist with
      totalCount := hist.totalCount + 1
      maxRecordedValue := max hist.maxRecordedValue value
      minRecordedValue := min hist.minRecordedValue value
      sumValues := hist.sumValues + value }
  if value ≥ hist.layout.maxValue then
    return { counted with overflowCount := hist.overflowCount + 1 }
  let bucketIndex ← hist.getBucketIndex value
  if bucketIndex ≥ hist.buckets.length then
    throw "THistogram internal error"
  return { counted with
    buckets := hist.buckets.modify bucketIndex (· + 1)
    sized := by rw [List.length_modify]; exact hist.sized }

/-- Record samples one after the other. -/
def recordValues (hist : THistogram) (values : List UInt64) : Except String THistogram :=
  values.foldlM recordValue hist

/-- The loop of `Add` over the buckets both histograms have. -/
def addBuckets : List UInt64 → List UInt64 → List UInt64
  | own :: rest, other :: others => (own + other) :: addBuckets rest others
  | own, _ => own

theorem length_addBuckets (own other : List UInt64) :
    (addBuckets own other).length = own.length := by
  fun_induction addBuckets own other with
  | case1 own rest other others ih =>
    simp [ih]
  | case2 =>
    rfl

/-- `THistogram::Add`. -/
def add (hist other : THistogram) : Except String THistogram :=
  if hist.layout.hdrTill ≠ other.layout.hdrTill ∨ hist.layout.maxValue ≠ other.layout.maxValue then
    .error "Cannot add histograms with different parameters"
  else
    .ok
      { layout := hist.layout
        buckets := addBuckets hist.buckets other.buckets
        totalCount := hist.totalCount + other.totalCount
        overflowCount := hist.overflowCount + other.overflowCount
        maxRecordedValue := max hist.maxRecordedValue other.maxRecordedValue
        minRecordedValue :=
          if other.totalCount > 0 then
            min hist.minRecordedValue other.minRecordedValue
          else
            hist.minRecordedValue
        sumValues := hist.sumValues + other.sumValues
        sized := by rw [length_addBuckets]; exact hist.sized }

/-- `THistogram::MinRecordedValue`. -/
def minRecorded (hist : THistogram) : UInt64 :=
  if hist.totalCount = 0 then
    0
  else
    hist.minRecordedValue

theorem foldl_findBucket_of_found {size found : Nat} (value : UInt64) (index : Nat)
    (octaves : List Octave) (isFound : found ≠ size) :
    octaves.foldl (findBucket size value) (index, found) = (index, found) := by
  induction octaves with
  | nil =>
    rfl
  | cons octave rest ih =>
    have unchanged : findBucket size value (index, found) octave = (index, found) := if_pos isFound
    rw [List.foldl_cons, unchanged, ih]

variable {value : UInt64}

/-- The search ends in the octave that holds the value, after the buckets before it. -/
theorem foldl_findBucket_hit {first last size : Nat} {octaves : List Octave}
    (chain : IsChain first (octaves.map Octave.piece) last) (index : Nat)
    (room : index + slotCount (octaves.map Octave.piece) ≤ size) (above : first ≤ value.toNat)
    (below : value.toNat < last) : ∃ (octave : Octave) (before : Nat),
      octave.start ≤ value ∧ value < octave.stop ∧ before + octave.nsubs ≤ size ∧
      (octaves.foldl (findBucket size value) (index, size)).2 = before + octave.sub value ∧
      pieceSlot (octaves.map Octave.piece) index value.toNat =
        before + octave.piece.offset value.toNat := by
  induction octaves generalizing first index with
  | nil =>
    obtain rfl : first = last := chain
    omega
  | cons octave rest ih =>
    obtain ⟨rfl, _, _, others⟩ := chain
    have startLe : octave.start ≤ value := UInt64.le_iff_toNat_le.mpr above
    have counts : slotCount ((octave :: rest).map Octave.piece) =
        octave.nsubs + slotCount (rest.map Octave.piece) := by
      simp [slotCount, Octave.piece]
    rw [counts] at room
    rw [List.foldl_cons, List.map_cons, pieceSlot]
    by_cases inside : value.toNat < octave.piece.stop
    · have stopLt : value < octave.stop := UInt64.lt_iff_toNat_lt.mpr inside
      have found : findBucket size value (index, size) octave =
          (index, index + octave.sub value) := by
        simp [findBucket, startLe, stopLt]
      have within := octave.sub_lt value
      refine ⟨octave, index, startLe, stopLt, by omega, ?_, if_pos inside⟩
      rw [found, foldl_findBucket_of_found]
      omega
    · have stopLe : ¬ value < octave.stop :=
        fun below => inside (UInt64.lt_iff_toNat_lt.mp below)
      have next : findBucket size value (index, size) octave = (index + octave.nsubs, size) := by
        simp [findBucket, stopLe]
      rw [next, if_neg inside]
      exact ih others (index + octave.nsubs) (by omega) (not_lt.mp inside)

/-- The octaves are searched for the one that holds the value. -/
theorem foldl_findBucket {first last size : Nat} {octaves : List Octave}
    (chain : IsChain first (octaves.map Octave.piece) last) (index : Nat)
    (room : index + slotCount (octaves.map Octave.piece) ≤ size) (above : first ≤ value.toNat)
    (below : value.toNat < last) (small : value.toNat < 2 ^ 58) :
    (octaves.foldl (findBucket size value) (index, size)).2 =
      pieceSlot (octaves.map Octave.piece) index value.toNat := by
  rcases foldl_findBucket_hit chain index room above below with
    ⟨octave, before, startLe, stopLt, _, found, slot⟩
  rw [found, slot, Octave.sub_eq_offset startLe stopLt small]

theorem length_buckets (hist : THistogram) : hist.buckets.length = hist.layout.slots.size :=
  hist.sized.trans hist.layout.addBucketCounts_octaves

variable {hist : THistogram}

/-- `GetBucketIndex` finds the slot of the layout. -/
theorem getBucketIndex_eq (below : value < hist.layout.maxValue) (small : value.toNat < 2 ^ 58) :
    hist.getBucketIndex value = .ok (hist.layout.slots.slot value.toNat) := by
  have inRange : value.toNat < hist.layout.slots.limit := UInt64.lt_iff_toNat_lt.mp below
  have bound := hist.layout.slots.slot_lt inRange
  unfold getBucketIndex
  by_cases linear : value < hist.layout.hdrTill
  · rw [if_pos linear]
    have isLinear : value.toNat < hist.layout.hdrTill.toNat := UInt64.lt_iff_toNat_lt.mp linear
    have slot : hist.layout.slots.slot value.toNat = value.toNat := if_pos isLinear
    rw [slot]
  · have notLinear : ¬ value.toNat < hist.layout.hdrTill.toNat :=
      fun less => linear (UInt64.lt_iff_toNat_lt.mpr less)
    have slot : hist.layout.slots.slot value.toNat =
          pieceSlot hist.layout.pieces hist.layout.hdrTill.toNat value.toNat :=
      if_neg notLinear
    have found :=
      foldl_findBucket hist.layout.isChain_pieces hist.layout.hdrTill.toNat
        (hist.length_buckets).ge (not_lt.mp notLinear) inRange small
    rw [slot] at bound ⊢
    rw [if_neg linear]
    dsimp only
    rw [found, if_neg (by rw [length_buckets]; exact bound.ne)]
    rfl

/-- The histogram keeps exactly the summary. -/
structure Represents (hist : THistogram) (summary : Summary) : Prop where
  buckets : ∀ index, (hist.buckets.getD index 0).toNat = summary.buckets index
  total : hist.totalCount.toNat = summary.total
  overflow : hist.overflowCount.toNat = summary.overflow
  greatest : hist.maxRecordedValue.toNat = summary.greatest
  least : hist.minRecordedValue.toNat = summary.least.untopD maxUint64.toNat
  sum : hist.sumValues.toNat = summary.sum

theorem represents_empty (layout : HistogramLayout) : (empty layout).Represents 0 where
  buckets index := by
    by_cases inside : index < getTotalBuckets layout
    · simp [empty, inside]
    · simp [empty, inside]
  total := rfl
  overflow := rfl
  greatest := rfl
  least := rfl
  sum := rfl

variable {summary : Summary}

theorem Represents.unique {other : THistogram} (represents : hist.Represents summary)
    (otherRepresents : other.Represents summary) (sameLayout : hist.layout = other.layout) :
    hist = other := by
  have buckets : hist.buckets = other.buckets := by
    apply buckets_unique
    · rw [hist.sized, other.sized, sameLayout]
    · intro index
      rw [represents.buckets, otherRepresents.buckets]
  have total := UInt64.toNat_inj.mp (represents.total.trans otherRepresents.total.symm)
  have overflow := UInt64.toNat_inj.mp (represents.overflow.trans otherRepresents.overflow.symm)
  have greatest := UInt64.toNat_inj.mp (represents.greatest.trans otherRepresents.greatest.symm)
  have least := UInt64.toNat_inj.mp (represents.least.trans otherRepresents.least.symm)
  have sum := UInt64.toNat_inj.mp (represents.sum.trans otherRepresents.sum.symm)
  cases hist
  cases other
  simp_all

theorem toNat_getD_modify (buckets : List UInt64) (index other : Nat)
    (inside : index < buckets.length) (noOverflow : (buckets.getD index 0).toNat + 1 < 2 ^ 64) :
    ((buckets.modify index (· + 1)).getD other 0).toNat =
      (buckets.getD other 0).toNat + if index = other then 1 else 0 := by
  simp only [List.getD_eq_getElem?_getD, List.getElem?_modify]
    at noOverflow ⊢
  by_cases same : index = other
  · subst same
    rw [List.getElem?_eq_getElem inside] at noOverflow ⊢
    have added : (buckets[index] + 1).toNat = buckets[index].toNat + 1 := toNat_add_of_lt noOverflow
    simpa using added
  · cases buckets[other]? <;> simp [same]

theorem recordValue_represents (represents : hist.Represents summary)
    (valid : hist.layout.slots.Valid summary)
    (fits : (summary + hist.layout.slots.single value.toNat).Fits) (small : value.toNat < 2 ^ 58) :
    ∃ next, hist.recordValue value = .ok next ∧ next.layout = hist.layout ∧
      next.Represents (summary + hist.layout.slots.single value.toNat) := by
  have totalFits : hist.totalCount.toNat + 1 < 2 ^ 64 := by
    rw [represents.total]
    exact fits.total
  have sumFits : hist.sumValues.toNat + value.toNat < 2 ^ 64 := by
    rw [represents.sum]
    exact fits.sum
  have total : (hist.totalCount + 1).toNat = summary.total + 1 := by
    rw [← represents.total]
    exact toNat_add_of_lt totalFits
  have sum : (hist.sumValues + value).toNat = summary.sum + value.toNat := by
    rw [← represents.sum]
    exact toNat_add_of_lt sumFits
  have greatest : (max hist.maxRecordedValue value).toNat =
        max summary.greatest value.toNat := by
    rw [toNat_max_uint64, represents.greatest]
  have least : (min hist.minRecordedValue value).toNat =
      (min summary.least value.toNat).untopD maxUint64.toNat := by
    have minBound := hist.minRecordedValue.toNat_lt
    have valueBound := value.toNat_lt
    rw [represents.least] at minBound
    rw [toNat_min_uint64, represents.least, untopD_min]
    · rfl
    · rw [toNat_maxUint64] at minBound ⊢
      omega
    · change value.toNat ≤ maxUint64.toNat
      rw [toNat_maxUint64]
      omega
  by_cases inRange : value < hist.layout.maxValue
  · have belowLimit : value.toNat < hist.layout.slots.limit := UInt64.lt_iff_toNat_lt.mp inRange
    have inside : hist.layout.slots.slot value.toNat < hist.buckets.length := by
      rw [length_buckets]
      exact hist.layout.slots.slot_lt belowLimit
    have bucketFits : (hist.buckets.getD (hist.layout.slots.slot value.toNat) 0).toNat + 1 <
        2 ^ 64 := by
      have bound := valid.buckets_le (hist.layout.slots.slot value.toNat)
      have totalBound := fits.total
      rw [represents.buckets]
      change summary.total + 1 < 2 ^ 64 at totalBound
      omega
    have recorded : hist.recordValue value = .ok
            { hist with
              totalCount := hist.totalCount + 1
              maxRecordedValue := max hist.maxRecordedValue value
              minRecordedValue := min hist.minRecordedValue value
              sumValues := hist.sumValues + value
              buckets := hist.buckets.modify (hist.layout.slots.slot value.toNat) (· + 1)
              sized := by rw [List.length_modify]; exact hist.sized } := by
      unfold recordValue
      rw [if_neg (by rw [ge_iff_le, UInt64.not_le]; exact inRange),
        getBucketIndex_eq inRange small, ok_bind, if_neg (not_le.mpr inside)]
      rfl
    refine ⟨_, recorded, rfl, ?_, total, ?_, greatest, least, sum⟩
    · intro index
      simp only [toNat_getD_modify _ _ _ inside bucketFits, represents.buckets]
      simp [Slotting.single, belowLimit]
    · simpa [Slotting.single, belowLimit] using represents.overflow
  · have outside : ¬ value.toNat < hist.layout.slots.limit :=
      fun below => inRange (UInt64.lt_iff_toNat_lt.mpr below)
    have overflow : (hist.overflowCount + 1).toNat = summary.overflow + 1 := by
      have bound := valid.overflow_le
      rw [← represents.overflow]
      apply toNat_add_of_lt
      rw [represents.total] at totalFits
      rw [represents.overflow]
      exact (Nat.add_le_add_right bound 1).trans_lt totalFits
    have recorded : hist.recordValue value = .ok
            { hist with
              totalCount := hist.totalCount + 1
              maxRecordedValue := max hist.maxRecordedValue value
              minRecordedValue := min hist.minRecordedValue value
              sumValues := hist.sumValues + value
              overflowCount := hist.overflowCount + 1 } := by
      unfold recordValue
      rw [if_pos (UInt64.not_lt.mp inRange)]
      rfl
    refine ⟨_, recorded, rfl, ?_, total, ?_, greatest, least, sum⟩
    · intro index
      simpa [Slotting.single, outside] using represents.buckets index
    · simpa [Slotting.single, outside] using overflow

theorem recordValues_represents {values : List UInt64} (represents : hist.Represents summary)
    (valid : hist.layout.slots.Valid summary)
    (fits : (summary + hist.layout.slots.summary (values.map UInt64.toNat)).Fits)
    (small : ∀ value ∈ values, value.toNat < 2 ^ 58) :
    ∃ next, hist.recordValues values = .ok next ∧ next.layout = hist.layout ∧ next.Represents
      (summary + hist.layout.slots.summary (values.map UInt64.toNat)) := by
  induction values generalizing hist summary with
  | nil =>
    refine ⟨hist, rfl, rfl, ?_⟩
    simpa using represents
  | cons value rest ih =>
    rw [List.map_cons, Slotting.summary_cons, ← add_assoc] at fits ⊢
    obtain ⟨middle, recorded, sameLayout, middleRepresents⟩ :=
      recordValue_represents represents valid fits.left (small value List.mem_cons_self)
    have middleValid := valid.add (Slotting.valid_single value.toNat)
    rw [← sameLayout] at middleRepresents middleValid fits ⊢
    obtain ⟨next, recordedRest, nextLayout, nextRepresents⟩ :=
      ih middleRepresents middleValid fits
        fun other isIn => small other (List.mem_cons_of_mem _ isIn)
    refine ⟨next, ?_, nextLayout, nextRepresents⟩
    unfold recordValues at recordedRest ⊢
    rw [List.foldlM_cons, recorded]
    exact recordedRest

theorem toNat_getD_addBuckets {own other : List UInt64} (sameLength : own.length = other.length)
    (noOverflow : ∀ index, (own.getD index 0).toNat + (other.getD index 0).toNat < 2 ^ 64)
    (index : Nat) :
    ((addBuckets own other).getD index 0).toNat =
      (own.getD index 0).toNat + (other.getD index 0).toNat := by
  induction own generalizing other index with
  | nil =>
    have otherNil : other = [] := List.length_eq_zero_iff.mp sameLength.symm
    subst otherNil
    simp [addBuckets]
  | cons count rest ih =>
    cases other with
    | nil =>
      simp at sameLength
    | cons otherCount others =>
      cases index with
      | zero =>
        exact toNat_add_of_lt (noOverflow 0)
      | succ index =>
        exact ih (Nat.succ.inj sameLength)
          (fun index => noOverflow (index + 1)) index

theorem add_represents {other : THistogram} {first second : Summary}
    (represents : hist.Represents first) (otherRepresents : other.Represents second)
    (sameLayout : other.layout = hist.layout) (valid : hist.layout.slots.Valid first)
    (otherValid : hist.layout.slots.Valid second) (fits : (first + second).Fits) :
    ∃ sum, hist.add other = .ok sum ∧ sum.layout = hist.layout ∧
      sum.Represents (first + second) := by
  have sumValid := valid.add otherValid
  have sameLength : hist.buckets.length = other.buckets.length := by
    rw [hist.length_buckets, other.length_buckets, sameLayout]
  have added : hist.add other = .ok _ := if_neg (by simp [sameLayout])
  refine ⟨_, added, rfl, ?_, ?_, ?_, ?_, ?_, ?_⟩
  · intro index
    dsimp only
    rw [toNat_getD_addBuckets sameLength, represents.buckets, otherRepresents.buckets]
    · rfl
    · intro index
      rw [represents.buckets, otherRepresents.buckets]
      exact (sumValid.buckets_le index).trans_lt fits.total
  · change (hist.totalCount + other.totalCount).toNat = _
    have noOverflow := fits.total
    rw [Summary.add_total, ← represents.total, ← otherRepresents.total]
      at noOverflow ⊢
    exact toNat_add_of_lt noOverflow
  · change (hist.overflowCount + other.overflowCount).toNat = _
    have noOverflow := sumValid.overflow_le.trans_lt fits.total
    rw [Summary.add_overflow, ← represents.overflow, ← otherRepresents.overflow] at noOverflow ⊢
    exact toNat_add_of_lt noOverflow
  · change (max hist.maxRecordedValue other.maxRecordedValue).toNat = _
    rw [toNat_max_uint64, represents.greatest, otherRepresents.greatest]
    rfl
  · dsimp only
    by_cases isEmpty : other.totalCount = 0
    · -- The other histogram is empty, and so is what it keeps.
      have noSamples : second.total = 0 := by
        rw [← otherRepresents.total, isEmpty]
        rfl
      rw [isEmpty, if_neg (by decide), otherValid.empty noSamples, add_zero]
      exact represents.least
    · have someSamples : other.totalCount > 0 := UInt64.pos_iff_ne_zero.mpr isEmpty
      have bound := hist.minRecordedValue.toNat_lt
      have otherBound := other.minRecordedValue.toNat_lt
      rw [represents.least] at bound
      rw [otherRepresents.least] at otherBound
      rw [if_pos someSamples, toNat_min_uint64, represents.least,
        otherRepresents.least, Summary.add_least, untopD_min]
      · rw [toNat_maxUint64] at bound ⊢
        omega
      · rw [toNat_maxUint64] at otherBound ⊢
        omega
  · change (hist.sumValues + other.sumValues).toNat = _
    have noOverflow := fits.sum
    rw [Summary.add_sum, ← represents.sum, ← otherRepresents.sum]
      at noOverflow ⊢
    exact toNat_add_of_lt noOverflow

end THistogram

end PortableTpcc
