import PortableTpcc.HistogramBounds
import PortableTpcc.HistogramJson
import PortableTpcc.RankedSamples

namespace PortableTpcc

/-!
# Percentiles

`GetValueAtPercentile` of `histogram.cpp` and `ValueAtPercentile` of `merge.go`:
both add up the buckets until there are as many samples as the rank of the
percentile says, and answer the upper bound of the bucket where that happens.
How the rank is rounded is left open.
-/

/--
The loop over the buckets: the samples counted, and the bucket where the target
was reached.
-/
def scanBuckets (targetCount : UInt64) :
    List UInt64 → UInt64 → Nat → UInt64 × Option Nat
  | [], currentCount, _ => (currentCount, none)
  | count :: rest, currentCount, i =>
    let currentCount := currentCount + count
    if currentCount ≥ targetCount then
      (currentCount, some i)
    else
      scanBuckets targetCount rest currentCount (i + 1)

/-- `THistogram::GetValueAtPercentile` from `targetCount` on. -/
def THistogram.getValueAtRank (hist : THistogram) (targetCount : UInt64) : UInt64 :=
  match scanBuckets targetCount hist.buckets 0 0 with
  | (_, some i) => hist.getBucketUpperBound i
  | (currentCount, none) =>
    if hist.overflowCount > 0 ∧ currentCount + hist.overflowCount ≥ targetCount then
      hist.layout.maxValue
    else
      maxUint64

/--
`THistogram::GetValueAtPercentile`, where `rankOf` rounds the percentile of a
total up.
-/
def THistogram.getValueAtPercentile (rankOf : ℚ → UInt64 → UInt64) (hist : THistogram)
    (percentile : ℚ) : Except String UInt64 :=
  if percentile < 0 ∨ percentile > 100 then
    .error "Percentile must be between 0 and 100"
  else if hist.totalCount = 0 then
    .ok 0
  else
    .ok (hist.getValueAtRank (rankOf percentile hist.totalCount))

namespace Mind

/-- `ValueAtPercentile` from `target` on. -/
def valueAtRank (h : RawFields) (target : UInt64) : UInt64 :=
  match scanBuckets target h.buckets 0 0 with
  | (_, some i) => bucketUpperBound h i
  | (current, none) =>
    if h.overflowCount > 0 ∧ current + h.overflowCount ≥ target then
      h.maxValue
    else
      maxUint64

/-- `ValueAtPercentile`. -/
def valueAtPercentile (rankOf : ℚ → UInt64 → UInt64) (h : RawFields)
    (percentile : ℚ) : Except String UInt64 :=
  if percentile < 0 ∨ percentile > 100 then
    .error "percentile must be between 0 and 100"
  else if h.totalCount = 0 then
    .ok 0
  else
    .ok (valueAtRank h (rankOf percentile h.totalCount))

theorem valueAtRank_ofHistogram (hist : THistogram) (unit : String) (target : UInt64) :
    valueAtRank (.ofHistogram hist unit) target = hist.getValueAtRank target := by
  have bounds : bucketUpperBound (.ofHistogram hist unit) = hist.getBucketUpperBound :=
    funext fun index => (getBucketUpperBound_eq rfl rfl index).symm
  unfold valueAtRank
  rw [bounds]
  rfl

end Mind

namespace THistogram

/-- The counters are those of the samples, modulo the size of a word. -/
structure Tallies (hist : THistogram) (samples : List ℕ) : Prop where
  bucket : ∀ index, hist.buckets.getD index 0 = UInt64.ofNat (hist.layout.slots.tally samples index)
  total : hist.totalCount = UInt64.ofNat samples.length
  overflow :
    hist.overflowCount =
      UInt64.ofNat
        (samples.countP fun value => hist.layout.slots.limit ≤ value)

theorem tallies_empty (layout : HistogramLayout) : (empty layout).Tallies [] where
  bucket index := by
    by_cases inside : index < getTotalBuckets layout
    · simp [empty, inside, Slotting.tally]
    · simp [empty, inside, Slotting.tally]
  total := rfl
  overflow := rfl

theorem getD_modify_succ {buckets : List UInt64} {index : Nat} (inside : index < buckets.length)
    (other : Nat) :
    (buckets.modify index (· + 1)).getD other 0 =
      buckets.getD other 0 + if index = other then 1 else 0 := by
  simp only [List.getD_eq_getElem?_getD, List.getElem?_modify]
  by_cases same : index = other
  · subst same
    simp [List.getElem?_eq_getElem inside]
  · cases buckets[other]? <;> simp [same]

theorem Tallies.recordValue {hist next : THistogram} {samples : List ℕ} {value : UInt64}
    (tallies : hist.Tallies samples) (small : value.toNat < 2 ^ 58)
    (recorded : hist.recordValue value = .ok next) :
    next.layout = hist.layout ∧ next.Tallies (samples ++ [value.toNat]) := by
  unfold THistogram.recordValue at recorded
  by_cases inRange : value < hist.layout.maxValue
  · have belowLimit : value.toNat < hist.layout.slots.limit := UInt64.lt_iff_toNat_lt.mp inRange
    have inside : hist.layout.slots.slot value.toNat < hist.buckets.length := by
      rw [length_buckets]
      exact hist.layout.slots.slot_lt belowLimit
    rw [if_neg (UInt64.not_le.mpr inRange), getBucketIndex_eq inRange small,
      ok_bind, if_neg (not_le.mpr inside)] at recorded
    cases recorded
    refine ⟨rfl, ?_, ?_, ?_⟩
    · intro index
      have counted := getD_modify_succ inside index
      rw [tallies.bucket] at counted
      refine counted.trans ?_
      by_cases same : hist.layout.slots.slot value.toNat = index
      · simp [Slotting.tally, belowLimit, same]
      · simp [Slotting.tally, same]
    · simp [tallies.total]
    · simpa [not_le.mpr belowLimit] using tallies.overflow
  · have outside : hist.layout.slots.limit ≤ value.toNat :=
      UInt64.le_iff_toNat_le.mp (UInt64.not_lt.mp inRange)
    rw [if_pos (UInt64.not_lt.mp inRange)] at recorded
    cases recorded
    refine ⟨rfl, ?_, ?_, ?_⟩
    · intro index
      simpa [Slotting.tally, not_lt.mpr outside] using tallies.bucket index
    · simp [tallies.total]
    · simp [tallies.overflow, outside]

theorem Tallies.recordValues {hist last : THistogram} {samples : List ℕ} {values : List UInt64}
    (tallies : hist.Tallies samples) (small : ∀ value ∈ values, value.toNat < 2 ^ 58)
    (recorded : hist.recordValues values = .ok last) :
    last.layout = hist.layout ∧ last.Tallies (samples ++ values.map UInt64.toNat) := by
  induction values generalizing hist samples with
  | nil =>
    cases recorded
    rw [List.map_nil, List.append_nil]
    exact ⟨rfl, tallies⟩
  | cons value rest ih =>
    obtain ⟨next, one, others⟩ : ∃ next, hist.recordValue value = .ok next ∧
        next.recordValues rest = .ok last := by
      obtain ⟨next, one⟩ := hist.recordValue_ok value
      refine ⟨next, one, ?_⟩
      unfold THistogram.recordValues at recorded
      rw [List.foldlM_cons, one] at recorded
      exact recorded
    obtain ⟨sameLayout, counted⟩ := tallies.recordValue (small value List.mem_cons_self) one
    obtain ⟨lastLayout, all⟩ :=
      ih counted
        (fun other isIn => small other (List.mem_cons_of_mem _ isIn)) others
    rw [List.append_assoc] at all
    exact ⟨lastLayout.trans sameLayout, all⟩

theorem recordValues_ok (hist : THistogram) (values : List UInt64) :
    ∃ last, hist.recordValues values = .ok last := by
  induction values generalizing hist with
  | nil =>
    exact ⟨hist, rfl⟩
  | cons value rest ih =>
    obtain ⟨next, one⟩ := hist.recordValue_ok value
    obtain ⟨last, others⟩ := ih next
    refine ⟨last, ?_⟩
    unfold THistogram.recordValues
    rw [List.foldlM_cons, one]
    exact others

end THistogram

/-- Where the scan stops, if the counts are those of the slots from one on. -/
theorem scanBuckets_spec {slots : Slotting} {samples : List ℕ} {target : UInt64}
    (few : samples.length < 2 ^ 64) (counts : List UInt64) (current : UInt64) (first : Nat)
    (isTally : ∀ offset < counts.length,
      counts.getD offset 0 = UInt64.ofNat (slots.tally samples (first + offset)))
    (isBefore : current.toNat = slots.before samples first)
    (notYet : slots.before samples first < target.toNat) :
    (∃ counted index, scanBuckets target counts current first = (counted, some index) ∧
      index < first + counts.length ∧ slots.before samples index < target.toNat ∧
      target.toNat ≤ slots.before samples (index + 1)) ∨ ∃ counted,
      scanBuckets target counts current first = (counted, none) ∧
      counted.toNat = slots.before samples (first + counts.length) ∧
      counted.toNat < target.toNat := by
  induction counts generalizing current first with
  | nil =>
    exact .inr ⟨current, rfl, isBefore, isBefore ▸ notYet⟩
  | cons count rest ih =>
    have here : count = UInt64.ofNat (slots.tally samples first) := isTally 0 (Nat.succ_pos _)
    have next : (current + count).toNat = slots.before samples (first + 1) := by
      have bound : slots.before samples (first + 1) ≤ samples.length := Slotting.before_le _
      rw [Slotting.before_succ] at bound
      have isCount : count.toNat = slots.tally samples first := by
        rw [here]
        exact UInt64.toNat_ofNat_of_lt' (by
          change slots.tally samples first < 2 ^ 64
          omega)
      rw [toNat_add_of_lt (by omega), isBefore, isCount, Slotting.before_succ]
    unfold scanBuckets
    dsimp only
    by_cases reached : current + count ≥ target
    · have reachedNat := UInt64.le_iff_toNat_le.mp reached
      rw [if_pos reached]
      refine .inl ⟨_, first, rfl, ?_, notYet, next ▸ reachedNat⟩
      rw [List.length_cons]
      omega
    · have notReached : (current + count).toNat < target.toNat :=
        UInt64.lt_iff_toNat_lt.mp (UInt64.not_le.mp reached)
      have later :=
        ih (current + count) (first + 1) ?_ next
          (next ▸ notReached)
      · rw [if_neg reached, List.length_cons, Nat.add_comm rest.length 1, ← Nat.add_assoc]
        exact later
      · intro offset inside
        have shifted := isTally (offset + 1) (Nat.succ_lt_succ inside)
        rw [Nat.add_comm offset 1, ← Nat.add_assoc] at shifted
        rw [← shifted, Nat.add_comm 1 offset]
        rfl

/-- The bound of a bucket is not far above the values in it. -/
theorem HistogramLayout.upper_slot_le (layout : HistogramLayout) {value : ℕ}
    (below : value < layout.slots.limit) :
    layout.upper (layout.slots.slot value) ≤ value + max 1 (value / 64) := by
  change piecewiseUpper _ _ _ (if value < layout.hdrTill.toNat then value
        else pieceSlot layout.pieces layout.hdrTill.toNat value) ≤ _
  unfold piecewiseUpper
  by_cases linear : value < layout.hdrTill.toNat
  · rw [if_pos linear, if_pos linear]
    exact Nat.add_le_add_left (le_max_left _ _) _
  · have later := le_pieceSlot layout.pieces layout.hdrTill.toNat value
    rw [if_neg linear, if_neg (not_lt.mpr later)]
    have monotone : Monotone fun value : ℕ => max 1 (value / 64) := by
      intro low high ordered
      exact max_le_max le_rfl (Nat.div_le_div_right ordered)
    apply layout.isChain_pieces.pieceUpper_le_add layout.fine_pieces monotone
    · intro piece isIn
      obtain ⟨octave, isOctave, rfl⟩ := List.mem_map.mp isIn
      exact (layout.regular_octaves octave isOctave).narrow
    · exact not_lt.mp linear
    · exact below

/-- What the answer for a rank says about the samples. -/
structure AnswersRank (maxValue : ℕ) (samples : List ℕ) (rank answer : ℕ) : Prop where
  enough :
    rank ≤ samples.countP (fun value => value ≤ answer) ∨ answer = maxValue
  /-- The answer is the sample of that rank, rounded up. -/
  close : ∀ value, IsNth samples rank value → value < maxValue →
    value ≤ answer ∧ answer ≤ value + max 1 (value / 64)
  censored : ∀ value, IsNth samples rank value → maxValue ≤ value → answer = maxValue
  notSentinel : answer ≠ maxUint64.toNat

namespace THistogram

variable {hist : THistogram} {samples : List ℕ} {rank : UInt64}

/--
The answer is the bound of the bucket where the rank is reached, or the greatest
value if none reaches it.
-/
theorem Tallies.getValueAtRank_spec (tallies : hist.Tallies samples)
    (few : samples.length < 2 ^ 64) (positive : 1 ≤ rank.toNat)
    (inside : rank.toNat ≤ samples.length) :
    (∃ index < hist.layout.slots.size, hist.layout.slots.before samples index < rank.toNat ∧
      rank.toNat ≤ hist.layout.slots.before samples (index + 1) ∧
      hist.getValueAtRank rank = hist.getBucketUpperBound index) ∨
      hist.layout.slots.before samples hist.layout.slots.size < rank.toNat ∧
      hist.getValueAtRank rank = hist.layout.maxValue := by
  have size := hist.length_buckets
  have isTally : ∀ offset < hist.buckets.length, hist.buckets.getD offset 0 =
      UInt64.ofNat (hist.layout.slots.tally samples (0 + offset)) := by
    intro offset _
    rw [Nat.zero_add]
    exact tallies.bucket offset
  have notYet : hist.layout.slots.before samples 0 < rank.toNat := by
    rw [Slotting.before_zero]
    exact positive
  have scanned := scanBuckets_spec few hist.buckets 0 0 isTally Slotting.before_zero.symm notYet
  rw [Nat.zero_add, size] at scanned
  rcases scanned with
    ⟨counted, index, stopped, isBucket, passed, reached⟩ | ⟨counted, ended, isCount, notReached⟩
  · refine .inl ⟨index, isBucket, passed, reached, ?_⟩
    unfold getValueAtRank
    rw [stopped]
  · have all := hist.layout.slots.before_size_add samples
    have beyond : hist.overflowCount.toNat =
        samples.countP fun value => hist.layout.slots.limit ≤ value := by
      rw [tallies.overflow]
      apply UInt64.toNat_ofNat_of_lt'
      change _ < 2 ^ 64
      omega
    have someBeyond : hist.overflowCount > 0 := by
      apply UInt64.lt_iff_toNat_lt.mpr
      change 0 < hist.overflowCount.toNat
      omega
    have reached : counted + hist.overflowCount ≥ rank := by
      apply UInt64.le_iff_toNat_le.mpr
      rw [toNat_add_of_lt (by omega)]
      omega
    refine .inr ⟨isCount ▸ notReached, ?_⟩
    unfold getValueAtRank
    rw [ended]
    exact if_pos ⟨someBeyond, reached⟩

theorem Tallies.answersRank (tallies : hist.Tallies samples)
    (small : hist.layout.maxValue.toNat ≤ 2 ^ 58) (few : samples.length < 2 ^ 64)
    (positive : 1 ≤ rank.toNat) (inside : rank.toNat ≤ samples.length) :
    AnswersRank hist.layout.maxValue.toNat samples rank.toNat (hist.getValueAtRank rank).toNat := by
  have bounds := hist.layout.bounds
  have sentinel : maxUint64.toNat = 2 ^ 64 - 1 := toNat_maxUint64
  rcases tallies.getValueAtRank_spec few positive inside with
    ⟨index, isBucket, passed, reached, answer⟩ | ⟨notReached, answer⟩
  · rw [answer, toNat_getBucketUpperBound small]
    constructor
    · exact .inl (reached.trans (bounds.before_le isBucket))
    · intro value nth below
      obtain rfl : index = hist.layout.slots.slot value :=
        Slotting.before_unique passed reached (Slotting.before_slot_lt nth)
          (Slotting.le_before_slot nth below)
      exact ⟨bounds.le_upper below, hist.layout.upper_slot_le below⟩
    · intro value nth beyond
      have notReached : hist.layout.slots.before samples (index + 1) < rank.toNat :=
        Slotting.before_lt_of_limit_le nth beyond _
      exact absurd reached (not_le.mpr notReached)
    · obtain ⟨value, below, rfl⟩ := bounds.onto isBucket
      have close := hist.layout.upper_slot_le below
      change value < hist.layout.maxValue.toNat at below
      omega
  · rw [answer]
    constructor
    · exact .inr rfl
    · intro value nth below
      have enough : rank.toNat ≤ hist.layout.slots.before samples
          (hist.layout.slots.slot value + 1) :=
        Slotting.le_before_slot nth below
      have ordered : hist.layout.slots.before samples (hist.layout.slots.slot value + 1) ≤
            hist.layout.slots.before samples hist.layout.slots.size :=
        Slotting.before_mono (hist.layout.slots.slot_lt below)
      exact absurd (enough.trans ordered) (not_le.mpr notReached)
    · intro value nth beyond
      rfl
    · omega

end THistogram

section

variable {layout : HistogramLayout} {samples : List UInt64} {hist : THistogram}
variable {rankOf : ℚ → UInt64 → UInt64} {percentile : ℚ}

/--
Both programs answer the sample of the rank, rounded up by a 64th at most, or
the greatest value of the layout if that sample is beyond it.
-/
theorem valueAtPercentile_answers (small : layout.maxValue.toNat ≤ 2 ^ 58)
    (samplesSmall : ∀ value ∈ samples, value.toNat < 2 ^ 58) (few : samples.length < 2 ^ 64)
    (recorded : (THistogram.empty layout).recordValues samples = .ok hist)
    (notNegative : 0 ≤ percentile) (notAbove : percentile ≤ 100)
    (positive : 1 ≤ rankOf percentile hist.totalCount)
    (inside : rankOf percentile hist.totalCount ≤ hist.totalCount) (unit : String) :
    ∃ answer, hist.getValueAtPercentile rankOf percentile = .ok answer ∧
      Mind.valueAtPercentile rankOf (.ofHistogram hist unit) percentile = .ok answer ∧
      AnswersRank layout.maxValue.toNat (samples.map UInt64.toNat)
      (rankOf percentile hist.totalCount).toNat answer.toNat := by
  obtain ⟨rfl, tallies⟩ := (THistogram.tallies_empty layout).recordValues samplesSmall recorded
  rw [List.nil_append] at tallies
  have total : hist.totalCount.toNat = (samples.map UInt64.toNat).length := by
    rw [tallies.total]
    apply UInt64.toNat_ofNat_of_lt'
    rw [List.length_map]
    exact few
  have positiveNat : 1 ≤ (rankOf percentile hist.totalCount).toNat :=
    UInt64.le_iff_toNat_le.mp positive
  have insideNat := UInt64.le_iff_toNat_le.mp inside
  have inRange : ¬(percentile < 0 ∨ percentile > 100) := by
    rw [not_or, not_lt, gt_iff_lt, not_lt]
    exact ⟨notNegative, notAbove⟩
  have nonempty : ¬hist.totalCount = 0 := by
    intro zero
    have atLeastOne := positiveNat.trans insideNat
    rw [zero] at atLeastOne
    exact absurd atLeastOne (by decide)
  refine ⟨hist.getValueAtRank (rankOf percentile hist.totalCount), ?_, ?_, ?_⟩
  · unfold THistogram.getValueAtPercentile
    rw [if_neg inRange, if_neg nonempty]
  · unfold Mind.valueAtPercentile
    rw [if_neg inRange]
    refine (if_neg nonempty).trans ?_
    exact congrArg _ (Mind.valueAtRank_ofHistogram hist unit _)
  · rw [total] at insideNat
    exact tallies.answersRank small (by rw [List.length_map]; exact few) positiveNat insideNat

end

/-- The rank that both programs compute, without rounding errors. -/
def roundedRank (percentile : ℚ) (total : UInt64) : UInt64 :=
  UInt64.ofNat (percentile * total.toNat / 100).ceil.toNat

/-- The median of three samples, the last beyond the layout. -/
theorem median_answers :
    ∃ hist answer, (THistogram.empty clippedLayout).recordValues [3, 17, 30] = .ok hist ∧
      hist.getValueAtPercentile roundedRank 50 = .ok answer ∧
      AnswersRank 20 [3, 17, 30] 2 answer.toNat := by
  have samplesSmall : ∀ value ∈ ([3, 17, 30] : List UInt64), value.toNat < 2 ^ 58 := by
    simp
  obtain ⟨hist, recorded⟩ := (THistogram.empty clippedLayout).recordValues_ok [3, 17, 30]
  obtain ⟨_, tallies⟩ := (THistogram.tallies_empty clippedLayout).recordValues samplesSmall recorded
  have total : hist.totalCount = 3 := tallies.total
  have rank : roundedRank 50 hist.totalCount = 2 := by
    rw [total]
    decide +kernel
  have positive : 1 ≤ roundedRank 50 hist.totalCount := by
    rw [rank]
    decide
  have inside : roundedRank 50 hist.totalCount ≤ hist.totalCount := by
    rw [rank, total]
    decide
  obtain ⟨answer, answered, _, answers⟩ :=
    valueAtPercentile_answers (by decide) samplesSmall (by decide) recorded
      (by decide +kernel) (by decide +kernel) positive inside "us"
  rw [rank] at answers
  exact ⟨hist, answer, recorded, answered, answers⟩

/-- Eight linear buckets only. -/
def linearLayout : HistogramLayout where
  hdrTill := 8
  maxValue := 8
  hdrTill_pos := clippedLayout.hdrTill_pos
  hdrTill_le := by decide

/-- Many samples of zero, and a five. -/
def zerosAndFive (zeros : Nat) : List UInt64 :=
  List.replicate zeros 0 ++ [5]

theorem tally_zerosAndFive (zeros index : Nat) :
    linearLayout.slots.tally ((zerosAndFive zeros).map UInt64.toNat) index =
      (if 0 = index then zeros else 0) + if 5 = index then 1 else 0 := by
  have zero : linearLayout.slots.slot 0 = 0 := rfl
  have five : linearLayout.slots.slot 5 = 5 := rfl
  have limit : linearLayout.slots.limit = 8 := rfl
  by_cases first : 0 = index
  · subst first
    simp [zerosAndFive, Slotting.tally, List.countP_replicate, zero, five, limit]
  · simp [zerosAndFive, Slotting.tally, List.countP_replicate, zero, five, limit, first]

/--
If their number is a multiple of the size of a word, the zeros are forgotten, and
the answer for the least sample is the bound of another one.
-/
theorem zerosAndFive_answer {zeros : Nat} (someZero : zeros ≠ 0) (wraps : UInt64.ofNat zeros = 0) :
    ∃ hist, (THistogram.empty linearLayout).recordValues (zerosAndFive zeros) = .ok hist ∧
      hist.totalCount = 1 ∧ hist.getValueAtPercentile roundedRank 100 = .ok 6 ∧
      IsNth ((zerosAndFive zeros).map UInt64.toNat) 1 0 ∧
      ¬AnswersRank 8 ((zerosAndFive zeros).map UInt64.toNat) 1 6 := by
  have samplesSmall : ∀ value ∈ zerosAndFive zeros, value.toNat < 2 ^ 58 := by
    intro value isIn
    rcases List.mem_append.mp isIn with isZero | isFive
    · rw [List.eq_of_mem_replicate isZero]
      decide
    · rw [List.mem_singleton.mp isFive]
      decide
  have first : IsNth ((zerosAndFive zeros).map UInt64.toNat) 1 0 := by
    constructor
    · simp
    · apply List.countP_pos_iff.mpr
      refine ⟨0, ?_, by decide⟩
      exact List.mem_map_of_mem (List.mem_append_left _ (List.mem_replicate.mpr ⟨someZero, rfl⟩))
  obtain ⟨hist, recorded⟩ := (THistogram.empty linearLayout).recordValues_ok (zerosAndFive zeros)
  obtain ⟨layout, tallies⟩ :=
    (THistogram.tallies_empty linearLayout).recordValues samplesSmall recorded
  change hist.layout = linearLayout at layout
  have total : hist.totalCount = 1 := by
    rw [tallies.total]
    simp [zerosAndFive, wraps]
  have counts (index : Nat) : hist.buckets.getD index 0 = if 5 = index then 1 else 0 := by
    rw [tallies.bucket, List.nil_append, layout, tally_zerosAndFive, UInt64.ofNat_add]
    by_cases first : 0 = index
    · subst first
      simp [wraps]
    · by_cases isFive : 5 = index
      · simp [first, isFive]
      · simp [first, isFive]
  have length : hist.buckets.length = 8 := by
    rw [hist.sized, layout]
    decide +kernel
  have buckets : hist.buckets = [0, 0, 0, 0, 0, 1, 0, 0] := by
    have each : ∀ index : Fin 8, (if 5 = index.val then (1 : UInt64) else 0) =
        [0, 0, 0, 0, 0, 1, 0, 0].get index := by
      decide
    apply List.ext_getElem length
    intro index _ inside
    rw [List.getElem_eq_getD 0, counts]
    exact each ⟨index, inside⟩
  refine ⟨hist, recorded, total, ?_, first, ?_⟩
  · have rank : roundedRank 100 1 = 1 := by
      decide +kernel
    have stopped : scanBuckets 1 [0, 0, 0, 0, 0, 1, 0, 0] 0 0 = (1, some 5) := by
      decide +kernel
    have inRange : ¬((100 : ℚ) < 0 ∨ (100 : ℚ) > 100) := by
      decide +kernel
    unfold THistogram.getValueAtPercentile THistogram.getValueAtRank THistogram.getBucketUpperBound
    rw [total, rank, buckets, layout, stopped, if_neg inRange]
    rfl
  · intro answers
    have close := (answers.close 0 first (by decide)).2
    exact absurd close (by decide)

/-- After `2 ^ 64` samples the counters have wrapped around. -/
theorem wrappedCounters_answer :
    ∃ hist, (THistogram.empty linearLayout).recordValues (zerosAndFive (2 ^ 64)) = .ok hist ∧
      hist.totalCount = 1 ∧ hist.getValueAtPercentile roundedRank 100 = .ok 6 ∧
      IsNth ((zerosAndFive (2 ^ 64)).map UInt64.toNat) 1 0 ∧
      ¬AnswersRank 8 ((zerosAndFive (2 ^ 64)).map UInt64.toNat) 1 6 := by
  apply zerosAndFive_answer
  · decide
  · decide

end PortableTpcc
