import PortableTpcc.Histogram
import PortableTpcc.HistogramValidity
import PortableTpcc.PiecewiseBounds

namespace PortableTpcc

/-!
# The bucket geometry of both programs

`GetBucketIndex` and `GetBucketUpperBound` of `histogram.cpp` against
`bucketIndex` and `bucketUpperBound` of `merge.go`.  Both go through the same
octaves, with 64-bit products that wrap around.  Up to `2 ^ 58` nothing wraps,
and both are the slots of the layout with their bounds.
-/

/-- The upper bound of a bucket of the octave. -/
def Octave.upper (octave : Octave) (sub : Nat) : UInt64 :=
  let upper := octave.start + (UInt64.ofNat sub + 1) * octave.span / UInt64.ofNat octave.nsubs
  if upper > octave.stop ∨ upper < octave.start then
    octave.stop
  else
    upper

/--
What `GetBucketUpperBound` does at an octave, with the index of its first bucket
and the bound found so far.
-/
def findUpper (bucketIndex : Nat) (progress : Nat × Option UInt64)
    (octave : Octave) : Nat × Option UInt64 :=
  let (index, found) := progress
  if found.isSome then
    (index, found)
  else if bucketIndex < index + octave.nsubs then
    (index, some (octave.upper (bucketIndex - index)))
  else
    (index + octave.nsubs, none)

/-- `THistogram::GetBucketUpperBound`. -/
def THistogram.getBucketUpperBound (hist : THistogram) (bucketIndex : Nat) : UInt64 :=
  if bucketIndex < hist.layout.hdrTill.toNat then
    UInt64.ofNat (bucketIndex + 1)
  else
    ((octaves hist.layout.hdrTill hist.layout.maxValue).foldl
      (findUpper bucketIndex) (hist.layout.hdrTill.toNat, none)).2.getD hist.layout.maxValue

namespace Mind

/-- The loop of `bucketUpperBound` over the octaves. -/
def bucketUpperBoundIn (maxValue : UInt64) :
    List Octave → Nat → Nat → UInt64
  | [], _, _ => maxValue
  | octave :: rest, index, bucketIndex =>
    if bucketIndex < index + octave.nsubs then
      octave.upper (bucketIndex - index)
    else
      bucketUpperBoundIn maxValue rest (index + octave.nsubs) bucketIndex

/-- `bucketUpperBound`. -/
def bucketUpperBound (h : RawFields) (bucketIndex : Nat) : UInt64 :=
  if bucketIndex < h.hdrTill.toNat then
    UInt64.ofNat (bucketIndex + 1)
  else
    bucketUpperBoundIn h.maxValue (octaves h.hdrTill h.maxValue) h.hdrTill.toNat bucketIndex

end Mind

namespace Octave

/-- What the octaves of a layout have in common. -/
structure Regular (octave : Octave) : Prop where
  nonempty : octave.start.toNat < octave.stop.toNat
  /-- An octave at most doubles the values before it. -/
  doubling : octave.stop.toNat - octave.start.toNat ≤ octave.start.toNat

variable {octave : Octave}

theorem Regular.toNat_span (regular : octave.Regular) :
    octave.span.toNat = octave.stop.toNat - octave.start.toNat := by
  apply UInt64.toNat_sub_of_le
  rw [UInt64.le_iff_toNat_le]
  exact regular.nonempty.le

theorem Regular.nsubs_eq (regular : octave.Regular) :
    octave.nsubs = min (octave.stop.toNat - octave.start.toNat) 64 := by
  have span := regular.toNat_span
  have nonempty := regular.nonempty
  unfold nsubs subBucketCount
  split
  · rename_i zero
    rw [zero] at span
    change 0 = _ at span
    omega
  · split
    · rename_i small
      have small := UInt64.lt_iff_toNat_lt.mp small
      change _ < 64 at small
      omega
    · rename_i large
      have large : ¬octave.span.toNat < 64 := fun small => large (UInt64.lt_iff_toNat_lt.mpr small)
      change 64 = _
      omega

theorem Regular.fine (regular : octave.Regular) : octave.piece.Fine where
  nonempty := regular.nonempty
  hasSlots := subBucketCount_pos _
  count_le := by
    change octave.nsubs ≤ _
    rw [regular.nsubs_eq]
    exact min_le_left _ _

/-- The slots of an octave are as wide as a 64th of its start, at most. -/
theorem Regular.narrow (regular : octave.Regular) :
    (octave.piece.stop - octave.piece.start) / octave.piece.count ≤
      max 1 (octave.piece.start / 64) := by
  have doubling := regular.doubling
  have nonempty := regular.nonempty
  change (octave.stop.toNat - octave.start.toNat) / octave.nsubs ≤ max 1 (octave.start.toNat / 64)
  rw [regular.nsubs_eq]
  rcases le_total (octave.stop.toNat - octave.start.toNat) 64 with small | large
  · rw [min_eq_left small, Nat.div_self (by omega)]
    exact le_max_left _ _
  · rw [min_eq_right large]
    exact (Nat.div_le_div_right doubling).trans (le_max_right _ _)

end Octave

theorem regular_octavesFrom (maxValue start size : UInt64) (nonzero : 0 < size)
    (large : start.toNat ≥ maxValue.toNat ∨ size.toNat ≤ start.toNat) :
    ∀ octave ∈ octavesFrom maxValue start size nonzero, octave.Regular := by
  fun_induction octavesFrom maxValue start size nonzero with
  | case1 start size nonzero below octave ih =>
    have startBelow : start.toNat < maxValue.toNat := UInt64.lt_iff_toNat_lt.mp below
    have positive : 0 < size.toNat := UInt64.lt_iff_toNat_lt.mp nonzero
    have stopAt : octave.stop.toNat = min (start.toNat + size.toNat) maxValue.toNat :=
      toNat_stop_octaveAt maxValue start size
    have startAt : octave.start = start := rfl
    intro other isIn
    rcases List.mem_cons.mp isIn with rfl | later
    · constructor
      · rw [startAt]
        omega
      · rw [startAt]
        omega
    · by_cases isLarge : size > maxUint64 / 2
      · rw [dif_pos isLarge] at later
        cases later
      · rw [dif_neg isLarge] at later
        have doubled := toNat_double isLarge
        exact ih isLarge (by omega) other later
  | case2 start size nonzero notBelow =>
    intro other isIn
    cases isIn

theorem HistogramLayout.regular_octaves (layout : HistogramLayout) :
    ∀ octave ∈ octaves layout.hdrTill layout.maxValue, octave.Regular := by
  unfold octaves
  rw [dif_pos layout.hdrTill_pos]
  exact regular_octavesFrom _ _ _ layout.hdrTill_pos (.inr le_rfl)

theorem HistogramLayout.fine_pieces (layout : HistogramLayout) :
    ∀ piece ∈ layout.pieces, piece.Fine := by
  intro piece isIn
  obtain ⟨octave, isOctave, rfl⟩ := List.mem_map.mp isIn
  exact (layout.regular_octaves octave isOctave).fine

/-- The upper bounds of the buckets of a layout. -/
def HistogramLayout.upper (layout : HistogramLayout) : ℕ → ℕ :=
  piecewiseUpper layout.hdrTill.toNat layout.maxValue.toNat layout.pieces

theorem HistogramLayout.bounds (layout : HistogramLayout) : layout.slots.Bounds layout.upper :=
  bounds_piecewise layout.isChain_pieces layout.fine_pieces

theorem foldl_findUpper_of_found (bucketIndex index : Nat) (found : UInt64)
    (octaves : List Octave) :
    octaves.foldl (findUpper bucketIndex) (index, some found) = (index, some found) := by
  induction octaves with
  | nil =>
    rfl
  | cons octave rest ih =>
    exact ih

/-- The search of `GetBucketUpperBound` is the one of `bucketUpperBound`. -/
theorem foldl_findUpper (maxValue : UInt64) (bucketIndex index : Nat) (octaves : List Octave) :
    (octaves.foldl (findUpper bucketIndex) (index, none)).2.getD maxValue =
      Mind.bucketUpperBoundIn maxValue octaves index bucketIndex := by
  induction octaves generalizing index with
  | nil =>
    rfl
  | cons octave rest ih =>
    rw [List.foldl_cons, Mind.bucketUpperBoundIn]
    by_cases here : bucketIndex < index + octave.nsubs
    · have found : findUpper bucketIndex (index, none) octave =
          (index, some (octave.upper (bucketIndex - index))) := by
        simp [findUpper, here]
      rw [found, foldl_findUpper_of_found, if_pos here]
      rfl
    · have next : findUpper bucketIndex (index, none) octave = (index + octave.nsubs, none) := by
        simp [findUpper, here]
      rw [next, if_neg here]
      exact ih _

/-- Up to `2 ^ 58` the product does not wrap around. -/
theorem Octave.Regular.toNat_upper {octave : Octave} (regular : octave.Regular) {sub : Nat}
    (inside : sub < octave.nsubs) (small : octave.stop.toNat ≤ 2 ^ 58) :
    (octave.upper sub).toNat = octave.piece.upper sub := by
  have span := regular.toNat_span
  have nonempty := regular.nonempty
  have doubling := regular.doubling
  have count : octave.nsubs ≤ 64 := subBucketCount_le _
  have nsubs : (UInt64.ofNat octave.nsubs).toNat = octave.nsubs :=
    UInt64.toNat_ofNat_of_lt' (by change octave.nsubs < 2 ^ 64; omega)
  have next : (UInt64.ofNat sub + 1).toNat = sub + 1 := by
    have isSub : (UInt64.ofNat sub).toNat = sub :=
      UInt64.toNat_ofNat_of_lt' (by change sub < 2 ^ 64; omega)
    have one : (1 : UInt64).toNat = 1 := rfl
    rw [toNat_add_of_lt (by rw [isSub, one]; omega), isSub, one]
  have noWrap : (sub + 1) * (octave.stop.toNat - octave.start.toNat) < 2 ^ 64 := by
    calc
      (sub + 1) * (octave.stop.toNat - octave.start.toNat)
          ≤ 64 * (octave.stop.toNat - octave.start.toNat) := Nat.mul_le_mul_right _ (by omega)
      _ < 2 ^ 64 := by omega
  have quotient : ((UInt64.ofNat sub + 1) * octave.span / UInt64.ofNat octave.nsubs).toNat =
      (sub + 1) * (octave.stop.toNat - octave.start.toNat) /
          octave.nsubs := by
    rw [UInt64.toNat_div, UInt64.toNat_mul, next, nsubs, span, Nat.mod_eq_of_lt noWrap]
  have bound : octave.piece.upper sub ≤ octave.stop.toNat := regular.fine.upper_le_stop inside
  have isUpper : octave.piece.upper sub = octave.start.toNat +
      (sub + 1) * (octave.stop.toNat - octave.start.toNat) /
            octave.nsubs :=
    rfl
  have sum : (octave.start + (UInt64.ofNat sub + 1) * octave.span /
      UInt64.ofNat octave.nsubs).toNat = octave.piece.upper sub := by
    rw [toNat_add_of_lt (by rw [quotient]; omega), quotient, isUpper]
  have notClipped : ¬(octave.start + (UInt64.ofNat sub + 1) * octave.span /
      UInt64.ofNat octave.nsubs > octave.stop ∨ octave.start +
      (UInt64.ofNat sub + 1) * octave.span / UInt64.ofNat octave.nsubs < octave.start) := by
    simp only [gt_iff_lt, UInt64.lt_iff_toNat_lt, sum]
    omega
  unfold Octave.upper
  dsimp only
  rw [if_neg notClipped, sum]

theorem toNat_bucketUpperBoundIn {first : Nat} {maxValue : UInt64} {octaves : List Octave}
    (chain : IsChain first (octaves.map Octave.piece) maxValue.toNat)
    (regular : ∀ octave ∈ octaves, octave.Regular) (small : maxValue.toNat ≤ 2 ^ 58)
    (index bucketIndex : Nat) (fromIndex : index ≤ bucketIndex) :
    (Mind.bucketUpperBoundIn maxValue octaves index bucketIndex).toNat =
      pieceUpper maxValue.toNat (octaves.map Octave.piece) index bucketIndex := by
  induction octaves generalizing first index with
  | nil =>
    rfl
  | cons octave rest ih =>
    obtain ⟨rfl, _, _, others⟩ := chain
    rw [Mind.bucketUpperBoundIn, List.map_cons, pieceUpper]
    by_cases here : bucketIndex < index + octave.nsubs
    · have stopLe : octave.stop.toNat ≤ maxValue.toNat := others.le
      rw [if_pos here]
      refine Eq.trans ?_ (if_pos here).symm
      exact (regular octave List.mem_cons_self).toNat_upper (by omega) (stopLe.trans small)
    · rw [if_neg here]
      refine Eq.trans ?_ (if_neg here).symm
      exact ih others
        (fun other isIn => regular other (List.mem_cons_of_mem _ isIn))
        _ (not_lt.mp here)

theorem length_octavesFrom (maxValue start size : UInt64) (nonzero : 0 < size) :
    size.toNat * 2 ^ (octavesFrom maxValue start size nonzero).length < 2 ^ 65 := by
  fun_induction octavesFrom maxValue start size nonzero with
  | case1 start size nonzero below octave ih =>
    have bound := size.toNat_lt
    by_cases isLarge : size > maxUint64 / 2
    · rw [dif_pos isLarge, List.length_singleton]
      omega
    · have later := ih isLarge
      rw [toNat_double isLarge] at later
      rw [dif_neg isLarge, List.length_cons, Nat.pow_succ', ← Nat.mul_assoc]
      exact later
  | case2 start size nonzero notBelow =>
    have bound := size.toNat_lt
    rw [List.length_nil]
    omega

theorem HistogramLayout.length_octaves (layout : HistogramLayout) :
    (octaves layout.hdrTill layout.maxValue).length ≤ 64 := by
  unfold octaves
  rw [dif_pos layout.hdrTill_pos]
  have doubled :=
    length_octavesFrom layout.maxValue layout.hdrTill layout.hdrTill layout.hdrTill_pos
  have positive : 0 < layout.hdrTill.toNat := UInt64.lt_iff_toNat_lt.mp layout.hdrTill_pos
  have power := (Nat.le_mul_of_pos_left _ positive).trans_lt doubled
  exact Nat.lt_succ_iff.mp ((Nat.pow_lt_pow_iff_right Nat.one_lt_two).mp power)

theorem slotCount_octaves_le (octaves : List Octave) :
    slotCount (octaves.map Octave.piece) ≤ octaves.length * 64 := by
  unfold slotCount
  rw [List.map_map]
  have bound : ∀ count ∈ octaves.map (Piece.count ∘ Octave.piece), count ≤ 64 := by
    intro count isIn
    obtain ⟨octave, _, rfl⟩ := List.mem_map.mp isIn
    exact subBucketCount_le _
  have sum := List.sum_le_card_nsmul _ 64 bound
  rw [List.length_map] at sum
  exact sum

/-- The buckets are no more than the linear ones and 64 for each octave. -/
theorem HistogramLayout.size_slots_le (layout : HistogramLayout) :
    layout.slots.size ≤ layout.hdrTill.toNat + 4096 := by
  have counts := slotCount_octaves_le (octaves layout.hdrTill layout.maxValue)
  have few := layout.length_octaves
  change layout.hdrTill.toNat + slotCount layout.pieces ≤ _
  unfold HistogramLayout.pieces
  omega

/-- A wrapped product only misses the bucket, not the octave. -/
theorem foldl_findBucket_lt {first last size : Nat} {value : UInt64} {octaves : List Octave}
    (chain : IsChain first (octaves.map Octave.piece) last) (index : Nat)
    (room : index + slotCount (octaves.map Octave.piece) ≤ size) (above : first ≤ value.toNat)
    (below : value.toNat < last) :
    (octaves.foldl (THistogram.findBucket size value) (index, size)).2 < size := by
  have hit := THistogram.foldl_findBucket_hit chain index room above below
  rcases hit with ⟨octave, before, _, _, fits, found, _⟩
  have within := octave.sub_lt value
  rw [found]
  omega

namespace THistogram

variable (hist : THistogram)

theorem exists_getBucketIndex {value : UInt64} (below : value < hist.layout.maxValue) :
    ∃ index, hist.getBucketIndex value = .ok index ∧ index < hist.buckets.length := by
  have inRange := UInt64.lt_iff_toNat_lt.mp below
  unfold getBucketIndex
  by_cases linear : value < hist.layout.hdrTill
  · refine ⟨value.toNat, if_pos linear, ?_⟩
    have isLinear := UInt64.lt_iff_toNat_lt.mp linear
    rw [length_buckets]
    exact isLinear.trans_le (Nat.le_add_right _ _)
  · have notLinear : ¬ value.toNat < hist.layout.hdrTill.toNat :=
      fun less => linear (UInt64.lt_iff_toNat_lt.mpr less)
    have found :=
      foldl_findBucket_lt hist.layout.isChain_pieces hist.layout.hdrTill.toNat
        (hist.length_buckets).ge (not_lt.mp notLinear) inRange
    rw [if_neg linear]
    dsimp only
    rw [if_neg found.ne]
    exact ⟨_, rfl, found⟩

theorem recordValue_ok (value : UInt64) : ∃ next, hist.recordValue value = .ok next := by
  unfold recordValue
  by_cases inRange : value < hist.layout.maxValue
  · obtain ⟨index, found, inside⟩ := hist.exists_getBucketIndex inRange
    rw [if_neg (UInt64.not_le.mpr inRange), found, ok_bind, if_neg (not_le.mpr inside)]
    exact ⟨_, rfl⟩
  · rw [if_pos (UInt64.not_lt.mp inRange)]
    exact ⟨_, rfl⟩

end THistogram

/-- What the two geometries have in common for every layout. -/
structure SameBuckets (hist : THistogram) (h : Mind.RawFields) : Prop where
  bucketCount : Mind.expectedBucketCount h.hdrTill h.maxValue = .ok (getTotalBuckets hist.layout)
  /-- Counts and indexes of buckets fit into an `int`. -/
  few : getTotalBuckets hist.layout < 2 ^ 33
  index_lt : ∀ value < hist.layout.maxValue, ∃ index, hist.getBucketIndex value = .ok index ∧
    index < getTotalBuckets hist.layout
  recorded : ∀ value, ∃ next, hist.recordValue value = .ok next

/-- What they have in common when no product wraps around. -/
structure SameGeometry (hist : THistogram) (h : Mind.RawFields) : Prop where
  index_eq : ∀ value < hist.layout.maxValue, ∃ index : Nat, hist.getBucketIndex value = .ok index ∧
    Mind.bucketIndex h value = index
  index_mono : ∀ low high lowIndex highIndex, low ≤ high → high < hist.layout.maxValue →
    hist.getBucketIndex low = .ok lowIndex →
    hist.getBucketIndex high = .ok highIndex → lowIndex ≤ highIndex
  index_onto : ∀ index < getTotalBuckets hist.layout, ∃ value < hist.layout.maxValue,
    hist.getBucketIndex value = .ok index
  upper_eq : ∀ index, hist.getBucketUpperBound index = Mind.bucketUpperBound h index
  upper_lt : ∀ low high, low < high → high < getTotalBuckets hist.layout →
    hist.getBucketUpperBound low < hist.getBucketUpperBound high
  between : ∀ value < hist.layout.maxValue, ∀ index, hist.getBucketIndex value = .ok index →
    value ≤ hist.getBucketUpperBound index ∧
    (0 < index → hist.getBucketUpperBound (index - 1) ≤ value)

section

variable {hist : THistogram} {h : Mind.RawFields}

theorem getBucketUpperBound_eq (hdrTill_eq : h.hdrTill = hist.layout.hdrTill)
    (maxValue_eq : h.maxValue = hist.layout.maxValue) (index : Nat) :
    hist.getBucketUpperBound index = Mind.bucketUpperBound h index := by
  unfold THistogram.getBucketUpperBound Mind.bucketUpperBound
  rw [hdrTill_eq, maxValue_eq, foldl_findUpper, Mind.octaves_eq]

theorem toNat_getBucketUpperBound (small : hist.layout.maxValue.toNat ≤ 2 ^ 58) (index : Nat) :
    (hist.getBucketUpperBound index).toNat = hist.layout.upper index := by
  unfold THistogram.getBucketUpperBound HistogramLayout.upper piecewiseUpper
  by_cases linear : index < hist.layout.hdrTill.toNat
  · have bound := hist.layout.hdrTill.toNat_lt
    rw [if_pos linear, if_pos linear]
    exact UInt64.toNat_ofNat_of_lt' (by change index + 1 < 2 ^ 64; omega)
  · rw [if_neg linear, if_neg linear, foldl_findUpper]
    exact toNat_bucketUpperBoundIn hist.layout.isChain_pieces
      hist.layout.regular_octaves small _ _ (not_lt.mp linear)

theorem sameBuckets (hdrTill_eq : h.hdrTill = hist.layout.hdrTill)
    (maxValue_eq : h.maxValue = hist.layout.maxValue)
    (linear : hist.layout.hdrTill.toNat < 2 ^ 32) : SameBuckets hist h where
  bucketCount := by
    have positive : hist.layout.hdrTill ≠ 0 := (UInt64.ne_of_lt hist.layout.hdrTill_pos).symm
    have notAbove := UInt64.not_lt.mpr hist.layout.hdrTill_le
    have maxPositive : hist.layout.maxValue ≠ 0 := by
      intro zero
      have ordered := hist.layout.hdrTill_le
      rw [zero] at ordered
      exact UInt64.not_lt.mpr ordered hist.layout.hdrTill_pos
    unfold Mind.expectedBucketCount
    rw [hdrTill_eq, maxValue_eq, if_neg, Mind.octaves_eq]
    · rfl
    · simp [positive, maxPositive, notAbove]
  few := by
    have bound := hist.layout.size_slots_le
    rw [← hist.layout.addBucketCounts_octaves] at bound
    change getTotalBuckets hist.layout ≤ _ at bound
    omega
  index_lt := by
    intro value below
    rw [← hist.sized]
    exact hist.exists_getBucketIndex below
  recorded := hist.recordValue_ok

theorem sameGeometry (hdrTill_eq : h.hdrTill = hist.layout.hdrTill)
    (maxValue_eq : h.maxValue = hist.layout.maxValue)
    (small : hist.layout.maxValue.toNat ≤ 2 ^ 58) : SameGeometry hist h := by
  have bounds := hist.layout.bounds
  have size : getTotalBuckets hist.layout = hist.layout.slots.size :=
    hist.layout.addBucketCounts_octaves
  have inRange {value : UInt64} (below : value < hist.layout.maxValue) :
      value.toNat < hist.layout.slots.limit :=
    UInt64.lt_iff_toNat_lt.mp below
  have slotOf {value : UInt64} (below : value < hist.layout.maxValue) :
      hist.getBucketIndex value = .ok (hist.layout.slots.slot value.toNat) :=
    THistogram.getBucketIndex_eq below ((inRange below).trans_le small)
  constructor
  · intro value below
    exact ⟨_, slotOf below, Mind.bucketIndex_of_layout hdrTill_eq maxValue_eq below
      ((inRange below).trans_le small)⟩
  · intro low high lowIndex highIndex ordered below lowFound highFound
    have lowBelow : low < hist.layout.maxValue := UInt64.lt_of_le_of_lt ordered below
    rw [slotOf lowBelow] at lowFound
    rw [slotOf below] at highFound
    cases lowFound
    cases highFound
    exact hist.layout.slots.slot_mono (UInt64.le_iff_toNat_le.mp ordered) (inRange below)
  · intro index inside
    rw [size] at inside
    obtain ⟨value, below, slot⟩ := bounds.onto inside
    have isValue : (UInt64.ofNat value).toNat = value := by
      apply UInt64.toNat_ofNat_of_lt'
      change value < 2 ^ 64
      have bound := hist.layout.maxValue.toNat_lt
      change value < hist.layout.maxValue.toNat at below
      omega
    have belowMax : UInt64.ofNat value < hist.layout.maxValue := by
      rw [UInt64.lt_iff_toNat_lt, isValue]
      exact below
    refine ⟨UInt64.ofNat value, belowMax, ?_⟩
    rw [slotOf belowMax, isValue, slot]
  · exact getBucketUpperBound_eq hdrTill_eq maxValue_eq
  · intro low high ordered inside
    rw [size] at inside
    rw [UInt64.lt_iff_toNat_lt, toNat_getBucketUpperBound small, toNat_getBucketUpperBound small]
    exact bounds.increasing ordered inside
  · intro value below index found
    rw [slotOf below] at found
    cases found
    simp only [UInt64.le_iff_toNat_le, toNat_getBucketUpperBound small]
    refine ⟨bounds.le_upper (inRange below), ?_⟩
    intro positive
    exact bounds.upper_le (inRange below) (by omega)

/--
The two programs count the same buckets, record every value, and up to `2 ^ 58`
put it into the same bucket with the same bounds.
-/
theorem bucketGeometries_coincide (hdrTill_eq : h.hdrTill = hist.layout.hdrTill)
    (maxValue_eq : h.maxValue = hist.layout.maxValue)
    (linear : hist.layout.hdrTill.toNat < 2 ^ 32) :
    SameBuckets hist h ∧ (hist.layout.maxValue.toNat ≤ 2 ^ 58 → SameGeometry hist h) :=
  ⟨sameBuckets hdrTill_eq maxValue_eq linear, sameGeometry hdrTill_eq maxValue_eq⟩

end

/-- Eight linear buckets, an octave of eight and a clipped one. -/
def clippedLayout : HistogramLayout where
  hdrTill := 8
  maxValue := 20
  hdrTill_pos := by decide
  hdrTill_le := by decide

/-- A payload of that layout. -/
def clippedPayload : Mind.RawFields :=
  { Mind.RawFields.zero with hdrTill := 8, maxValue := 20 }

/-- A layout whose last octave is cut off. -/
theorem clippedLayout_geometries :
    SameBuckets (.empty clippedLayout) clippedPayload ∧
      SameGeometry (.empty clippedLayout) clippedPayload := by
  have small : clippedLayout.maxValue.toNat ≤ 2 ^ 58 := by
    decide
  have both : SameBuckets (.empty clippedLayout) clippedPayload ∧
      (clippedLayout.maxValue.toNat ≤ 2 ^ 58 →
      SameGeometry (.empty clippedLayout) clippedPayload) :=
    bucketGeometries_coincide rfl rfl (by decide)
  exact ⟨both.1, both.2 small⟩

end PortableTpcc
