import PortableTpcc.PiecewiseSlots

namespace PortableTpcc

/-!
# The `linear_exp` layout

The buckets of a histogram, as `histogram.cpp` lays them out and `merge.go`
expects them: one bucket for each value below `hdr_till`, then octaves of
doubling size up to `max_value`, each cut into at most 64 buckets.

Values are 64-bit words.  The number of buckets is at most `max_value`, so no
`size_t` of buckets overflows, and counts of buckets are plain numbers here.
-/

/-- `std::numeric_limits<uint64_t>::max()`, `math.MaxUint64`. -/
def maxUint64 : UInt64 :=
  18446744073709551615

@[simp] theorem toNat_maxUint64 : maxUint64.toNat = 18446744073709551615 :=
  rfl

/-- `THistogram::kSubBucketsPerOctave`, `SubBucketsPerOctave`. -/
def subBucketsPerOctave : UInt64 :=
  64

/-- `SubBucketCount`. -/
def subBucketCount (span : UInt64) : Nat :=
  if span = 0 then
    1
  else if span < subBucketsPerOctave then
    span.toNat
  else
    subBucketsPerOctave.toNat

theorem subBucketCount_pos (span : UInt64) : 0 < subBucketCount span := by
  unfold subBucketCount
  split
  · exact Nat.one_pos
  · rename_i nonzero
    split
    · have notZero : span.toNat ≠ 0 :=
        fun isZero => nonzero (UInt64.toNat_inj.mp isZero)
      omega
    · decide

theorem subBucketCount_le (span : UInt64) : subBucketCount span ≤ 64 := by
  unfold subBucketCount
  split
  · decide
  · split
    · rename_i small
      exact (UInt64.lt_iff_toNat_lt.mp small).le
    · exact le_rfl

/-- `AddSaturating`. -/
def addSaturating (a b : UInt64) : UInt64 :=
  if b > maxUint64 - a then
    maxUint64
  else
    a + b

theorem toNat_addSaturating (a b : UInt64) :
    (addSaturating a b).toNat = min (a.toNat + b.toNat) maxUint64.toNat := by
  have aBound := a.toNat_lt
  have room : (maxUint64 - a).toNat = maxUint64.toNat - a.toNat := by
    apply UInt64.toNat_sub_of_le
    rw [UInt64.le_iff_toNat_le, toNat_maxUint64]
    omega
  unfold addSaturating
  split
  · rename_i tooLarge
    have above := UInt64.lt_iff_toNat_lt.mp tooLarge
    rw [room] at above
    rw [toNat_maxUint64] at above ⊢
    omega
  · rename_i fits
    have below : b.toNat ≤ (maxUint64 - a).toNat :=
      not_lt.mp fun above => fits (UInt64.lt_iff_toNat_lt.mpr above)
    rw [room, toNat_maxUint64] at below
    rw [UInt64.toNat_add, toNat_maxUint64]
    omega

theorem toNat_add_of_lt {a b : UInt64} (fits : a.toNat + b.toNat < 2 ^ 64) :
    (a + b).toNat = a.toNat + b.toNat := by
  rw [UInt64.toNat_add, Nat.mod_eq_of_lt fits]

theorem toNat_min_uint64 (a b : UInt64) : (min a b).toNat = min a.toNat b.toNat := by
  unfold min
  change (if a ≤ b then a else b).toNat = if a.toNat ≤ b.toNat then _ else _
  simp only [UInt64.le_iff_toNat_le]
  split <;> rfl

theorem toNat_max_uint64 (a b : UInt64) : (max a b).toNat = max a.toNat b.toNat := by
  unfold max
  change (if a ≤ b then b else a).toNat = if a.toNat ≤ b.toNat then _ else _
  simp only [UInt64.le_iff_toNat_le]
  split <;> rfl

/-- One octave: the values from `start` up to `stop`. -/
structure Octave where
  start : UInt64
  stop : UInt64
  deriving Repr, DecidableEq

namespace Octave

/-- The length of the octave. -/
def span (octave : Octave) : UInt64 :=
  octave.stop - octave.start

/-- The number of buckets of the octave. -/
def nsubs (octave : Octave) : Nat :=
  subBucketCount octave.span

/--
The bucket of a value within the octave.  The product wraps around for a value
that is too far from the start.
-/
def sub (octave : Octave) (value : UInt64) : Nat :=
  let off := value - octave.start
  let sub := (off * UInt64.ofNat octave.nsubs / octave.span).toNat
  if sub ≥ octave.nsubs then
    octave.nsubs - 1
  else
    sub

/-- The octave as a piece of the numbers. -/
def piece (octave : Octave) : Piece where
  start := octave.start.toNat
  stop := octave.stop.toNat
  count := octave.nsubs

theorem sub_lt (octave : Octave) (value : UInt64) : octave.sub value < octave.nsubs := by
  have positive : 0 < octave.nsubs := subBucketCount_pos _
  unfold sub
  dsimp only
  split <;> omega

/-- Below `2 ^ 58` the product does not wrap around. -/
theorem sub_eq_offset {octave : Octave} {value : UInt64} (above : octave.start ≤ value)
    (below : value < octave.stop) (small : value.toNat < 2 ^ 58) :
    octave.sub value = octave.piece.offset value.toNat := by
  have startLe := UInt64.le_iff_toNat_le.mp above
  have stopLt := UInt64.lt_iff_toNat_lt.mp below
  have count : octave.nsubs ≤ 64 := subBucketCount_le _
  have span : octave.span.toNat = octave.stop.toNat - octave.start.toNat := by
    apply UInt64.toNat_sub_of_le
    rw [UInt64.le_iff_toNat_le]
    omega
  have off : (value - octave.start).toNat = value.toNat - octave.start.toNat :=
    UInt64.toNat_sub_of_le _ _ above
  have nsubs : (UInt64.ofNat octave.nsubs).toNat = octave.nsubs :=
    UInt64.toNat_ofNat_of_lt' (by change octave.nsubs < 2 ^ 64; omega)
  have noWrap : (value.toNat - octave.start.toNat) * octave.nsubs < 2 ^ 64 := by
    calc
      (value.toNat - octave.start.toNat) * octave.nsubs ≤ (value.toNat - octave.start.toNat) * 64 :=
            Nat.mul_le_mul_left _ count
      _ < 2 ^ 64 := by omega
  have sub : ((value - octave.start) * UInt64.ofNat octave.nsubs / octave.span).toNat =
        octave.piece.offset value.toNat := by
    rw [UInt64.toNat_div, UInt64.toNat_mul, off, nsubs, span, Nat.mod_eq_of_lt noWrap]
    rfl
  have within : octave.piece.offset value.toNat < octave.nsubs :=
    Piece.offset_lt (subBucketCount_pos _) startLe stopLt
  simp only [Octave.sub, sub]
  exact if_neg (not_le.mpr within)

end Octave

theorem toNat_double {size : UInt64} (notLarge : ¬ size > maxUint64 / 2) :
    (size * 2).toNat = size.toNat * 2 := by
  have bound : size.toNat ≤ (maxUint64 / 2).toNat :=
    not_lt.mp fun above => notLarge (UInt64.lt_iff_toNat_lt.mpr above)
  have half : (maxUint64 / 2).toNat = 9223372036854775807 := rfl
  have two : (2 : UInt64).toNat = 2 := rfl
  rw [UInt64.toNat_mul, two]
  omega

theorem double_pos {size : UInt64} (nonzero : 0 < size) (notLarge : ¬ size > maxUint64 / 2) :
    0 < size * 2 := by
  rw [UInt64.lt_iff_toNat_lt] at nonzero ⊢
  rw [toNat_double notLarge]
  exact Nat.mul_pos nonzero two_pos

/-- The loops over octaves end because the size doubles. -/
theorem sub_double_lt {size : UInt64} (nonzero : 0 < size) (notLarge : ¬ size > maxUint64 / 2) :
    2 ^ 64 - (size * 2).toNat < 2 ^ 64 - size.toNat := by
  have sizeBound := (size * 2).toNat_lt
  have positive : 0 < size.toNat := UInt64.lt_iff_toNat_lt.mp nonzero
  rw [toNat_double notLarge] at sizeBound ⊢
  omega

/-- The octave that starts at `start`, when octaves have this `size`. -/
def octaveAt (maxValue start size : UInt64) : Octave where
  start
  stop := min (addSaturating start size) maxValue

/-- The loop of `ForEachOctave`. -/
def octavesFrom (maxValue start size : UInt64) (nonzero : 0 < size) : List Octave :=
  if start < maxValue then
    let octave := octaveAt maxValue start size
    octave ::
      if large : size > maxUint64 / 2 then
        []
      else
        octavesFrom maxValue octave.stop (size * 2) (double_pos nonzero large)
  else
    []
termination_by 2 ^ 64 - size.toNat
decreasing_by exact sub_double_lt nonzero large

/--
`ForEachOctave`.  Nobody asks for the octaves before it is checked that
`hdr_till` is not zero; the loop would not end.
-/
def octaves (hdrTill maxValue : UInt64) : List Octave :=
  if nonzero : 0 < hdrTill then
    octavesFrom maxValue hdrTill hdrTill nonzero
  else
    []

theorem toNat_stop_octaveAt (maxValue start size : UInt64) :
    (octaveAt maxValue start size).stop.toNat = min (start.toNat + size.toNat) maxValue.toNat := by
  have maxBound := maxValue.toNat_lt
  change (min (addSaturating start size) maxValue).toNat = _
  rw [toNat_min_uint64, toNat_addSaturating, toNat_maxUint64]
  omega

/-- The octaves of a loop reach `maxValue` before the size overflows. -/
theorem isChain_octavesFrom (maxValue start size : UInt64) (nonzero : 0 < size)
    (within : start.toNat ≤ maxValue.toNat)
    (large : start.toNat = maxValue.toNat ∨ size.toNat ≤ start.toNat) :
    IsChain start.toNat ((octavesFrom maxValue start size nonzero).map Octave.piece)
      maxValue.toNat := by
  fun_induction octavesFrom maxValue start size nonzero with
  | case1 start size nonzero below octave ih =>
    have startBelow : start.toNat < maxValue.toNat := UInt64.lt_iff_toNat_lt.mp below
    have positive : 0 < size.toNat := UInt64.lt_iff_toNat_lt.mp nonzero
    have stopAt : octave.stop.toNat = min (start.toNat + size.toNat) maxValue.toNat :=
      toNat_stop_octaveAt maxValue start size
    rw [List.map_cons]
    refine ⟨rfl, ?_, subBucketCount_pos _, ?_⟩
    · change start.toNat < octave.stop.toNat
      omega
    · change IsChain octave.stop.toNat _ _
      by_cases isLarge : size > maxUint64 / 2
      · -- The start is as large as the size: their sum leaves no value out.
        have half : 9223372036854775807 < size.toNat := UInt64.lt_iff_toNat_lt.mp isLarge
        have maxBound := maxValue.toNat_lt
        rw [dif_pos isLarge]
        change octave.stop.toNat = maxValue.toNat
        omega
      · rw [dif_neg isLarge]
        have doubled := toNat_double isLarge
        apply ih isLarge
        · omega
        · omega
  | case2 start size nonzero notBelow =>
    have reached : ¬ start.toNat < maxValue.toNat :=
      fun below => notBelow (UInt64.lt_iff_toNat_lt.mpr below)
    change start.toNat = maxValue.toNat
    omega

/-- The loop that counts the buckets of the octaves from some count on. -/
def addBucketCounts (count : Nat) (octaves : List Octave) : Nat :=
  octaves.foldl (fun count octave => count + octave.nsubs) count

theorem addBucketCounts_eq (count : Nat) (octaves : List Octave) :
    addBucketCounts count octaves = count + slotCount (octaves.map Octave.piece) := by
  induction octaves generalizing count with
  | nil =>
    rfl
  | cons octave rest ih =>
    have next : addBucketCounts count (octave :: rest) =
        addBucketCounts (count + octave.nsubs) rest :=
      rfl
    rw [next, ih]
    simp [slotCount, Octave.piece, add_assoc]

/-- The parameters that the constructor of `THistogram` lets through. -/
structure HistogramLayout where
  hdrTill : UInt64
  maxValue : UInt64
  hdrTill_pos : 0 < hdrTill
  hdrTill_le : hdrTill ≤ maxValue

namespace HistogramLayout

variable (layout : HistogramLayout)

/-- The octaves of the layout as pieces. -/
def pieces : List Piece :=
  (octaves layout.hdrTill layout.maxValue).map Octave.piece

theorem isChain_pieces : IsChain layout.hdrTill.toNat layout.pieces layout.maxValue.toNat := by
  unfold pieces octaves
  rw [dif_pos layout.hdrTill_pos]
  exact isChain_octavesFrom _ _ _ layout.hdrTill_pos
    (UInt64.le_iff_toNat_le.mp layout.hdrTill_le) (.inr le_rfl)

/-- What the layout is for: which bucket holds which values. -/
def slots : Slotting :=
  piecewiseSlots layout.hdrTill.toNat layout.maxValue.toNat layout.pieces layout.isChain_pieces

theorem addBucketCounts_octaves :
    addBucketCounts layout.hdrTill.toNat (octaves layout.hdrTill layout.maxValue) =
      layout.slots.size :=
  addBucketCounts_eq _ _

end HistogramLayout

/-- The counts and the sum of a summary are 64-bit words. -/
structure Summary.Fits (summary : Summary) : Prop where
  total : summary.total < 2 ^ 64
  sum : summary.sum < 2 ^ 64

theorem Summary.Fits.left {first second : Summary} (fits : (first + second).Fits) : first.Fits where
  total := (Nat.le_add_right _ _).trans_lt fits.total
  sum := (Nat.le_add_right _ _).trans_lt fits.sum

theorem Summary.Fits.right {first second : Summary} (fits : (first + second).Fits) :
    second.Fits where
  total := (Nat.le_add_left _ _).trans_lt fits.total
  sum := (Nat.le_add_left _ _).trans_lt fits.sum

/-- The least of two, when there may be none and a default stands for that. -/
theorem untopD_min {bound : ℕ} (first second : WithTop ℕ) (firstLe : first.untopD bound ≤ bound)
    (secondLe : second.untopD bound ≤ bound) :
    (min first second).untopD bound = min (first.untopD bound) (second.untopD bound) := by
  cases first with
  | top =>
    rw [min_eq_right le_top, WithTop.untopD_top, min_eq_right secondLe]
  | coe low =>
    cases second with
    | top =>
      rw [min_eq_left le_top, WithTop.untopD_top, min_eq_left firstLe]
    | coe other =>
      rfl

/-- Bucket lists of one length are told apart by their counts. -/
theorem buckets_unique {first second : List UInt64} (sameLength : first.length = second.length)
    (sameCounts : ∀ index, (first.getD index 0).toNat = (second.getD index 0).toNat) :
    first = second := by
  apply List.ext_getElem sameLength
  intro index firstBound secondBound
  rw [List.getElem_eq_getD 0, List.getElem_eq_getD 0]
  exact UInt64.toNat_inj.mp (sameCounts index)

end PortableTpcc
