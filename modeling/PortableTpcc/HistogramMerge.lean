import Mathlib.Data.Finmap
import Mathlib.Data.Finset.Sort
import Mathlib.Data.String.Basic
import PortableTpcc.FallibleChecks
import PortableTpcc.HistogramLayout

namespace PortableTpcc

/-!
# Validating and merging histogram payloads

`merge.go`: the histogram payload of a worker as the orchestrator holds it, the
checks of `Validate`, and `Merge`.  A payload may have components, which are
payloads again; a component with components of its own is never accepted, so
all that is kept of those is their number.
-/

namespace Mind

/-- `LayoutLinearExp`. -/
def layoutLinearExp : String :=
  "linear_exp"

/-- The fields of `Raw` other than its components. -/
structure RawFields where
  layout : String
  unit : String
  hdrTill : UInt64
  maxValue : UInt64
  subBucketsPerOctave : UInt64
  totalCount : UInt64
  overflowCount : UInt64
  minRecorded : UInt64
  maxRecorded : UInt64
  sumValues : UInt64
  buckets : List UInt64
  deriving Repr, DecidableEq

/-- A `Raw` inside another one. -/
structure NestedRaw extends RawFields where
  componentCount : Nat
  deriving Repr, DecidableEq

/-- `Raw`; a `nil` map of components is the empty map. -/
structure Raw extends RawFields where
  components : Finmap fun _ : String => NestedRaw

/-- The zero value of the fields of a `Raw`. -/
def RawFields.zero : RawFields where
  layout := ""
  unit := ""
  hdrTill := 0
  maxValue := 0
  subBucketsPerOctave := 0
  totalCount := 0
  overflowCount := 0
  minRecorded := 0
  maxRecorded := 0
  sumValues := 0
  buckets := []

/-- The zero value of a component. -/
def NestedRaw.zero : NestedRaw where
  toRawFields := .zero
  componentCount := 0

/-- The zero value of `Raw`. -/
def Raw.zero : Raw where
  toRawFields := .zero
  components := ∅

/-- `addUint64`. -/
def addUint64 (a b : UInt64) : Except String UInt64 :=
  if b > maxUint64 - a then
    .error "uint64 overflow"
  else
    .ok (a + b)

/-- `mulUint64`. -/
def mulUint64 (a b : UInt64) : Except String UInt64 :=
  if a ≠ 0 ∧ b > maxUint64 / a then
    .error "uint64 overflow"
  else
    .ok (a * b)

/-- The octave that `octaves` appends in a turn of its loop. -/
def appendedOctave (maxValue start size : UInt64) : Octave where
  start
  stop := if addSaturating start size > maxValue then maxValue else addSaturating start size

/-- The loop of `octaves`, which appends to `out`. -/
def octavesInto (out : List Octave) (maxValue start size : UInt64) (nonzero : 0 < size) :
    List Octave :=
  if start < maxValue then
    let octave := appendedOctave maxValue start size
    if large : size > maxUint64 / 2 then
      out ++ [octave]
    else
      octavesInto (out ++ [octave]) maxValue octave.stop (size * 2) (double_pos nonzero large)
  else
    out
termination_by 2 ^ 64 - size.toNat
decreasing_by exact sub_double_lt nonzero large

/-- `octaves`; nobody asks for them with a `hdrTill` of zero, where the loop would not end. -/
def octaves (hdrTill maxValue : UInt64) : List Octave :=
  if nonzero : 0 < hdrTill then
    octavesInto [] maxValue hdrTill hdrTill nonzero
  else
    []

theorem appendedOctave_eq (maxValue start size : UInt64) :
    appendedOctave maxValue start size = octaveAt maxValue start size := by
  unfold appendedOctave octaveAt
  congr 1
  rw [← UInt64.toNat_inj, toNat_min_uint64]
  split
  · rename_i above
    exact (min_eq_right (UInt64.lt_iff_toNat_lt.mp above).le).symm
  · rename_i notAbove
    exact (min_eq_left (UInt64.le_iff_toNat_le.mp (UInt64.not_lt.mp notAbove))).symm

theorem octavesInto_eq (out : List Octave) (maxValue start size : UInt64) (nonzero : 0 < size) :
    octavesInto out maxValue start size nonzero =
      out ++ octavesFrom maxValue start size nonzero := by
  fun_induction octavesInto out maxValue start size nonzero with
  | case1 out start size nonzero below octave large =>
    rw [octavesFrom, if_pos below]
    simp [octave, appendedOctave_eq, large]
  | case2 out start size nonzero below octave notLarge ih =>
    rw [ih]
    conv_rhs => rw [octavesFrom, if_pos below]
    simp [octave, appendedOctave_eq, notLarge]
  | case3 out start size nonzero notBelow =>
    rw [octavesFrom, if_neg notBelow, List.append_nil]

/-- Both programs go through the same octaves. -/
theorem octaves_eq (hdrTill maxValue : UInt64) :
    octaves hdrTill maxValue = PortableTpcc.octaves hdrTill maxValue := by
  unfold octaves PortableTpcc.octaves
  split
  · exact octavesInto_eq [] maxValue hdrTill hdrTill _
  · rfl

theorem countBuckets_octaves (layout : HistogramLayout) :
    (octaves layout.hdrTill layout.maxValue).foldl (fun n oct => n + oct.nsubs)
      layout.hdrTill.toNat = layout.slots.size := by
  rw [octaves_eq]
  exact layout.addBucketCounts_octaves

/-- `ExpectedBucketCount`. -/
def expectedBucketCount (hdrTill maxValue : UInt64) : Except String Nat :=
  if hdrTill = 0 ∨ maxValue = 0 ∨ hdrTill > maxValue then
    .error s!"invalid histogram parameters: hdr_till={hdrTill} max_value={maxValue}"
  else
    .ok ((octaves hdrTill maxValue).foldl (fun n oct => n + oct.nsubs) hdrTill.toNat)

/-- The loop of `bucketIndex` over the octaves. -/
def bucketIndexIn : List Octave → Nat → UInt64 → Int
  | [], _, _ => -1
  | octave :: rest, index, value =>
    if value ≥ octave.start ∧ value < octave.stop then
      (index + octave.sub value : Nat)
    else
      bucketIndexIn rest (index + octave.nsubs) value

/-- `bucketIndex`. -/
def bucketIndex (h : RawFields) (value : UInt64) : Int :=
  if value ≥ h.maxValue then
    -1
  else if value < h.hdrTill then
    value.toNat
  else
    bucketIndexIn (octaves h.hdrTill h.maxValue) h.hdrTill.toNat value

/-- The checks of `Validate` that do not concern the counts. -/
def validateHeader (h : RawFields) : Except String Unit := do
  rejectIf (h.layout = "") "histogram missing layout"
  rejectIf (h.layout ≠ layoutLinearExp) s!"unsupported histogram layout {h.layout.quote}"
  rejectIf (h.unit = "") "histogram missing unit"
  rejectIf (h.subBucketsPerOctave ≠ 0 ∧ h.subBucketsPerOctave ≠ subBucketsPerOctave)
    s!"unsupported sub_buckets_per_octave {h.subBucketsPerOctave}"
  let want ← expectedBucketCount h.hdrTill h.maxValue
  rejectIf (h.buckets.length ≠ want)
    s!"histogram bucket length {h.buckets.length} != expected {want} for hdr_till={h.hdrTill} max_value={h.maxValue}"

/-- The check of `Validate` that the counts add up. -/
def validateCounts (h : RawFields) : Except String Unit := do
  let sum ← (h.buckets.foldlM addUint64 0).mapError
    fun _ => "histogram bucket counts overflow uint64"
  let withOverflow ← (addUint64 sum h.overflowCount).mapError
    fun _ => "histogram bucket counts overflow uint64"
  rejectIf (withOverflow ≠ h.totalCount)
    s!"histogram total_count {h.totalCount} != sum(buckets)+overflow_count {withOverflow}"

/-- The checks of `Validate` on an empty histogram. -/
def validateEmpty (h : RawFields) : Except String Unit := do
  rejectIf (h.sumValues ≠ 0) s!"histogram sum_values {h.sumValues} != 0 for empty histogram"
  rejectIf (h.overflowCount ≠ 0)
    s!"histogram overflow_count {h.overflowCount} != 0 for empty histogram"
  rejectIf (h.minRecorded ≠ 0 ∨ h.maxRecorded ≠ 0)
    "histogram min_recorded/max_recorded must be 0 for empty histogram"

/-- `validateSumBounds`. -/
def validateSumBounds (h : RawFields) : Except String Unit :=
  if h.totalCount = 1 then
    rejectIf (h.minRecorded ≠ h.maxRecorded ∨ h.sumValues ≠ h.minRecorded)
      s!"histogram single-sample min_recorded={h.minRecorded} max_recorded={h.maxRecorded} sum_values={h.sumValues}"
  else do
    let lower ← (mulUint64 h.minRecorded (h.totalCount - 1)).mapError
      fun _ => "histogram sum_values lower bound overflows uint64"
    let lower ← (addUint64 lower h.maxRecorded).mapError
      fun _ => "histogram sum_values lower bound overflows uint64"
    rejectIf (h.sumValues < lower)
      s!"histogram sum_values {h.sumValues} below min/max bound {lower}"
    match mulUint64 h.maxRecorded h.totalCount with
    | .ok upper =>
      rejectIf (h.sumValues > upper)
        s!"histogram sum_values {h.sumValues} above max_recorded*{h.totalCount} bound {upper}"
    | .error _ => pure ()

/-- The loop over the buckets: the index, the first and the last occupied. -/
def scanBucket (progress : Nat × Int × Int) (count : UInt64) : Nat × Int × Int :=
  let (index, first, last) := progress
  if count = 0 then
    (index + 1, first, last)
  else
    (index + 1, if first < 0 then index else first, index)

/-- `validateExtremaBuckets`. -/
def validateExtremaBuckets (h : RawFields) : Except String Unit :=
  let (_, first, last) := h.buckets.foldl scanBucket (0, -1, -1)
  let inRange := h.totalCount - h.overflowCount
  if inRange = 0 then do
    rejectIf (first ≥ 0) "histogram overflow-only payload has occupied in-range buckets"
    rejectIf (h.minRecorded < h.maxValue ∨ h.maxRecorded < h.maxValue)
      "histogram overflow-only min_recorded/max_recorded must be >= max_value"
  else do
    rejectIf (first < 0) s!"histogram in-range count {inRange} but all buckets are empty"
    let got := bucketIndex h h.minRecorded
    rejectIf (got ≠ first)
      s!"histogram min_recorded {h.minRecorded} is in bucket {got}, first occupied is {first}"
    if h.overflowCount > 0 then
      rejectIf (h.maxRecorded < h.maxValue)
        s!"histogram overflow_count {h.overflowCount} but max_recorded {h.maxRecorded} < max_value {h.maxValue}"
    else
      let got := bucketIndex h h.maxRecorded
      rejectIf (got ≠ last)
        s!"histogram max_recorded {h.maxRecorded} is in bucket {got}, last occupied is {last}"

/-- `Validate` on a histogram without components. -/
def validateFields (h : RawFields) : Except String Unit := do
  validateHeader h
  validateCounts h
  if h.totalCount = 0 then
    validateEmpty h
  else
    rejectIf (h.minRecorded > h.maxRecorded)
      s!"histogram min_recorded {h.minRecorded} > max_recorded {h.maxRecorded}"
    validateSumBounds h
    validateExtremaBuckets h

/-- Keys in the order of `sort.Strings`. -/
def sortStrings (keys : Finset String) : List String :=
  keys.sort (· ≤ ·)

theorem mem_sortStrings {keys : Finset String} {name : String} :
    name ∈ sortStrings keys ↔ name ∈ keys :=
  Finset.mem_sort _

theorem nodup_sortStrings (keys : Finset String) : (sortStrings keys).Nodup :=
  Finset.sort_nodup _ _

def sortedNames (components : Finmap fun _ : String => NestedRaw) : List String :=
  sortStrings components.keys

/-- `validateComponents`. -/
def validateComponents (h : Raw) : Except String Unit :=
  (sortedNames h.components).forM fun name => do
    let comp := (h.components.lookup name).getD .zero
    rejectIf (comp.componentCount > 0)
      s!"histogram component {name.quote} must not nest further components"
    (validateFields comp.toRawFields).mapError
      fun error => s!"histogram component {name.quote}: {error}"

/-- `Validate`. -/
def validate (h : Raw) : Except String Unit := do
  validateFields h.toRawFields
  validateComponents h

/-- `subBuckets`. -/
def subBuckets (h : RawFields) : UInt64 :=
  if h.subBucketsPerOctave = 0 then
    subBucketsPerOctave
  else
    h.subBucketsPerOctave

/-- Is this the zero value that `Merge` replaces by its source? -/
def RawFields.isZero (h : RawFields) : Bool :=
  h.hdrTill = 0 ∧ h.maxValue = 0 ∧ h.buckets.length = 0 ∧ h.layout = ""

/-- The loop of `Merge` over the buckets, from some index on. -/
def mergeBuckets : Nat → List UInt64 → List UInt64 → Except String (List UInt64)
  | index, own :: rest, other :: others => do
      let next ← (addUint64 own other).mapError
        fun _ => s!"histogram bucket {index} count overflow"
      let later ← mergeBuckets (index + 1) rest others
      pure (next :: later)
  | _, own, _ => pure own

/-- The least recorded value that `Merge` leaves in its destination. -/
def mergedMin (dst src : RawFields) : UInt64 :=
  if src.totalCount > 0 ∧ (dst.totalCount = 0 ∨ src.minRecorded < dst.minRecorded) then
    src.minRecorded
  else
    dst.minRecorded

/-- The greatest recorded value that `Merge` leaves in its destination. -/
def mergedMax (dst src : RawFields) : UInt64 :=
  if src.totalCount > 0 ∧ (dst.totalCount = 0 ∨ src.maxRecorded > dst.maxRecorded) then
    src.maxRecorded
  else
    dst.maxRecorded

/-- The destination with new counts and the extrema of both sides. -/
def mergedFields (dst src : RawFields) (buckets : List UInt64)
    (total overflow sum : UInt64) : RawFields :=
  { dst with
    buckets
    totalCount := total
    overflowCount := overflow
    sumValues := sum
    minRecorded := mergedMin dst src
    maxRecorded := mergedMax dst src }

/-- How `Merge` compares what is not counted. -/
def checkHeaders (dst src : RawFields) : Except String Unit := do
  rejectIf (dst.hdrTill ≠ src.hdrTill ∨ dst.maxValue ≠ src.maxValue)
    s!"histogram parameter mismatch: dst({dst.hdrTill},{dst.maxValue}) vs src({src.hdrTill},{src.maxValue})"
  rejectIf (dst.layout ≠ src.layout) s!"histogram layout mismatch: {dst.layout} vs {src.layout}"
  rejectIf (dst.unit ≠ src.unit) s!"histogram unit mismatch: {dst.unit} vs {src.unit}"
  rejectIf (subBuckets dst ≠ subBuckets src)
    s!"histogram sub_buckets_per_octave mismatch: {subBuckets dst} vs {subBuckets src}"
  rejectIf (dst.buckets.length ≠ src.buckets.length)
    s!"histogram bucket length mismatch: {dst.buckets.length} vs {src.buckets.length}"

/-- The total, the overflow count and the sum of both sides. -/
def addCounts (dst src : RawFields) : Except String (UInt64 × UInt64 × UInt64) := do
  let total ← (addUint64 dst.totalCount src.totalCount).mapError
    fun _ => "histogram total_count overflow"
  let overflow ← (addUint64 dst.overflowCount src.overflowCount).mapError
    fun _ => "histogram overflow_count overflow"
  let sum ← (addUint64 dst.sumValues src.sumValues).mapError
    fun _ => "histogram sum_values overflow"
  return (total, overflow, sum)

/-- The part of `Merge` that compares and adds up the fields. -/
def mergeFields (dst src : RawFields) : Except String RawFields := do
  checkHeaders dst src
  let buckets ← mergeBuckets 0 dst.buckets src.buckets
  let (total, overflow, sum) ← addCounts dst src
  pure (mergedFields dst src buckets total overflow sum)

/--
`Merge` on components.  Both were validated with the payloads they belong to,
so neither has components itself.
-/
def mergeNested (dst src : NestedRaw) : Except String NestedRaw := do
  validateFields src.toRawFields
  if dst.isZero then
    pure src
  else
    (validateFields dst.toRawFields).mapError
      fun error => s!"destination histogram: {error}"
    let merged ← mergeFields dst.toRawFields src.toRawFields
    pure { toRawFields := merged, componentCount := dst.componentCount }

/-- `for name in names: m[name] = change(name, m[name])`. -/
def updateEach (change : String → Option NestedRaw → Except String NestedRaw)
    (names : List String) (components : Finmap fun _ : String => NestedRaw) :
    Except String (Finmap fun _ : String => NestedRaw) :=
  names.foldlM (fun components name => do
      let value ← change name (components.lookup name)
      pure (components.insert name value))
    components

/-- `mergeComponents`. -/
def mergeComponents (dst src : Finmap fun _ : String => NestedRaw) :
    Except String (Finmap fun _ : String => NestedRaw) :=
  if src.keys = ∅ then
    pure dst
  else if dst.keys = ∅ then
    pure src
  else
    updateEach (fun name cur =>
        (mergeNested (cur.getD .zero) ((src.lookup name).getD .zero)).mapError
          fun error => s!"merge component {name}: {error}")
      (sortedNames src) dst

/-- `Merge`: what `*dst` is afterwards, unless it fails. -/
def merge (dst src : Raw) : Except String Raw := do
  validate src
  if dst.isZero then
    pure src
  else
    (validate dst).mapError fun error => s!"destination histogram: {error}"
    let merged ← mergeFields dst.toRawFields src.toRawFields
    let components ← mergeComponents dst.components src.components
    pure { toRawFields := merged, components }

end Mind

end PortableTpcc
