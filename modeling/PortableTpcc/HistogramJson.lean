import PortableTpcc.Histogram
import PortableTpcc.HistogramMergeLaws
import PortableTpcc.JsonValues

namespace PortableTpcc

/-!
# Histograms as JSON

A worker writes its histograms with `HistogramRaw` (`artifacts.cpp`), and the
orchestrator reads them with `UnmarshalJSON` (`merge.go`).
-/

/-- The units of a histogram that the configuration of a worker allows. -/
inductive HistogramUnit where
  | ms
  | us
  deriving Repr, DecidableEq

/-- The name of the unit. -/
def HistogramUnit.text : HistogramUnit → String
  | .ms => "ms"
  | .us => "us"

theorem HistogramUnit.text_ne (unit : HistogramUnit) : unit.text ≠ "" := by
  cases unit <;> decide

/-- `HistogramRaw`: the members of the object. -/
def histogramRaw (hist : THistogram) (unit : String) : List (String × Json) :=
  [("layout", .str "linear_exp"), ("unit", .str unit), ("hdr_till", .word hist.layout.hdrTill),
    ("max_value", .word hist.layout.maxValue),
    ("sub_buckets_per_octave", .word subBucketsPerOctave), ("total_count", .word hist.totalCount),
    ("overflow_count", .word hist.overflowCount), ("min_recorded", .word hist.minRecorded),
    ("max_recorded", .word hist.maxRecordedValue), ("sum_values", .word hist.sumValues),
    ("buckets", .arr (hist.buckets.map .word))]

namespace Mind

/-- Go's `Raw.UnmarshalJSON`, without the components. -/
def unmarshalFields (number : ℚ → ℚ) (members : List (String × Json)) :
    Except String RawFields := do
  let layout ← Json.stringField members "layout"
  let unit ← Json.stringField members "unit"
  let hdrTill ← Json.uintField number members "hdr_till"
  let maxValue ← Json.uintField number members "max_value"
  let payloadSub ← Json.uintField number members "sub_buckets_per_octave"
  let totalCount ← Json.uintField number members "total_count"
  let overflowCount? ← Json.uintPointerField number members "overflow_count"
  let minRecorded? ← Json.uintPointerField number members "min_recorded"
  let maxRecorded? ← Json.uintPointerField number members "max_recorded"
  let sumValues? ← Json.uintPointerField number members "sum_values"
  let buckets ← Json.uintsField number members "buckets"
  match minRecorded?, maxRecorded?, sumValues?, overflowCount? with
  | none, _, _, _ => .error "histogram missing min_recorded"
  | _, none, _, _ => .error "histogram missing max_recorded"
  | _, _, none, _ => .error "histogram missing sum_values"
  | _, _, _, none => .error "histogram missing overflow_count"
  | some minRecorded, some maxRecorded, some sumValues, some overflowCount =>
    pure
      { layout
        unit
        hdrTill
        maxValue
        subBucketsPerOctave := if payloadSub = 0 then subBucketsPerOctave else payloadSub
        totalCount
        overflowCount
        minRecorded
        maxRecorded
        sumValues
        buckets }

/--
`UnmarshalJSON` on a component.  Its own components are only counted: whether
they decode or not, the payload is rejected.
-/
def unmarshalNested (number : ℚ → ℚ) : Json → Except String NestedRaw
  | .obj members => do
      let fields ← unmarshalFields number members
      let inner ← Json.membersField members "components"
      pure { toRawFields := fields, componentCount := inner.length }
  | .null => .error "histogram missing min_recorded"
  | _ => .error (Json.typeError "histogram.rawJSON")

/-- Decode the components one after the other; the last of a name counts. -/
def unmarshalComponents (number : ℚ → ℚ) (members : List (String × Json)) :
    Except String (Finmap fun _ : String => NestedRaw) :=
  members.foldlM (fun components member => do
      let component ← unmarshalNested number member.2
      pure (components.insert member.1 component))
    ∅

/-- `UnmarshalJSON`. -/
def unmarshal (number : ℚ → ℚ) : Json → Except String Raw
  | .obj members => do
      let fields ← unmarshalFields number members
      let inner ← Json.membersField members "components"
      let components ← unmarshalComponents number inner
      pure { toRawFields := fields, components }
  | .null => .error "histogram missing min_recorded"
  | _ => .error (Json.typeError "histogram.rawJSON")

/-- The payload that a histogram is read back as. -/
def RawFields.ofHistogram (hist : THistogram) (unit : String) : RawFields where
  layout := layoutLinearExp
  unit
  hdrTill := hist.layout.hdrTill
  maxValue := hist.layout.maxValue
  subBucketsPerOctave := PortableTpcc.subBucketsPerOctave
  totalCount := hist.totalCount
  overflowCount := hist.overflowCount
  minRecorded := hist.minRecorded
  maxRecorded := hist.maxRecordedValue
  sumValues := hist.sumValues
  buckets := hist.buckets

/-- The payload that the histogram is read as, if numbers are read this way. -/
structure ReadsAs (number : ℚ → ℚ) (hist : THistogram) (unit : String) (h : RawFields) : Prop where
  layout : h.layout = layoutLinearExp
  unit_eq : h.unit = unit
  subBuckets_eq : h.subBucketsPerOctave = subBucketsPerOctave
  hdrTill : number hist.layout.hdrTill.toNat = h.hdrTill.toNat
  maxValue : number hist.layout.maxValue.toNat = h.maxValue.toNat
  subBuckets : number subBucketsPerOctave.toNat = subBucketsPerOctave.toNat
  total : number hist.totalCount.toNat = h.totalCount.toNat
  overflow : number hist.overflowCount.toNat = h.overflowCount.toNat
  least : number hist.minRecorded.toNat = h.minRecorded.toNat
  greatest : number hist.maxRecordedValue.toNat = h.maxRecorded.toNat
  sum : number hist.sumValues.toNat = h.sumValues.toNat
  buckets :
    List.Forall₂
      (fun written read : UInt64 => number written.toNat = read.toNat)
      hist.buckets h.buckets

theorem mapM_uintElement_word {number : ℚ → ℚ} {written read : List UInt64}
    (reads : List.Forall₂ (fun written read : UInt64 => number written.toNat = read.toNat)
        written read) : (written.map Json.word).mapM (Json.uintElement number) = .ok read := by
  induction reads with
  | nil =>
    rfl
  | cons first _ later =>
    have isFirst : Json.uintElement number (Json.word _) = .ok _ := Json.asUint64_of_eq first
    rw [List.map_cons, List.mapM_cons, isFirst, later]
    rfl

/-- The names that `HistogramRaw` writes have no letters in upper case. -/
theorem plainField_histogramRaw (hist : THistogram) (unit : String) {extra : List (String × Json)}
    (others : ∀ entry ∈ extra, entry.1 = "components") (name : String) :
    Json.PlainField (histogramRaw hist unit ++ extra) name := by
  have folded : ∀ key ∈ "components" :: (histogramRaw hist unit).map (·.1),
      Json.foldName key = key.toList := by
    change ∀ key ∈ ["components", "layout", "unit", "hdr_till", "max_value",
      "sub_buckets_per_octave", "total_count", "overflow_count", "min_recorded", "max_recorded",
      "sum_values", "buckets"], Json.foldName key = key.toList
    decide
  rw [List.forall_mem_cons] at folded
  apply Json.plainField_of_folded
  rw [List.map_append, List.forall_mem_append, List.forall_mem_map (l := extra)]
  exact ⟨folded.2, fun entry isIn => others entry isIn ▸ folded.1⟩

/-- What `HistogramRaw` writes is read back, whatever else the object has. -/
theorem unmarshalFields_histogramRaw {number : ℚ → ℚ} {hist : THistogram} {unit : String}
    {h : RawFields} (reads : ReadsAs number hist unit h) (extra : List (String × Json))
    (others : ∀ entry ∈ extra, entry.1 = "components") :
    unmarshalFields number (histogramRaw hist unit ++ extra) = .ok h := by
  have member (name : String) (notComponents : name ≠ "components")
      (isFolded : Json.foldName name = name.toList) :
      Json.field? (histogramRaw hist unit ++ extra) name =
      Json.member? (histogramRaw hist unit) name := by
    rw [Json.field?_eq_member? (plainField_histogramRaw hist unit others name) isFolded]
    apply Json.member?_append_of_forall_ne
    intro entry isIn isName
    exact notComponents (isName.symm.trans (others entry isIn))
  have uintPointer {name : String} {written read : UInt64} (notComponents : name ≠ "components")
      (isFolded : Json.foldName name = name.toList)
      (isMember : Json.member? (histogramRaw hist unit) name = some (.word written))
      (isRead : number written.toNat = read.toNat) :
      Json.uintPointerField number (histogramRaw hist unit ++ extra) name = .ok (some read) := by
    unfold Json.uintPointerField
    rw [member name notComponents isFolded, isMember]
    change some <$> Json.asUint64 number written.toNat = _
    rw [Json.asUint64_of_eq isRead]
    rfl
  have uint {name : String} {written read : UInt64} (notComponents : name ≠ "components")
      (isFolded : Json.foldName name = name.toList)
      (isMember : Json.member? (histogramRaw hist unit) name = some (.word written))
      (isRead : number written.toNat = read.toNat) :
      Json.uintField number (histogramRaw hist unit ++ extra) name = .ok read := by
    unfold Json.uintField
    rw [uintPointer notComponents isFolded isMember isRead]
    rfl
  have layout : Json.stringField (histogramRaw hist unit ++ extra) "layout" =
        .ok h.layout := by
    unfold Json.stringField
    rw [member "layout" (by decide) (by decide), reads.layout]
    rfl
  have unit_ : Json.stringField (histogramRaw hist unit ++ extra) "unit" =
        .ok h.unit := by
    unfold Json.stringField
    rw [member "unit" (by decide) (by decide), reads.unit_eq]
    rfl
  have buckets : Json.uintsField number (histogramRaw hist unit ++ extra) "buckets" =
        .ok h.buckets := by
    unfold Json.uintsField
    rw [member "buckets" (by decide) (by decide)]
    exact mapM_uintElement_word reads.buckets
  have sub : (if subBucketsPerOctave = 0 then subBucketsPerOctave
        else subBucketsPerOctave) =
        h.subBucketsPerOctave := by
    rw [reads.subBuckets_eq]
    rfl
  unfold unmarshalFields
  rw [layout, unit_, uint (by decide) (by decide) rfl reads.hdrTill,
    uint (by decide) (by decide) rfl reads.maxValue,
    uint (by decide) (by decide) rfl reads.subBuckets, uint (by decide) (by decide) rfl reads.total,
    uintPointer (by decide) (by decide) rfl reads.overflow,
    uintPointer (by decide) (by decide) rfl reads.least,
    uintPointer (by decide) (by decide) rfl reads.greatest,
    uintPointer (by decide) (by decide) rfl reads.sum, buckets]
  simp only [ok_bind, sub]
  rfl

section

variable {hist other sum : THistogram} {summary second : Summary}

theorem conforms_ofHistogram (hist : THistogram) (unit : HistogramUnit) :
    (RawFields.ofHistogram hist unit.text).Conforms hist.layout where
  layout_eq := rfl
  unit_ne := unit.text_ne
  subBuckets_eq := by
    change (if PortableTpcc.subBucketsPerOctave = 0 then _ else _) =
      PortableTpcc.subBucketsPerOctave
    exact if_neg (by decide)
  hdrTill_eq := rfl
  maxValue_eq := rfl
  length_eq := hist.length_buckets

theorem normal_ofHistogram (hist : THistogram) (unit : String) :
    (RawFields.ofHistogram hist unit).Normal :=
  fun isEmpty => if_pos isEmpty

theorem sameHeader_ofHistogram (sameLayout : other.layout = hist.layout) (unit : String) :
    (RawFields.ofHistogram other unit).SameHeader (.ofHistogram hist unit) where
  layout_eq := rfl
  unit_eq := rfl
  hdrTill_eq := congrArg HistogramLayout.hdrTill sameLayout
  maxValue_eq := congrArg HistogramLayout.maxValue sameLayout
  subBuckets_eq := rfl
  length_eq := by
    change other.buckets.length = hist.buckets.length
    rw [other.length_buckets, hist.length_buckets, sameLayout]

theorem summary_ofHistogram (represents : hist.Represents summary)
    (valid : hist.layout.slots.Valid summary) (unit : String) :
    (RawFields.ofHistogram hist unit).summary = summary := by
  ext
  case buckets index =>
    exact represents.buckets index
  case total =>
    exact represents.total
  case overflow =>
    exact represents.overflow
  case sum =>
    exact represents.sum
  case greatest =>
    exact represents.greatest
  case least =>
    change (if hist.totalCount = 0 then ⊤
      else (hist.minRecorded.toNat : WithTop ℕ)) = summary.least
    by_cases isEmpty : hist.totalCount = 0
    · have noSamples : summary.total = 0 := by
        rw [← represents.total, isEmpty]
        rfl
      rw [if_pos isEmpty, valid.empty noSamples]
      rfl
    · have someSamples : summary.total ≠ 0 := by
        rw [← represents.total]
        exact fun isZero => isEmpty (UInt64.toNat_inj.mp isZero)
      obtain ⟨low, fromLow⟩ := valid.nonempty someSamples
      have least := represents.least
      rw [fromLow.isLeast] at least
      change hist.minRecordedValue.toNat = low at least
      rw [if_neg isEmpty, fromLow.isLeast, THistogram.minRecorded, if_neg isEmpty, least]

theorem exact_ofHistogram (represents : hist.Represents summary)
    (valid : hist.layout.slots.Valid summary) (small : summary.greatest < 2 ^ 58) (unit : String) :
    (RawFields.ofHistogram hist unit).Exact := by
  have maxSmall : hist.maxRecordedValue.toNat < 2 ^ 58 := by
    rw [represents.greatest]
    exact small
  refine ⟨fun _ => ?_, fun _ => maxSmall⟩
  change hist.minRecorded.toNat < 2 ^ 58
  by_cases isEmpty : hist.totalCount = 0
  · rw [THistogram.minRecorded, if_pos isEmpty]
    decide
  · have someSamples : summary.total ≠ 0 := by
      rw [← represents.total]
      exact fun isZero => isEmpty (UInt64.toNat_inj.mp isZero)
    obtain ⟨low, fromLow⟩ := valid.nonempty someSamples
    have least := represents.least
    rw [fromLow.isLeast] at least
    change hist.minRecordedValue.toNat = low at least
    rw [THistogram.minRecorded, if_neg isEmpty, least]
    exact fromLow.ordered.trans_lt small

theorem validateFields_ofHistogram (represents : hist.Represents summary)
    (valid : hist.layout.slots.Valid summary) (small : summary.greatest < 2 ^ 58)
    (unit : HistogramUnit) : validateFields (.ofHistogram hist unit.text) = .ok () := by
  rw [validateFields_eq_ok (conforms_ofHistogram hist unit)
    (exact_ofHistogram represents valid small unit.text), summary_ofHistogram represents valid]
  exact ⟨valid, normal_ofHistogram hist unit.text⟩

/-- `Merge` on payloads of histograms is `Add` on the histograms. -/
theorem mergeFields_ofHistogram (represents : hist.Represents summary)
    (otherRepresents : other.Represents second)
    (sumRepresents : sum.Represents (summary + second)) (otherLayout : other.layout = hist.layout)
    (sumLayout : sum.layout = hist.layout) (valid : hist.layout.slots.Valid summary)
    (otherValid : hist.layout.slots.Valid second) (unit : HistogramUnit) :
    mergeFields (.ofHistogram hist unit.text) (.ofHistogram other unit.text) =
      .ok (.ofHistogram sum unit.text) := by
  have otherConforms := conforms_ofHistogram other unit
  have otherValid_ := otherValid
  rw [← otherLayout] at otherValid_
  have sumValid := valid.add otherValid
  rw [← sumLayout] at sumValid
  have otherSummary := summary_ofHistogram otherRepresents otherValid_ unit.text
  have ownSummary := summary_ofHistogram represents valid unit.text
  rw [otherLayout] at otherConforms
  rw [mergeFields_eq_ok (conforms_ofHistogram hist unit) otherConforms
    (by rw [ownSummary]; exact valid) (by rw [otherSummary]; exact otherValid)
    (normal_ofHistogram hist unit.text)]
  refine ⟨rfl, sameHeader_ofHistogram sumLayout unit.text, ?_, normal_ofHistogram sum unit.text⟩
  rw [ownSummary, otherSummary]
  exact summary_ofHistogram sumRepresents sumValid unit.text

end

end Mind

end PortableTpcc
