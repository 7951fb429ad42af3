import PortableTpcc.HistogramValidity

namespace PortableTpcc

namespace Mind

/-!
# Merging adds up

`Merge` of two accepted payloads of one layout and unit adds what they keep; it
fails only when a count or the sum would not fit into a word.
-/

/-- Payloads with the same fields apart from the numbers recorded. -/
structure RawFields.SameHeader (h other : RawFields) : Prop where
  layout_eq : h.layout = other.layout
  unit_eq : h.unit = other.unit
  hdrTill_eq : h.hdrTill = other.hdrTill
  maxValue_eq : h.maxValue = other.maxValue
  subBuckets_eq : h.subBucketsPerOctave = other.subBucketsPerOctave
  length_eq : h.buckets.length = other.buckets.length

/-- A payload is determined by its header and what it keeps. -/
theorem RawFields.SameHeader.unique {h other : RawFields} (sameHeader : h.SameHeader other)
    (sameSummary : h.summary = other.summary) (normal : h.Normal) (otherNormal : other.Normal) :
    h = other := by
  have buckets : h.buckets = other.buckets :=
    buckets_unique sameHeader.length_eq
      fun index => congrFun (congrArg Summary.buckets sameSummary) index
  have total : h.totalCount = other.totalCount :=
    UInt64.toNat_inj.mp (congrArg Summary.total sameSummary)
  have overflow : h.overflowCount = other.overflowCount :=
    UInt64.toNat_inj.mp (congrArg Summary.overflow sameSummary)
  have greatest : h.maxRecorded = other.maxRecorded :=
    UInt64.toNat_inj.mp (congrArg Summary.greatest sameSummary)
  have sum : h.sumValues = other.sumValues := UInt64.toNat_inj.mp (congrArg Summary.sum sameSummary)
  have least : h.minRecorded = other.minRecorded := by
    by_cases isEmpty : h.totalCount = 0
    · rw [normal isEmpty, otherNormal (total ▸ isEmpty)]
    · have same : h.summary.least = other.summary.least := congrArg Summary.least sameSummary
      simp only [RawFields.summary, ← total, if_neg isEmpty] at same
      exact UInt64.toNat_inj.mp (WithTop.coe_injective same)
  obtain ⟨layout_eq, unit_eq, hdrTill_eq, maxValue_eq, subBuckets_eq, _⟩ := sameHeader
  cases h
  cases other
  simp_all

theorem mergeBuckets_eq_ok {own other result : List UInt64} {index : Nat}
    (sameLength : own.length = other.length) :
    mergeBuckets index own other = .ok result ↔ result.length = own.length ∧ ∀ position,
      (own.getD position 0).toNat + (other.getD position 0).toNat =
      (result.getD position 0).toNat := by
  induction own generalizing other result index with
  | nil =>
    have otherNil : other = [] := List.length_eq_zero_iff.mp sameLength.symm
    subst otherNil
    constructor
    · intro isOk
      obtain rfl : [] = result := Except.ok.inj isOk
      simp
    · rintro ⟨noBuckets, _⟩
      obtain rfl := List.length_eq_zero_iff.mp noBuckets
      rfl
  | cons count rest ih =>
    cases other with
    | nil =>
      simp at sameLength
    | cons otherCount others =>
      rw [mergeBuckets]
      simp only [bind_eq_ok, mapError_eq_ok, addUint64_eq_ok,
        ih (Nat.succ.inj sameLength)]
      constructor
      · rintro ⟨next, isNext, later, ⟨length, counts⟩, isOk⟩
        obtain rfl : next :: later = result := Except.ok.inj isOk
        refine ⟨congrArg Nat.succ length, ?_⟩
        intro position
        cases position with
        | zero =>
          exact isNext
        | succ position =>
          exact counts position
      · rintro ⟨length, counts⟩
        cases result with
        | nil =>
          simp at length
        | cons next later =>
          exact ⟨next, counts 0, later,
            ⟨Nat.succ.inj length, fun position => counts (position + 1)⟩, rfl⟩

section

variable {dst src : RawFields} {layout : HistogramLayout}

theorem RawFields.summary_eq_zero {h : RawFields} (valid : layout.slots.Valid h.summary)
    (isEmpty : h.totalCount = 0) : h.summary = 0 :=
  valid.empty (congrArg UInt64.toNat isEmpty)

theorem toNat_mergedMax (dstValid : layout.slots.Valid dst.summary)
    (srcValid : layout.slots.Valid src.summary) :
    (mergedMax dst src).toNat = max dst.maxRecorded.toNat src.maxRecorded.toNat := by
  unfold mergedMax
  by_cases srcEmpty : src.totalCount = 0
  · have srcMax : src.maxRecorded.toNat = 0 :=
      congrArg Summary.greatest (RawFields.summary_eq_zero srcValid srcEmpty)
    rw [if_neg (by simp [srcEmpty]), srcMax, Nat.max_zero]
  · have srcSome : src.totalCount > 0 := UInt64.pos_iff_ne_zero.mpr srcEmpty
    by_cases dstEmpty : dst.totalCount = 0
    · have dstMax : dst.maxRecorded.toNat = 0 :=
        congrArg Summary.greatest (RawFields.summary_eq_zero dstValid dstEmpty)
      rw [if_pos ⟨srcSome, .inl dstEmpty⟩, dstMax, Nat.zero_max]
    · by_cases greater : src.maxRecorded > dst.maxRecorded
      · have less := UInt64.lt_iff_toNat_lt.mp greater
        rw [if_pos ⟨srcSome, .inr greater⟩, max_eq_right less.le]
      · have notLess : src.maxRecorded.toNat ≤ dst.maxRecorded.toNat :=
          UInt64.le_iff_toNat_le.mp (UInt64.not_lt.mp greater)
        rw [if_neg (by simp [dstEmpty, greater]), max_eq_left notLess]

/-- The least of what was recorded on either side. -/
theorem coe_mergedMin (someRecorded : dst.totalCount ≠ 0 ∨ src.totalCount ≠ 0) :
    (((mergedMin dst src).toNat : ℕ) : WithTop ℕ) = min dst.summary.least src.summary.least := by
  unfold mergedMin
  by_cases srcEmpty : src.totalCount = 0
  · have dstSome : dst.totalCount ≠ 0 :=
      someRecorded.resolve_right fun nonempty => nonempty srcEmpty
    rw [if_neg (by simp [srcEmpty])]
    simp [RawFields.summary, srcEmpty, dstSome]
  · have srcSome : src.totalCount > 0 := UInt64.pos_iff_ne_zero.mpr srcEmpty
    by_cases dstEmpty : dst.totalCount = 0
    · rw [if_pos ⟨srcSome, .inl dstEmpty⟩]
      simp [RawFields.summary, srcEmpty, dstEmpty]
    · simp only [RawFields.summary, if_neg srcEmpty, if_neg dstEmpty]
      by_cases less : src.minRecorded < dst.minRecorded
      · have below := UInt64.lt_iff_toNat_lt.mp less
        rw [if_pos ⟨srcSome, .inr less⟩]
        exact (min_eq_right (WithTop.coe_le_coe.mpr below.le)).symm
      · have notLess : dst.minRecorded.toNat ≤ src.minRecorded.toNat :=
          UInt64.le_iff_toNat_le.mp (UInt64.not_lt.mp less)
        rw [if_neg (by simp [dstEmpty, less])]
        exact (min_eq_left (WithTop.coe_le_coe.mpr notLess)).symm

section

variable {buckets : List UInt64} {total overflow sum : UInt64}

theorem empty_of_total (isTotal : dst.totalCount.toNat + src.totalCount.toNat = total.toNat)
    (isEmpty : total = 0) : dst.totalCount = 0 ∧ src.totalCount = 0 := by
  rw [isEmpty, UInt64.toNat_zero] at isTotal
  exact ⟨UInt64.toNat_inj.mp (Nat.eq_zero_of_add_eq_zero_right isTotal),
    UInt64.toNat_inj.mp (Nat.eq_zero_of_add_eq_zero_left isTotal)⟩

theorem normal_mergedFields (dstNormal : dst.Normal)
    (isTotal : dst.totalCount.toNat + src.totalCount.toNat = total.toNat) :
    (mergedFields dst src buckets total overflow sum).Normal := by
  intro isEmpty
  obtain ⟨dstEmpty, srcEmpty⟩ := empty_of_total isTotal isEmpty
  change mergedMin dst src = 0
  rw [mergedMin, if_neg (by simp [srcEmpty]), dstNormal dstEmpty]

theorem summary_mergedFields (dstValid : layout.slots.Valid dst.summary)
    (srcValid : layout.slots.Valid src.summary)
    (counts : ∀ position, (dst.buckets.getD position 0).toNat +
      (src.buckets.getD position 0).toNat = (buckets.getD position 0).toNat)
    (isTotal : dst.totalCount.toNat + src.totalCount.toNat = total.toNat)
    (isOverflow : dst.overflowCount.toNat + src.overflowCount.toNat = overflow.toNat)
    (isSum : dst.sumValues.toNat + src.sumValues.toNat = sum.toNat) :
    (mergedFields dst src buckets total overflow sum).summary = dst.summary + src.summary := by
  ext
  case buckets position =>
    exact (counts position).symm
  case total =>
    exact isTotal.symm
  case overflow =>
    exact isOverflow.symm
  case sum =>
    exact isSum.symm
  case greatest =>
    exact toNat_mergedMax dstValid srcValid
  case least =>
    change (if total = 0 then ⊤ else ((mergedMin dst src).toNat : WithTop ℕ)) =
      min dst.summary.least src.summary.least
    by_cases isEmpty : total = 0
    · obtain ⟨dstEmpty, srcEmpty⟩ := empty_of_total isTotal isEmpty
      simp [isEmpty, RawFields.summary, dstEmpty, srcEmpty]
    · have someRecorded : dst.totalCount ≠ 0 ∨ src.totalCount ≠ 0 := by
        by_contra noneRecorded
        rw [not_or, not_not, not_not] at noneRecorded
        rw [noneRecorded.1, noneRecorded.2] at isTotal
        exact isEmpty (UInt64.toNat_inj.mp isTotal.symm)
      rw [if_neg isEmpty, coe_mergedMin someRecorded]

end

theorem addCounts_eq_ok {total overflow sum : UInt64} :
    addCounts dst src = .ok (total, overflow, sum) ↔
      dst.totalCount.toNat + src.totalCount.toNat = total.toNat ∧
        dst.overflowCount.toNat + src.overflowCount.toNat = overflow.toNat ∧
        dst.sumValues.toNat + src.sumValues.toNat = sum.toNat := by
  unfold addCounts
  simp only [bind_eq_ok, mapError_eq_ok, addUint64_eq_ok]
  constructor
  · rintro ⟨_, isTotal, _, isOverflow, _, isSum, same⟩
    obtain ⟨rfl, rfl, rfl⟩ := by simpa using Except.ok.inj same
    exact ⟨isTotal, isOverflow, isSum⟩
  · rintro ⟨isTotal, isOverflow, isSum⟩
    exact ⟨_, isTotal, _, isOverflow, _, isSum, rfl⟩

/-- What `Merge` makes of the fields of two payloads of one layout. -/
theorem mergeFields_eq_ok {result : RawFields} (dstConforms : dst.Conforms layout)
    (srcConforms : src.Conforms layout) (dstValid : layout.slots.Valid dst.summary)
    (srcValid : layout.slots.Valid src.summary) (dstNormal : dst.Normal) :
    mergeFields dst src = .ok result ↔ dst.unit = src.unit ∧ result.SameHeader dst ∧
      result.summary = dst.summary + src.summary ∧ result.Normal := by
  have sameLength : dst.buckets.length = src.buckets.length :=
    dstConforms.length_eq.trans srcConforms.length_eq.symm
  have parameters : ¬ (dst.hdrTill ≠ src.hdrTill ∨ dst.maxValue ≠ src.maxValue) := by
    rw [dstConforms.hdrTill_eq, dstConforms.maxValue_eq,
      srcConforms.hdrTill_eq, srcConforms.maxValue_eq]
    simp
  have layouts : dst.layout = src.layout := dstConforms.layout_eq.trans srcConforms.layout_eq.symm
  have subs : subBuckets dst = subBuckets src :=
    dstConforms.subBuckets_eq.trans srcConforms.subBuckets_eq.symm
  have headers : checkHeaders dst src = .ok () ↔ dst.unit = src.unit := by
    simp only [checkHeaders, bind_eq_ok, rejectIf_eq_ok, exists_const, not_not, parameters, layouts,
      subs, sameLength, not_false_eq_true, true_and, and_true]
  unfold mergeFields
  simp only [bind_eq_ok, exists_const, headers, mergeBuckets_eq_ok sameLength, Prod.exists,
    addCounts_eq_ok]
  refine and_congr_right fun sameUnit => ?_
  constructor
  · rintro ⟨buckets, ⟨length, counts⟩, total, overflow, sum, ⟨isTotal, isOverflow, isSum⟩, isOk⟩
    obtain rfl : mergedFields dst src buckets total overflow sum = result := Except.ok.inj isOk
    exact ⟨⟨rfl, rfl, rfl, rfl, rfl, length⟩,
      summary_mergedFields dstValid srcValid counts isTotal isOverflow isSum,
      normal_mergedFields dstNormal isTotal⟩
  · rintro ⟨sameHeader, sameSummary, normal⟩
    have counts (position : ℕ) : (dst.buckets.getD position 0).toNat +
        (src.buckets.getD position 0).toNat = (result.buckets.getD position 0).toNat :=
      (congrFun (congrArg Summary.buckets sameSummary) position).symm
    have isTotal : dst.totalCount.toNat + src.totalCount.toNat =
          result.totalCount.toNat :=
      (congrArg Summary.total sameSummary).symm
    have isOverflow : dst.overflowCount.toNat + src.overflowCount.toNat =
          result.overflowCount.toNat :=
      (congrArg Summary.overflow sameSummary).symm
    have isSum : dst.sumValues.toNat + src.sumValues.toNat = result.sumValues.toNat :=
      (congrArg Summary.sum sameSummary).symm
    have isMerged : mergedFields dst src result.buckets result.totalCount
        result.overflowCount result.sumValues = result := by
      apply RawFields.SameHeader.unique
      · exact ⟨sameHeader.layout_eq.symm, sameHeader.unit_eq.symm,
          sameHeader.hdrTill_eq.symm, sameHeader.maxValue_eq.symm,
          sameHeader.subBuckets_eq.symm, rfl⟩
      · rw [sameSummary]
        exact summary_mergedFields dstValid srcValid counts isTotal isOverflow isSum
      · exact normal_mergedFields dstNormal isTotal
      · exact normal
    exact ⟨result.buckets, ⟨sameHeader.length_eq, counts⟩,
      result.totalCount, result.overflowCount, result.sumValues, ⟨isTotal, isOverflow, isSum⟩,
      congrArg Except.ok isMerged⟩

end

theorem mem_sortedNames {components : Finmap fun _ : String => NestedRaw} {name : String} :
    name ∈ sortedNames components ↔ ∃ component, components.lookup name = some component := by
  rw [sortedNames, mem_sortStrings, Finmap.mem_keys,
    ← Finmap.lookup_isSome, Option.isSome_iff_exists]

theorem nodup_sortedNames (components : Finmap fun _ : String => NestedRaw) :
    (sortedNames components).Nodup :=
  nodup_sortStrings _

/-- `Validate` accepts this as a component. -/
def NestedRaw.Accepted (h : NestedRaw) : Prop :=
  h.componentCount = 0 ∧ validateFields h.toRawFields = .ok ()

/-- Every component is accepted. -/
def ComponentsAccepted (components : Finmap fun _ : String => NestedRaw) : Prop :=
  ∀ name component, components.lookup name = some component → component.Accepted

theorem validateComponents_eq_ok {h : Raw} :
    validateComponents h = .ok () ↔ ComponentsAccepted h.components := by
  unfold validateComponents
  rw [forM_eq_ok]
  simp only [bind_eq_ok, rejectIf_eq_ok, mapError_eq_ok, Unique.exists_iff,
    mem_sortedNames, gt_iff_lt, not_lt, Nat.le_zero]
  constructor
  · intro all name component isComponent
    have here := all name ⟨component, isComponent⟩
    rwa [isComponent] at here
  · rintro accepted name ⟨component, isComponent⟩
    rw [isComponent]
    exact accepted name component isComponent

theorem validate_eq_ok {h : Raw} :
    validate h = .ok () ↔ validateFields h.toRawFields = .ok () ∧
        ComponentsAccepted h.components := by
  unfold validate
  simp only [bind_eq_ok, Unique.exists_iff, PUnit.default_eq_unit, validateComponents_eq_ok]

end Mind

end PortableTpcc
