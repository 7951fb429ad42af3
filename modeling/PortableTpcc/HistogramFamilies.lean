import PortableTpcc.HistogramJson

namespace PortableTpcc

/-!
# Histograms of a family of sample lists

Each list is recorded in a histogram of its own, and the histograms are put
together in some order and grouping: with `Add` on the histograms themselves,
or with `Merge` on the payloads written for them.  Either way the result is
the histogram of all samples recorded in one.
-/

/-- A way to put the histograms of some lists together. -/
inductive MergePlan where
  | recorded (values : List UInt64)
  | merge (dst src : MergePlan)
  | fresh (src : MergePlan)

namespace MergePlan

/-- The lists of the plan, from left to right. -/
def lists : MergePlan → List (List UInt64)
  | .recorded values => [values]
  | .merge dst src => dst.lists ++ src.lists
  | .fresh src => src.lists

/-- Put histograms together with `THistogram::Add`. -/
def addAll (layout : HistogramLayout) : MergePlan → Except String THistogram
  | .recorded values => (THistogram.empty layout).recordValues values
  | .merge dst src => do
      let own ← dst.addAll layout
      let other ← src.addAll layout
      own.add other
  | .fresh src => do
      let other ← src.addAll layout
      (THistogram.empty layout).add other

/-- Write each histogram with `HistogramRaw`, read it, and use Go's `Merge`. -/
def mergeAll (layout : HistogramLayout) (unit : HistogramUnit) :
    MergePlan → Except String Mind.Raw
  | .recorded values => do
      let hist ← (THistogram.empty layout).recordValues values
      Mind.unmarshal id (.obj (histogramRaw hist unit.text))
  | .merge dst src => do
      let own ← dst.mergeAll layout unit
      let other ← src.mergeAll layout unit
      Mind.merge own other
  | .fresh src => do
      let other ← src.mergeAll layout unit
      Mind.merge .zero other

end MergePlan

namespace Mind

/-- The payload of a histogram without components. -/
def Raw.ofHistogram (hist : THistogram) (unit : String) : Raw where
  toRawFields := .ofHistogram hist unit
  components := ∅

theorem readsAs_ofHistogram_id (hist : THistogram) (unit : String) :
    ReadsAs id hist unit (.ofHistogram hist unit) where
  layout := rfl
  unit_eq := rfl
  subBuckets_eq := rfl
  hdrTill := rfl
  maxValue := rfl
  subBuckets := rfl
  total := rfl
  overflow := rfl
  least := rfl
  greatest := rfl
  sum := rfl
  buckets := List.forall₂_same.mpr fun _ _ => rfl

/-- A payload read from its own text is the one that was written. -/
theorem unmarshal_histogramRaw (hist : THistogram) (unit : String) :
    unmarshal id (.obj (histogramRaw hist unit)) = .ok (.ofHistogram hist unit) := by
  have fields := unmarshalFields_histogramRaw (readsAs_ofHistogram_id hist unit) [] (by simp)
  have plain : Json.PlainField (histogramRaw hist unit ++ []) "components" :=
    plainField_histogramRaw hist unit (by simp) "components"
  rw [List.append_nil] at fields plain
  have noComponents : Json.membersField (histogramRaw hist unit) "components" = .ok [] := by
    rw [Json.membersField, Json.field?_eq_member? plain (by decide)]
    rfl
  unfold unmarshal
  simp only [fields, noComponents]
  rfl

section

variable {hist other sum : THistogram} {summary second : Summary}

theorem validate_ofHistogram (represents : hist.Represents summary)
    (valid : hist.layout.slots.Valid summary) (small : summary.greatest < 2 ^ 58)
    (unit : HistogramUnit) : validate (.ofHistogram hist unit.text) = .ok () := by
  rw [validate_eq_ok]
  refine ⟨validateFields_ofHistogram represents valid small unit, ?_⟩
  intro name component isComponent
  change (∅ : Finmap fun _ : String => NestedRaw).lookup name = _
    at isComponent
  rw [Finmap.lookup_empty] at isComponent
  cases isComponent

theorem merge_zero {src : Raw} (accepted : validate src = .ok ()) : merge .zero src = .ok src := by
  unfold merge
  rw [accepted]
  rfl

theorem merge_ofHistogram (represents : hist.Represents summary)
    (otherRepresents : other.Represents second)
    (sumRepresents : sum.Represents (summary + second)) (otherLayout : other.layout = hist.layout)
    (sumLayout : sum.layout = hist.layout) (valid : hist.layout.slots.Valid summary)
    (otherValid : hist.layout.slots.Valid second) (small : (summary + second).greatest < 2 ^ 58)
    (unit : HistogramUnit) :
    merge (.ofHistogram hist unit.text) (.ofHistogram other unit.text) =
      .ok (.ofHistogram sum unit.text) := by
  have notZero : (RawFields.ofHistogram hist unit.text).isZero = false := by
    simp [RawFields.isZero, RawFields.ofHistogram, layoutLinearExp]
  have ownAccepted := validate_ofHistogram represents valid ((le_max_left _ _).trans_lt small) unit
  have otherAccepted :=
    validate_ofHistogram otherRepresents (by rw [otherLayout]; exact otherValid)
      ((le_max_right _ _).trans_lt small) unit
  have fields :=
    mergeFields_ofHistogram represents otherRepresents sumRepresents
      otherLayout sumLayout valid otherValid unit
  unfold merge
  rw [otherAccepted, ownAccepted]
  change (if (RawFields.ofHistogram hist unit.text).isZero then _ else
    mergeFields (.ofHistogram hist unit.text) (.ofHistogram other unit.text) >>= _) = _
  rw [notZero, fields]
  rfl

end

end Mind

theorem greatest_summary_lt (slots : Slotting) {bound : ℕ} {samples : List ℕ}
    (positive : 0 < bound) (small : ∀ value ∈ samples, value < bound) :
    (slots.summary samples).greatest < bound := by
  induction samples with
  | nil =>
    exact positive
  | cons value rest ih =>
    rw [Slotting.summary_cons, Summary.add_greatest]
    exact max_lt (small value List.mem_cons_self) (ih fun other isIn =>
        small other (List.mem_cons_of_mem _ isIn))

/-- The summary of all samples of some lists. -/
def familySummary (layout : HistogramLayout) (lists : List (List UInt64)) : Summary :=
  layout.slots.summary (lists.flatten.map UInt64.toNat)

theorem familySummary_append (layout : HistogramLayout) (first second : List (List UInt64)) :
    familySummary layout (first ++ second) =
      familySummary layout first + familySummary layout second := by
  unfold familySummary
  rw [List.flatten_append, List.map_append, Slotting.summary_append]

theorem familySummary_perm (layout : HistogramLayout) {first second : List (List UInt64)}
    (arranged : first.Perm second) : familySummary layout first = familySummary layout second :=
  layout.slots.summary_perm (arranged.flatten.map _)

theorem valid_familySummary (layout : HistogramLayout) (lists : List (List UInt64)) :
    layout.slots.Valid (familySummary layout lists) :=
  Slotting.valid_summary _

theorem greatest_familySummary_lt (layout : HistogramLayout) {lists : List (List UInt64)}
    (small : ∀ values ∈ lists, ∀ value ∈ values, value.toNat < 2 ^ 58) :
    (familySummary layout lists).greatest < 2 ^ 58 := by
  apply greatest_summary_lt _ (Nat.two_pow_pos 58)
  intro value isSample
  obtain ⟨word, isWord, rfl⟩ := List.mem_map.mp isSample
  obtain ⟨values, isList, isIn⟩ := List.mem_flatten.mp isWord
  exact small values isList word isIn

/-- Both ways to carry out a plan keep the samples of all its lists. -/
theorem MergePlan.represents (layout : HistogramLayout) (unit : HistogramUnit) (plan : MergePlan)
    (small : ∀ values ∈ plan.lists, ∀ value ∈ values, value.toNat < 2 ^ 58)
    (fits : (familySummary layout plan.lists).Fits) :
    ∃ hist, plan.addAll layout = .ok hist ∧ hist.layout = layout ∧
      hist.Represents (familySummary layout plan.lists) ∧
      plan.mergeAll layout unit = .ok (.ofHistogram hist unit.text) := by
  induction plan with
  | recorded values =>
    have isList : familySummary layout (recorded values).lists =
        layout.slots.summary (values.map UInt64.toNat) := by
      simp [familySummary, lists]
    rw [isList] at fits ⊢
    rw [← zero_add (layout.slots.summary (values.map UInt64.toNat))]
      at fits ⊢
    obtain ⟨hist, recorded, sameLayout, represents⟩ :=
      THistogram.recordValues_represents
        (THistogram.represents_empty layout) Slotting.valid_zero fits
        (small values List.mem_cons_self)
    refine ⟨hist, recorded, sameLayout, represents, ?_⟩
    rw [mergeAll, recorded, ok_bind]
    exact Mind.unmarshal_histogramRaw hist unit.text
  | merge dst src dstHypothesis srcHypothesis =>
    have greatest := greatest_familySummary_lt layout small
    rw [lists, familySummary_append] at fits greatest ⊢
    obtain ⟨own, ownAdded, ownLayout, ownRepresents, ownMerged⟩ :=
      dstHypothesis (fun values isIn => small values (List.mem_append_left _ isIn)) fits.left
    obtain ⟨other, otherAdded, otherLayout, otherRepresents, otherMerged⟩ :=
      srcHypothesis (fun values isIn => small values (List.mem_append_right _ isIn)) fits.right
    have sameLayout : other.layout = own.layout := otherLayout.trans ownLayout.symm
    have ownValid := valid_familySummary layout dst.lists
    have otherValid := valid_familySummary layout src.lists
    subst ownLayout
    obtain ⟨hist, added, histLayout, represents⟩ :=
      THistogram.add_represents ownRepresents otherRepresents sameLayout ownValid otherValid fits
    refine ⟨hist, ?_, histLayout, represents, ?_⟩
    · rw [addAll, ownAdded, otherAdded]
      exact added
    · rw [mergeAll, ownMerged, otherMerged, ok_bind, ok_bind]
      exact Mind.merge_ofHistogram ownRepresents otherRepresents represents
        sameLayout histLayout ownValid otherValid greatest unit
  | fresh src srcHypothesis =>
    obtain ⟨other, otherAdded, otherLayout, otherRepresents, otherMerged⟩ :=
      srcHypothesis small fits
    have otherValid := valid_familySummary layout src.lists
    have greatest : (familySummary layout src.lists).greatest < 2 ^ 58 :=
      greatest_familySummary_lt layout small
    have fromZero : (0 + familySummary layout src.lists).Fits := by
      rw [zero_add]
      exact fits
    obtain ⟨hist, added, histLayout, represents⟩ :=
      THistogram.add_represents (THistogram.represents_empty layout)
        otherRepresents otherLayout Slotting.valid_zero otherValid fromZero
    rw [zero_add] at represents
    have isOther : hist = other :=
      represents.unique otherRepresents (histLayout.trans otherLayout.symm)
    subst isOther
    refine ⟨hist, ?_, otherLayout, represents, ?_⟩
    · rw [addAll, otherAdded]
      exact added
    · rw [mergeAll, otherMerged, ok_bind]
      exact Mind.merge_zero (Mind.validate_ofHistogram represents
        (by rw [otherLayout]; exact otherValid) greatest unit)

/--
Histograms of a family of lists, put together in any order and grouping, are
the histogram of the concatenation: with `Add`, and with `Merge` on payloads.
-/
theorem histogram_of_family (layout : HistogramLayout) (unit : HistogramUnit)
    (family : List (List UInt64)) (plan : MergePlan)
    (small : ∀ values ∈ family, ∀ value ∈ values, value.toNat < 2 ^ 58)
    (countFits : family.flatten.length < 2 ^ 64)
    (sumFits : (family.flatten.map UInt64.toNat).sum < 2 ^ 64) (arranged : plan.lists.Perm family) :
    ∃ whole payload, (THistogram.empty layout).recordValues family.flatten = .ok whole ∧
      Mind.unmarshal id (.obj (histogramRaw whole unit.text)) = .ok payload ∧
      plan.addAll layout = .ok whole ∧ plan.mergeAll layout unit = .ok payload := by
  have sameSummary : familySummary layout plan.lists = familySummary layout family :=
    familySummary_perm layout arranged
  have fits : (familySummary layout family).Fits := by
    constructor
    · rw [familySummary, Slotting.total_summary, List.length_map]
      exact countFits
    · rw [familySummary, Slotting.sum_summary]
      exact sumFits
  have planSmall : ∀ values ∈ plan.lists, ∀ value ∈ values, value.toNat < 2 ^ 58 :=
    fun values isIn => small values (arranged.mem_iff.mp isIn)
  obtain ⟨hist, added, histLayout, represents, merged⟩ :=
    plan.represents layout unit planSmall (by rw [sameSummary]; exact fits)
  have wholeFits : (0 + layout.slots.summary (family.flatten.map UInt64.toNat)).Fits := by
    rw [zero_add]
    exact fits
  obtain ⟨whole, recorded, wholeLayout, wholeRepresents⟩ :=
    THistogram.recordValues_represents (THistogram.represents_empty layout)
      Slotting.valid_zero wholeFits
      fun value isIn => by
        obtain ⟨values, isList, isMember⟩ := List.mem_flatten.mp isIn
        exact small values isList value isMember
  rw [zero_add] at wholeRepresents
  rw [sameSummary] at represents
  obtain rfl : hist = whole := represents.unique wholeRepresents (histLayout.trans wholeLayout.symm)
  exact ⟨hist, _, recorded, Mind.unmarshal_histogramRaw hist unit.text, added, merged⟩

/-- Three lists, one of them empty and one with a sample out of range. -/
theorem histogram_of_three_lists :
    ∃ whole payload, (THistogram.empty ⟨4, 16, by decide, by decide⟩).recordValues [1, 5, 20, 7] =
      .ok whole ∧ Mind.unmarshal id (.obj (histogramRaw whole "ms")) = .ok payload ∧
      (MergePlan.merge (.recorded [20, 7])
      (.fresh (.merge (.recorded []) (.recorded [1, 5])))).addAll ⟨4, 16, by decide, by decide⟩ =
      .ok whole ∧ (MergePlan.merge (.recorded [20, 7])
      (.fresh (.merge (.recorded []) (.recorded [1, 5])))).mergeAll
      ⟨4, 16, by decide, by decide⟩ .ms = .ok payload :=
  histogram_of_family ⟨4, 16, by decide, by decide⟩ .ms [[1, 5], [], [20, 7]]
    (.merge (.recorded [20, 7]) (.fresh (.merge (.recorded []) (.recorded [1, 5]))))
    (by simp) (by simp) (by simp) (by decide)

end PortableTpcc
