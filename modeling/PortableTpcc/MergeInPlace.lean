import PortableTpcc.HistogramMergeLaws

namespace PortableTpcc

namespace Mind

/-!
# What a failed merge leaves behind

`Merge` (`merge.go`) writes into its destination while it still checks.  Here it returns what the
destination is afterwards, also when it fails.  A component is merged in a copy that shares its
buckets with the destination, so the buckets written before a failure stay there.
-/

/-- One turn of the loop of `Merge` over the buckets, before the later ones. -/
def mergeBucketInto (index : Nat) (own : List UInt64) (later : List UInt64 × Except String Unit) :
    Except String UInt64 → List UInt64 × Except String Unit
  | .error _ => (own, .error s!"histogram bucket {index} count overflow")
  | .ok next => (next :: later.1, later.2)

/-- The loop of `Merge` over the buckets, from some index on. -/
def mergeBucketsInto : Nat → List UInt64 → List UInt64 → List UInt64 × Except String Unit
  | index, own :: rest, other :: others =>
    mergeBucketInto index (own :: rest) (mergeBucketsInto (index + 1) rest others)
      (addUint64 own other)
  | _, own, _ => (own, .ok ())

/-- The part of `Merge` that compares and adds up the fields. -/
def mergeFieldsInto (dst src : RawFields) : RawFields × Except String Unit :=
  match checkHeaders dst src with
  | .error error => (dst, .error error)
  | .ok () =>
    match mergeBucketsInto 0 dst.buckets src.buckets with
    | (buckets, .error error) => ({ dst with buckets }, .error error)
    | (buckets, .ok ()) =>
      match addCounts dst src with
      | .error error => ({ dst with buckets }, .error error)
      | .ok (total, overflow, sum) => (mergedFields dst src buckets total overflow sum, .ok ())

/-- `Merge` on components, with what it leaves in the destination. -/
def mergeNestedInto (dst src : NestedRaw) : NestedRaw × Except String Unit :=
  match validateFields src.toRawFields with
  | .error error => (dst, .error error)
  | .ok () =>
    if dst.isZero then (src, .ok ()) else
      match validateFields dst.toRawFields with
      | .error error => (dst, .error s!"destination histogram: {error}")
      | .ok () =>
        let merged := mergeFieldsInto dst.toRawFields src.toRawFields
        ({ dst with toRawFields := merged.1 }, merged.2)

/-- The loop of `mergeComponents`.  After a failure the entry has the buckets of the copy. -/
def mergeEachInto (src : Finmap fun _ : String => NestedRaw) :
    List String → (Finmap fun _ : String => NestedRaw) →
      (Finmap fun _ : String => NestedRaw) × Except String Unit
  | [], dst => (dst, .ok ())
  | name :: rest, dst =>
    match mergeNestedInto ((dst.lookup name).getD .zero) ((src.lookup name).getD .zero) with
    | (cur, .ok ()) => mergeEachInto src rest (dst.insert name cur)
    | (cur, .error error) =>
      (if name ∈ dst then dst.insert name cur else dst, .error s!"merge component {name}: {error}")

/-- `mergeComponents`. -/
def mergeComponentsInto (dst src : Finmap fun _ : String => NestedRaw) :
    (Finmap fun _ : String => NestedRaw) × Except String Unit :=
  if src.keys = ∅ then
    (dst, .ok ())
  else if dst.keys = ∅ then
    (src, .ok ())
  else
    mergeEachInto src (sortedNames src) dst

/-- `Merge`: what `*dst` is afterwards, and the error. -/
def mergeInto (dst src : Raw) : Raw × Except String Unit :=
  match validate src with
  | .error error => (dst, .error error)
  | .ok () =>
    if dst.isZero then (src, .ok ()) else
      match validate dst with
      | .error error => (dst, .error s!"destination histogram: {error}")
      | .ok () =>
        match mergeFieldsInto dst.toRawFields src.toRawFields with
        | (fields, .error error) => ({ dst with toRawFields := fields }, .error error)
        | (fields, .ok ()) =>
          let merged := mergeComponentsInto dst.components src.components
          (⟨fields, merged.1⟩, merged.2)

/-! ## The destination after a success -/

/-- What is left of a merge if only its successes are looked at. -/
def outcome {α : Type} (merged : α × Except String Unit) : Except String α :=
  merged.2.map fun _ => merged.1

theorem mergeBuckets_eq_outcome (index : Nat) (own other : List UInt64) :
    mergeBuckets index own other = outcome (mergeBucketsInto index own other) := by
  induction own generalizing index other with
  | nil => rfl
  | cons count rest ih =>
    cases other with
    | nil => rfl
    | cons added others =>
      rw [mergeBuckets, mergeBucketsInto, ih]
      cases addUint64 count added with
      | error error => rfl
      | ok next => cases isLater : (mergeBucketsInto (index + 1) rest others).2 <;>
          simp [outcome, mergeBucketInto, isLater, bind, Except.bind, Except.mapError, Except.map,
            pure, Except.pure]

theorem mergeFields_eq_outcome (dst src : RawFields) :
    mergeFields dst src = outcome (mergeFieldsInto dst src) := by
  rw [mergeFields, mergeBuckets_eq_outcome, mergeFieldsInto]
  cases checkHeaders dst src with
  | error error => rfl
  | ok _ =>
    rcases mergeBucketsInto 0 dst.buckets src.buckets with ⟨buckets, error | _⟩
    · rfl
    · cases addCounts dst src with
      | error error => rfl
      | ok sums => rfl

theorem mergeNested_eq_outcome (dst src : NestedRaw) :
    mergeNested dst src = outcome (mergeNestedInto dst src) := by
  unfold mergeNested mergeNestedInto
  rw [mergeFields_eq_outcome]
  cases validateFields src.toRawFields with
  | error error => rfl
  | ok _ =>
    by_cases isZero : dst.isZero = true
    · simp only [isZero, if_true]
      rfl
    · simp only [isZero, if_false, Bool.false_eq_true]
      cases validateFields dst.toRawFields with
      | error error => rfl
      | ok _ =>
        rcases mergeFieldsInto dst.toRawFields src.toRawFields with ⟨fields, error | _⟩
        · rfl
        · rfl

theorem mergeComponents_eq_outcome (dst src : Finmap fun _ : String => NestedRaw) :
    mergeComponents dst src = outcome (mergeComponentsInto dst src) := by
  have loop (names : List String) (dst : Finmap fun _ : String => NestedRaw) :
      updateEach (fun name cur =>
          (mergeNested (cur.getD .zero) ((src.lookup name).getD .zero)).mapError
            fun error => s!"merge component {name}: {error}") names dst =
        outcome (mergeEachInto src names dst) := by
    induction names generalizing dst with
    | nil => rfl
    | cons name rest ih =>
      rw [updateEach, List.foldlM_cons, mergeEachInto, mergeNested_eq_outcome]
      rcases mergeNestedInto ((dst.lookup name).getD .zero) ((src.lookup name).getD .zero) with
        ⟨cur, error | _⟩
      · rfl
      · exact ih (dst.insert name cur)
  unfold mergeComponents mergeComponentsInto
  rw [loop]
  split
  · rfl
  · split
    · rfl
    · rfl

/-- The successes are those of `merge`, with the same destination. -/
theorem merge_eq_outcome (dst src : Raw) : merge dst src = outcome (mergeInto dst src) := by
  unfold merge mergeInto
  rw [mergeFields_eq_outcome, mergeComponents_eq_outcome]
  cases validate src with
  | error error => rfl
  | ok _ =>
    by_cases isZero : dst.isZero = true
    · simp only [isZero, if_true]
      rfl
    · simp only [isZero, if_false, Bool.false_eq_true]
      cases validate dst with
      | error error => rfl
      | ok _ =>
        rcases mergeFieldsInto dst.toRawFields src.toRawFields with ⟨fields, error | _⟩
        · rfl
        · rcases mergeComponentsInto dst.components src.components with ⟨components, error | _⟩
          · rfl
          · rfl

/-! ## When nothing is left behind -/

/-- The sum fits into a word. -/
def Fits (a b : UInt64) : Prop :=
  a.toNat + b.toNat < 2 ^ 64

/-- All sums of buckets fit. -/
def BucketsFit : List UInt64 → List UInt64 → Prop
  | own :: rest, other :: others => Fits own other ∧ BucketsFit rest others
  | _, _ => True

/-- Nothing is added to a bucket before the first whose sum does not fit. -/
def BucketsKept : List UInt64 → List UInt64 → Prop
  | own :: rest, other :: others => ¬ Fits own other ∨ other = 0 ∧ BucketsKept rest others
  | _, _ => True

/-- The sides agree in what is not counted. -/
def HeadersMatch (dst src : RawFields) : Prop :=
  dst.hdrTill = src.hdrTill ∧ dst.maxValue = src.maxValue ∧ dst.layout = src.layout ∧
    dst.unit = src.unit ∧ subBuckets dst = subBuckets src ∧
    dst.buckets.length = src.buckets.length

/-- All sums fit. -/
def CountsFit (dst src : RawFields) : Prop :=
  BucketsFit dst.buckets src.buckets ∧ Fits dst.totalCount src.totalCount ∧
    Fits dst.overflowCount src.overflowCount ∧ Fits dst.sumValues src.sumValues

/-- Nothing was written when the components up to the first that cannot be merged were. -/
def ComponentsKept (dst src : Finmap fun _ : String => NestedRaw) : List String → Prop
  | [] => True
  | name :: rest =>
    ∃ own, dst.lookup name = some own ∧
      let other := ((src.lookup name).getD .zero).toRawFields
      HeadersMatch own.toRawFields other →
        (CountsFit own.toRawFields other → other.totalCount = 0 ∧ ComponentsKept dst src rest) ∧
        (¬ CountsFit own.toRawFields other → BucketsKept own.buckets other.buckets)

theorem addUint64_of_fits {a b : UInt64} (fits : Fits a b) :
    addUint64 a b = .ok (a + b) ∧ (a + b = a ↔ b = 0) := by
  unfold Fits at fits
  have sum : (a + b).toNat = a.toNat + b.toNat := toNat_add_of_lt fits
  refine ⟨addUint64_eq_ok.mpr sum.symm, ?_⟩
  rw [← UInt64.toNat_inj, sum, ← UInt64.toNat_inj, UInt64.toNat_zero]
  omega

theorem addUint64_of_not_fits {a b : UInt64} (overflows : ¬ Fits a b) :
    ∃ error, addUint64 a b = .error error := by
  unfold Fits at overflows
  cases isResult : addUint64 a b with
  | error error => exact ⟨error, rfl⟩
  | ok result =>
    have sum := addUint64_eq_ok.mp isResult
    have bound := result.toNat_lt
    omega

/-- The loop succeeds if all sums fit, and the destination is the same if it was kept. -/
theorem mergeBucketsInto_spec (index : Nat) (own other : List UInt64) :
    ((mergeBucketsInto index own other).1 = own ↔ BucketsKept own other) ∧
      ((mergeBucketsInto index own other).2 = .ok () ↔ BucketsFit own other) := by
  induction own generalizing other index with
  | nil => simp [mergeBucketsInto, BucketsKept, BucketsFit]
  | cons count rest ih =>
    cases other with
    | nil => simp [mergeBucketsInto, BucketsKept, BucketsFit]
    | cons added others =>
      rw [mergeBucketsInto, BucketsKept, BucketsFit]
      by_cases fits : Fits count added
      · obtain ⟨isOk, same⟩ := addUint64_of_fits fits
        rw [isOk, mergeBucketInto]
        simp only [List.cons.injEq, same, ih, fits, not_true, false_or, true_and, and_self]
      · obtain ⟨error, isError⟩ := addUint64_of_not_fits fits
        rw [isError, mergeBucketInto]
        simp only [fits, not_false_eq_true, true_or, false_and, reduceCtorEq, and_self]

theorem addUint64_eq_ok_iff {a b result : UInt64} :
    addUint64 a b = .ok result ↔ Fits a b ∧ result = a + b := by
  by_cases fits : Fits a b
  · rw [(addUint64_of_fits fits).1, Except.ok.injEq]
    exact ⟨fun same => ⟨fits, same.symm⟩, fun ⟨_, same⟩ => same.symm⟩
  · obtain ⟨error, isError⟩ := addUint64_of_not_fits fits
    simp only [isError, fits, false_and, reduceCtorEq]

theorem addCounts_eq_ok_iff {dst src : RawFields} {total overflow sum : UInt64} :
    addCounts dst src = .ok (total, overflow, sum) ↔
      (Fits dst.totalCount src.totalCount ∧ Fits dst.overflowCount src.overflowCount ∧
        Fits dst.sumValues src.sumValues) ∧ total = dst.totalCount + src.totalCount ∧
        overflow = dst.overflowCount + src.overflowCount ∧ sum = dst.sumValues + src.sumValues := by
  unfold addCounts
  simp only [bind_eq_ok, mapError_eq_ok, addUint64_eq_ok_iff]
  constructor
  · rintro ⟨_, ⟨fits, rfl⟩, _, ⟨fits', rfl⟩, _, ⟨fits'', rfl⟩, same⟩
    obtain ⟨rfl, rfl, rfl⟩ := by simpa using Except.ok.inj same
    exact ⟨⟨fits, fits', fits''⟩, rfl, rfl, rfl⟩
  · rintro ⟨⟨fits, fits', fits''⟩, rfl, rfl, rfl⟩
    exact ⟨_, ⟨fits, rfl⟩, _, ⟨fits', rfl⟩, _, ⟨fits'', rfl⟩, rfl⟩

section

variable {dst src : RawFields}

theorem checkHeaders_eq_ok_iff : checkHeaders dst src = .ok () ↔ HeadersMatch dst src := by
  simp only [checkHeaders, HeadersMatch, bind_eq_ok, rejectIf_eq_ok, exists_const, not_or, not_not,
    and_assoc]

theorem mergeFieldsInto_of_mismatch (differ : ¬ HeadersMatch dst src) :
    ∃ error, mergeFieldsInto dst src = (dst, .error error) := by
  unfold mergeFieldsInto
  cases isResult : checkHeaders dst src with
  | error error => exact ⟨error, rfl⟩
  | ok _ => exact absurd (checkHeaders_eq_ok_iff.mp isResult) differ

theorem mergeFieldsInto_of_overflow (agree : HeadersMatch dst src)
    (overflows : ¬ CountsFit dst src) :
    ∃ error, mergeFieldsInto dst src =
      ({ dst with buckets := (mergeBucketsInto 0 dst.buckets src.buckets).1 }, .error error) := by
  unfold mergeFieldsInto
  rw [checkHeaders_eq_ok_iff.mpr agree]
  have fit := (mergeBucketsInto_spec 0 dst.buckets src.buckets).2
  rcases isMerge : mergeBucketsInto 0 dst.buckets src.buckets with ⟨buckets, error | _⟩
  · exact ⟨error, rfl⟩
  · rw [isMerge] at fit
    cases isSum : addCounts dst src with
    | error error => exact ⟨error, rfl⟩
    | ok sums => exact absurd ⟨fit.mp rfl, (addCounts_eq_ok_iff.mp isSum).1⟩ overflows

theorem mergeFieldsInto_of_fit (agree : HeadersMatch dst src) (fits : CountsFit dst src) :
    mergeFieldsInto dst src = (mergedFields dst src (mergeBucketsInto 0 dst.buckets src.buckets).1
        (dst.totalCount + src.totalCount) (dst.overflowCount + src.overflowCount)
        (dst.sumValues + src.sumValues), .ok ()) := by
  unfold mergeFieldsInto
  rw [checkHeaders_eq_ok_iff.mpr agree, addCounts_eq_ok_iff.mpr ⟨fits.2, rfl, rfl, rfl⟩]
  have merged := (mergeBucketsInto_spec 0 dst.buckets src.buckets).2.mpr fits.1
  rcases isMerge : mergeBucketsInto 0 dst.buckets src.buckets with ⟨buckets, result⟩
  obtain rfl : result = .ok () := by rw [← merged, isMerge]
  rfl

theorem bucketsKept_of_zero {own other : List UInt64} (zero : ∀ index, other.getD index 0 = 0) :
    BucketsKept own other := by
  induction own generalizing other with
  | nil => trivial
  | cons count rest ih =>
    cases other with
    | nil => trivial
    | cons added others => exact .inr ⟨zero 0, ih fun index => zero (index + 1)⟩

/-- A valid source adds nothing exactly if nothing was recorded in it. -/
theorem mergedFields_eq_iff (valid : validateFields src = .ok ()) (fits : CountsFit dst src) :
    mergedFields dst src (mergeBucketsInto 0 dst.buckets src.buckets).1
        (dst.totalCount + src.totalCount) (dst.overflowCount + src.overflowCount)
        (dst.sumValues + src.sumValues) = dst ↔ src.totalCount = 0 := by
  constructor
  · intro same
    exact (addUint64_of_fits fits.2.1).2.mp (congrArg RawFields.totalCount same)
  · intro isEmpty
    unfold validateFields at valid
    rw [if_pos isEmpty] at valid
    obtain ⟨_, header, rest⟩ := bind_eq_ok.mp valid
    obtain ⟨_, counts, empty⟩ := bind_eq_ok.mp rest
    obtain ⟨layout, conforms⟩ := validateHeader_eq_ok.mp header
    obtain ⟨isZero, -⟩ := (validateEmpty_eq_ok conforms isEmpty
      ((validateCounts_eq_ok conforms).mp counts)).mp empty
    have buckets : (mergeBucketsInto 0 dst.buckets src.buckets).1 = dst.buckets :=
      (mergeBucketsInto_spec 0 _ _).1.mpr <| bucketsKept_of_zero fun index =>
        UInt64.toNat_inj.mp (congrFun (congrArg Summary.buckets isZero) index)
    have overflow : dst.overflowCount + src.overflowCount = dst.overflowCount :=
      (addUint64_of_fits fits.2.2.1).2.mpr
        (UInt64.toNat_inj.mp (congrArg Summary.overflow isZero))
    have sum : dst.sumValues + src.sumValues = dst.sumValues :=
      (addUint64_of_fits fits.2.2.2).2.mpr (UInt64.toNat_inj.mp (congrArg Summary.sum isZero))
    have total : dst.totalCount + src.totalCount = dst.totalCount :=
      (addUint64_of_fits fits.2.1).2.mpr isEmpty
    rw [buckets, overflow, sum, total]
    simp [mergedFields, mergedMin, mergedMax, isEmpty]

end

section

variable {own other : NestedRaw} {dst src : Finmap fun _ : String => NestedRaw}

theorem NestedRaw.Accepted.isZero_eq_false {h : RawFields} (valid : validateFields h = .ok ()) :
    h.isZero = false := by
  obtain ⟨_, header, -⟩ := bind_eq_ok.mp valid
  obtain ⟨layout, conforms⟩ := validateHeader_eq_ok.mp header
  simp [RawFields.isZero, conforms.layout_eq, layoutLinearExp]

theorem mergeNestedInto_of_accepted (ownAccepted : own.Accepted) (otherAccepted : other.Accepted) :
    mergeNestedInto own other =
      ({ own with toRawFields := (mergeFieldsInto own.toRawFields other.toRawFields).1 },
        (mergeFieldsInto own.toRawFields other.toRawFields).2) := by
  unfold mergeNestedInto
  rw [otherAccepted.2, ownAccepted.2, NestedRaw.Accepted.isZero_eq_false ownAccepted.2]
  rfl

theorem mergeNestedInto_zero (accepted : other.Accepted) :
    mergeNestedInto .zero other = (other, .ok ()) := by
  unfold mergeNestedInto
  rw [accepted.2]
  rfl

/-- Names that are not in the loop keep their entry. -/
theorem lookup_mergeEachInto {names : List String} {name : String} (notIn : name ∉ names) :
    (mergeEachInto src names dst).1.lookup name = dst.lookup name := by
  induction names generalizing dst with
  | nil => rfl
  | cons first rest ih =>
    obtain ⟨differs, notLater⟩ := not_or.mp (List.mem_cons.not.mp notIn)
    rw [mergeEachInto]
    split
    · rw [ih notLater, Finmap.lookup_insert_of_ne _ differs]
    · dsimp only
      split
      · exact Finmap.lookup_insert_of_ne _ differs
      · rfl

/-- The entries of one name can be merged. -/
def Merges (src : Finmap fun _ : String => NestedRaw) (name : String) (own : NestedRaw) : Prop :=
  HeadersMatch own.toRawFields ((src.lookup name).getD .zero).toRawFields ∧
    CountsFit own.toRawFields ((src.lookup name).getD .zero).toRawFields

/-- Some entry of both sides cannot be merged. -/
def SomeFails (dst src : Finmap fun _ : String => NestedRaw) (names : List String) : Prop :=
  ∃ name ∈ names, ∃ own, dst.lookup name = some own ∧ ¬ Merges src name own

theorem lookup_insert_of_mem {names : List String} {name next : String} (notIn : name ∉ names)
    (isIn : next ∈ names) (cur : NestedRaw) : (dst.insert name cur).lookup next = dst.lookup next :=
  Finmap.lookup_insert_of_ne _ (ne_of_mem_of_not_mem isIn notIn)

theorem someFails_insert {names : List String} {name : String} (notIn : name ∉ names)
    (cur : NestedRaw) : SomeFails (dst.insert name cur) src names ↔ SomeFails dst src names := by
  refine exists_congr fun other => and_congr_right fun isIn => ?_
  rw [lookup_insert_of_mem notIn isIn]

theorem insert_eq_self_iff {name : String} (isOwn : dst.lookup name = some own)
    (cur : NestedRaw) : dst.insert name cur = dst ↔ cur = own := by
  constructor
  · intro same
    have here : (dst.insert name cur).lookup name = some cur := Finmap.lookup_insert _
    rw [same, isOwn] at here
    exact (Option.some.inj here).symm
  · rintro rfl
    refine Finmap.ext_lookup fun other => ?_
    by_cases isName : other = name
    · rw [isName, Finmap.lookup_insert, isOwn]
    · exact Finmap.lookup_insert_of_ne _ isName

theorem RawFields.withBuckets_eq_self_iff {h : RawFields} {buckets : List UInt64} :
    { h with buckets } = h ↔ buckets = h.buckets :=
  ⟨fun same => congrArg RawFields.buckets same, by rintro rfl; rfl⟩

theorem NestedRaw.withFields_eq_self_iff {fields : RawFields} :
    { own with toRawFields := fields } = own ↔ fields = own.toRawFields :=
  ⟨fun same => congrArg NestedRaw.toRawFields same, by rintro rfl; rfl⟩

theorem Raw.mk_eq_iff {h : Raw} {fields : RawFields}
    {components : Finmap fun _ : String => NestedRaw} :
    (⟨fields, components⟩ : Raw) = h ↔ fields = h.toRawFields ∧ components = h.components := by
  cases h
  simp

theorem someFails_cons {names : List String} {name : String} (isOwn : dst.lookup name = some own)
    (isOther : src.lookup name = some other) :
    SomeFails dst src (name :: names) ↔ ¬ (HeadersMatch own.toRawFields other.toRawFields ∧
        CountsFit own.toRawFields other.toRawFields) ∨ SomeFails dst src names := by
  simp [SomeFails, Merges, isOwn, isOther]

theorem componentsKept_cons {names : List String} {name : String}
    (isOwn : dst.lookup name = some own) (isOther : src.lookup name = some other) :
    ComponentsKept dst src (name :: names) ↔ (HeadersMatch own.toRawFields other.toRawFields →
        (CountsFit own.toRawFields other.toRawFields →
          other.totalCount = 0 ∧ ComponentsKept dst src names) ∧
        (¬ CountsFit own.toRawFields other.toRawFields →
          BucketsKept own.buckets other.buckets)) := by
  simp [ComponentsKept, isOwn, isOther]

/-- The loop fails exactly if some entry cannot be merged, and leaves the destination as it was if
nothing was written up to there. -/
theorem mergeEachInto_spec {names : List String} (distinct : names.Nodup)
    (named : ∀ name ∈ names, ∃ other, src.lookup name = some other ∧ other.Accepted)
    (accepted : ∀ name ∈ names, ∀ own, dst.lookup name = some own → own.Accepted) :
    ((∃ error, (mergeEachInto src names dst).2 = .error error) ↔ SomeFails dst src names) ∧
      (SomeFails dst src names →
        ((mergeEachInto src names dst).1 = dst ↔ ComponentsKept dst src names)) := by
  induction names generalizing dst with
  | nil => simp [mergeEachInto, SomeFails]
  | cons name rest ih =>
    obtain ⟨notIn, restDistinct⟩ := List.nodup_cons.mp distinct
    obtain ⟨⟨other, isOther, otherAccepted⟩, laterNamed⟩ := List.forall_mem_cons.mp named
    obtain ⟨ownAccepted, laterAccepted⟩ := List.forall_mem_cons.mp accepted
    -- What the later turns do after this one has put `cur` there.
    have later (cur : NestedRaw) := @ih (dst.insert name cur) restDistinct laterNamed <| by
      intro next isIn own
      rw [lookup_insert_of_mem notIn isIn]
      exact laterAccepted next isIn own
    have changed {cur : NestedRaw} (differs : dst.lookup name ≠ some cur) :
        (mergeEachInto src rest (dst.insert name cur)).1 ≠ dst := by
      intro same
      have here : (mergeEachInto src rest (dst.insert name cur)).1.lookup name = some cur :=
        (lookup_mergeEachInto notIn).trans (Finmap.lookup_insert _)
      exact differs (same ▸ here)
    simp only [someFails_insert notIn] at later
    rw [mergeEachInto]
    cases isOwn : dst.lookup name with
    | none =>
      rw [Option.getD_none, isOther, Option.getD_some, mergeNestedInto_zero otherAccepted]
      have kept : ¬ ComponentsKept dst src (name :: rest) := by simp [ComponentsKept, isOwn]
      refine ⟨?_, fun _ => iff_of_false (changed (by simp [isOwn])) kept⟩
      simpa [SomeFails, isOwn] using (later other).1
    | some own =>
      have isIn : name ∈ dst := Finmap.mem_of_lookup_eq_some isOwn
      rw [someFails_cons isOwn isOther, componentsKept_cons isOwn isOther, isOther,
        Option.getD_some, Option.getD_some,
        mergeNestedInto_of_accepted (ownAccepted own isOwn) otherAccepted]
      by_cases agree : HeadersMatch own.toRawFields other.toRawFields
      · by_cases fits : CountsFit own.toRawFields other.toRawFields
        · have kept := mergedFields_eq_iff otherAccepted.2 fits
          rw [mergeFieldsInto_of_fit agree fits]
          refine ⟨by simpa [agree, fits] using (later _).1, fun fails => ?_⟩
          replace fails : SomeFails dst src rest := by simpa [agree, fits] using fails
          by_cases isEmpty : other.totalCount = 0
          · rw [kept.mpr isEmpty]
            have same : dst.insert name own = dst := (insert_eq_self_iff isOwn own).mpr rfl
            simpa [agree, fits, isEmpty, same] using (later own).2 fails
          · refine iff_of_false (changed ?_) (by simp [agree, fits, isEmpty])
            rw [isOwn]
            intro same
            exact isEmpty (kept.mp (congrArg NestedRaw.toRawFields (Option.some.inj same)).symm)
        · obtain ⟨error, isError⟩ := mergeFieldsInto_of_overflow agree fits
          rw [isError]
          refine ⟨iff_of_true ⟨_, rfl⟩ (.inl fun both => fits both.2), fun _ => ?_⟩
          dsimp only
          rw [if_pos isIn, insert_eq_self_iff isOwn, NestedRaw.withFields_eq_self_iff,
            RawFields.withBuckets_eq_self_iff, (mergeBucketsInto_spec 0 _ _).1]
          simp [agree, fits]
      · obtain ⟨error, isError⟩ := mergeFieldsInto_of_mismatch agree
        rw [isError]
        refine ⟨iff_of_true ⟨_, rfl⟩ (.inl fun both => agree both.1), fun _ => ?_⟩
        dsimp only
        rw [if_pos isIn, insert_eq_self_iff isOwn]
        simp [agree]

theorem mergeComponentsInto_spec (dstAccepted : ComponentsAccepted dst)
    (srcAccepted : ComponentsAccepted src) :
    ((∃ error, (mergeComponentsInto dst src).2 = .error error) ↔
        SomeFails dst src (sortedNames src)) ∧ (SomeFails dst src (sortedNames src) →
        ((mergeComponentsInto dst src).1 = dst ↔ ComponentsKept dst src (sortedNames src))) := by
  unfold mergeComponentsInto
  split
  · rename_i noSource
    have none : ¬ SomeFails dst src (sortedNames src) := by
      rintro ⟨name, named, -⟩
      rw [sortedNames, noSource] at named
      simp [sortStrings] at named
    exact ⟨by simp [none], fun fails => absurd fails none⟩
  · split
    · rename_i noDestination
      have none : ¬ SomeFails dst src (sortedNames src) := by
        rintro ⟨name, -, own, isOwn, -⟩
        have isKey := Finmap.mem_keys.mpr (Finmap.mem_of_lookup_eq_some isOwn)
        rw [noDestination] at isKey
        simp at isKey
      exact ⟨by simp [none], fun fails => absurd fails none⟩
    · apply mergeEachInto_spec (nodup_sortedNames src)
      · intro name named
        obtain ⟨other, isOther⟩ := mem_sortedNames.mp named
        exact ⟨other, isOther, srcAccepted name other isOther⟩
      · intro name _ own isOwn
        exact dstAccepted name own isOwn

end

/-- Nothing was written to the destination when a check fails: sources that are added to valid
destinations of their layout have no count before the bucket that overflows; if it is a component
that fails, the source is empty, and so are its components up to there. -/
def MergeKept (dst src : Raw) : Prop :=
  validate src = .ok () → validate dst = .ok () → HeadersMatch dst.toRawFields src.toRawFields →
    (¬ CountsFit dst.toRawFields src.toRawFields → BucketsKept dst.buckets src.buckets) ∧
    (CountsFit dst.toRawFields src.toRawFields →
      SomeFails dst.components src.components (sortedNames src.components) →
        src.totalCount = 0 ∧
          ComponentsKept dst.components src.components (sortedNames src.components))

/-- A failed `Merge` leaves its destination unchanged exactly if nothing was written before the
failing check. -/
theorem mergeInto_unchanged_iff (dst src : Raw) :
    (∀ error, (mergeInto dst src).2 = .error error → (mergeInto dst src).1 = dst) ↔
      MergeKept dst src := by
  unfold mergeInto MergeKept
  cases srcValid : validate src with
  | error error => simp
  | ok _ =>
    cases dstValid : validate dst with
    | error error => by_cases isZero : dst.isZero = true <;> simp [isZero]
    | ok _ =>
      obtain ⟨srcFields, srcAccepted⟩ := validate_eq_ok.mp srcValid
      obtain ⟨dstFields, dstAccepted⟩ := validate_eq_ok.mp dstValid
      simp only [NestedRaw.Accepted.isZero_eq_false dstFields, Bool.false_eq_true, if_false]
      by_cases agree : HeadersMatch dst.toRawFields src.toRawFields
      · by_cases fits : CountsFit dst.toRawFields src.toRawFields
        · have kept := mergedFields_eq_iff srcFields fits
          have ⟨fails, same⟩ := mergeComponentsInto_spec dstAccepted srcAccepted
          simp only [mergeFieldsInto_of_fit agree fits, agree, fits, ← fails, ← kept,
            Raw.mk_eq_iff, true_imp_iff, not_true, false_imp_iff, true_and]
          constructor
          · rintro unchanged ⟨error, isError⟩
            obtain ⟨fields, components⟩ := unchanged error isError
            exact ⟨fields, (same (fails.mp ⟨error, isError⟩)).mp components⟩
          · intro unchanged error isError
            obtain ⟨fields, components⟩ := unchanged ⟨error, isError⟩
            exact ⟨fields, (same (fails.mp ⟨error, isError⟩)).mpr components⟩
        · obtain ⟨error, isError⟩ := mergeFieldsInto_of_overflow agree fits
          simp [isError, agree, fits, Raw.mk_eq_iff, RawFields.withBuckets_eq_self_iff,
            (mergeBucketsInto_spec 0 dst.buckets src.buckets).1]
      · obtain ⟨error, isError⟩ := mergeFieldsInto_of_mismatch agree
        rw [isError]
        simp [agree]

/-- Two samples, one of them the greatest that can be recorded. -/
def greatSample : Raw where
  layout := layoutLinearExp
  unit := "ms"
  hdrTill := 1
  maxValue := 1
  subBucketsPerOctave := 0
  totalCount := 2
  overflowCount := 1
  minRecorded := 0
  maxRecorded := maxUint64
  sumValues := maxUint64
  buckets := [1]
  components := ∅

/-- The bucket has been added up when the sum overflows. -/
theorem sum_overflow_leaves_bucket :
    (mergeInto greatSample greatSample).2 = .error "histogram sum_values overflow" ∧
      (mergeInto greatSample greatSample).1.buckets = [2] ∧
      (mergeInto greatSample greatSample).1 ≠ greatSample := by
  have header : validateHeader greatSample.toRawFields = .ok () := by
    have none : octaves 1 1 = [] := by
      rw [octaves, dif_pos (by decide), octavesInto, if_neg (by decide)]
    simp [validateHeader, expectedBucketCount, greatSample, none, layoutLinearExp]
  have valid : validate greatSample = .ok () := by
    refine validate_eq_ok.mpr ⟨?_, fun name own isOwn => by simp [greatSample] at isOwn⟩
    rw [validateFields, header]
    decide
  have merged : mergeInto greatSample greatSample =
      ({ greatSample with buckets := [2] }, .error "histogram sum_values overflow") := by
    unfold mergeInto
    rw [valid]
    rfl
  rw [merged]
  refine ⟨rfl, rfl, fun same => ?_⟩
  have buckets : [2] = [1] := congrArg (fun h : Raw => h.buckets.map UInt64.toNat) same
  cases buckets

end Mind

end PortableTpcc
