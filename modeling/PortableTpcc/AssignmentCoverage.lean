import PortableTpcc.Assignment

namespace PortableTpcc

namespace Mind

/-!
# What `ValidateAssignment` tells

The validator looks at each range by itself and at the sum of their lengths.
Ranges that overlap, or that lie beyond the last warehouse, can have the right
sum; so its verdict is right unless they do, or unless a covering assignment
has an empty range.
-/

/-- The ranges of all assignments, in order. -/
def spansOf (assignments : List LoaderAssignment) : List Span :=
  assignments.flatMap fun assignment => assignment.warehouseRanges.map WarehouseRange.span

/-- Each warehouse is owned once, and one assignment owns the global data. -/
structure CoversExactly (assignments : List LoaderAssignment) (warehouses : Int64) : Prop where
  once : ∀ w, 1 ≤ w → w ≤ warehouses.toInt →
    owners (spansOf assignments) w = 1
  inside : ∀ span ∈ spansOf assignments, ∀ w, span.Contains w →
    1 ≤ w ∧ w ≤ warehouses.toInt
  oneOwner : assignments.countP (·.ownsGlobalData) = 1

/-- Each range is non-empty and starts with a warehouse. -/
def WellFormedRanges (spans : List Span) : Prop :=
  ∀ span ∈ spans, 1 ≤ span.start ∧ span.start < span.stop

/-- The lengths of the ranges add up to the number of warehouses. -/
def LengthsAddUp (spans : List Span) (warehouses : Int64) : Prop :=
  Int64.ofInt (totalLength spans) = warehouses

theorem wellFormedRanges_append {first second : List Span} :
    WellFormedRanges (first ++ second) ↔ WellFormedRanges first ∧ WellFormedRanges second :=
  List.forall_mem_append

theorem totalLength_append (first second : List Span) :
    totalLength (first ++ second) = totalLength first + totalLength second := by
  simp [totalLength]

variable {covered result : Int64}

theorem coverRange_eq_ok {name : String} {range : WarehouseRange} :
    coverRange name covered range = .ok result ↔
      (1 ≤ range.span.start ∧ range.span.start < range.span.stop) ∧ result = covered +
      Int64.ofInt (range.span.stop - range.span.start) := by
  simp only [coverRange, WarehouseRange.span, bind_eq_ok, rejectIf_eq_ok,
    Unique.exists_iff, pure, Except.pure, Except.ok.injEq, not_or,
    Int64.lt_iff_toInt_lt, Int64.le_iff_toInt_le, Int64.toInt_one, not_lt,
    not_le, Int64.ofInt_sub, Int64.ofInt_toInt, eq_comm (a := result)]

theorem foldlM_coverRange_eq_ok {name : String} {ranges : List WarehouseRange} :
    ranges.foldlM (coverRange name) covered = .ok result ↔
      WellFormedRanges (ranges.map WarehouseRange.span) ∧ result = covered +
      Int64.ofInt (totalLength (ranges.map WarehouseRange.span)) := by
  induction ranges generalizing covered with
  | nil =>
    simp [WellFormedRanges, pure, Except.pure, eq_comm]
  | cons range rest ih =>
    simp only [List.foldlM_cons, bind_eq_ok, coverRange_eq_ok,
      ih, List.map_cons, totalLength_cons,
      Int64.ofInt_add, WellFormedRanges, List.forall_mem_cons]
    constructor
    · rintro ⟨_, ⟨valid, rfl⟩, restValid, rfl⟩
      exact ⟨⟨valid, restValid⟩, Int64.add_assoc _ _ _⟩
    · rintro ⟨⟨valid, restValid⟩, rfl⟩
      exact ⟨_, ⟨valid, rfl⟩, restValid, (Int64.add_assoc _ _ _).symm⟩

theorem foldlM_coverRanges_eq_ok {assignments : List LoaderAssignment} :
    assignments.foldlM coverRanges covered = .ok result ↔ WellFormedRanges (spansOf assignments) ∧
      result = covered + Int64.ofInt (totalLength (spansOf assignments)) := by
  induction assignments generalizing covered with
  | nil =>
    simp [WellFormedRanges, spansOf, pure, Except.pure, eq_comm]
  | cons assignment rest ih =>
    have spans : spansOf (assignment :: rest) =
        assignment.warehouseRanges.map WarehouseRange.span ++
            spansOf rest :=
      List.flatMap_cons
    simp only [List.foldlM_cons, bind_eq_ok, coverRanges,
      foldlM_coverRange_eq_ok, ih, spans,
      totalLength_append, Int64.ofInt_add, wellFormedRanges_append]
    constructor
    · rintro ⟨_, ⟨valid, rfl⟩, restValid, rfl⟩
      exact ⟨⟨valid, restValid⟩, Int64.add_assoc _ _ _⟩
    · rintro ⟨⟨valid, restValid⟩, rfl⟩
      exact ⟨_, ⟨valid, rfl⟩, restValid, (Int64.add_assoc _ _ _).symm⟩

theorem validateAssignment_eq_ok {assignments : List LoaderAssignment} {warehouses : Int64} :
    validateAssignment assignments warehouses = .ok () ↔ (WellFormedRanges (spansOf assignments) ∧
      LengthsAddUp (spansOf assignments) warehouses) ∧
      assignments.countP (·.ownsGlobalData) = 1 := by
  simp only [validateAssignment, bind_eq_ok, foldlM_coverRanges_eq_ok,
    rejectIf_eq_ok, not_not, Unique.exists_iff, LengthsAddUp, Int64.zero_add]
  constructor
  · rintro ⟨_, ⟨valid, rfl⟩, sum, oneOwner⟩
    exact ⟨⟨valid, sum⟩, oneOwner⟩
  · rintro ⟨⟨valid, sum⟩, oneOwner⟩
    exact ⟨_, ⟨valid, rfl⟩, sum, oneOwner⟩

section

variable {assignments : List LoaderAssignment} {warehouses : Int64}

theorem CoversExactly.owners_le_one (covers : CoversExactly assignments warehouses) (w : Int) :
    owners (spansOf assignments) w ≤ 1 := by
  by_cases owned : 0 < owners (spansOf assignments) w
  · rcases owners_pos_iff.mp owned with ⟨span, member, contains⟩
    have bounds := covers.inside span member w contains
    exact (covers.once w bounds.1 bounds.2).le
  · omega

theorem CoversExactly.within (covers : CoversExactly assignments warehouses) {span : Span}
    (member : span ∈ spansOf assignments) (nonempty : span.start < span.stop) :
    span.Within 1 (warehouses.toInt + 1) := by
  have first := covers.inside span member span.start ⟨le_rfl, nonempty⟩
  have last := covers.inside span member (span.stop - 1) ⟨by omega, by omega⟩
  exact ⟨first.1, nonempty.le, by omega⟩

/-- Lengths that add up leave no gap when there is no overlap. -/
theorem owners_of_lengthsAddUp (wellFormed : WellFormedRanges (spansOf assignments))
    (addUp : LengthsAddUp (spansOf assignments) warehouses)
    (noOverlap : ∀ w, owners (spansOf assignments) w ≤ 1)
    (noneBeyond : ∀ span ∈ spansOf assignments, span.stop ≤ warehouses.toInt + 1) {w : Int}
    (above : 1 ≤ w) (below : w ≤ warehouses.toInt) : owners (spansOf assignments) w = 1 := by
  have within (span : Span) (member : span ∈ spansOf assignments) :
      span.Within 1 (warehouses.toInt + 1) :=
    ⟨(wellFormed span member).1, (wellFormed span member).2.le, noneBeyond span member⟩
  have nonneg := totalLength_nonneg within
  have small := totalLength_le (by omega) within noOverlap
  have representable := warehouses.toInt_lt
  have full : totalLength (spansOf assignments) = warehouses.toInt + 1 - 1 := by
    rw [← addUp, Int64.toInt_ofInt_of_le (by omega) (by omega)]
    omega
  exact owners_eq_one within noOverlap full above (by omega)

/-- The assignments that the validator misjudges. -/
inductive Misjudged (assignments : List LoaderAssignment) (warehouses : Int64) : Prop where
  /-- The lengths hide that ranges overlap or lie beyond the warehouses. -/
  | accepted (wellFormed : WellFormedRanges (spansOf assignments))
      (addUp : LengthsAddUp (spansOf assignments) warehouses)
      (oneOwner : assignments.countP (·.ownsGlobalData) = 1)
      (wrong : (∃ w, 1 < owners (spansOf assignments) w) ∨
        ∃ span ∈ spansOf assignments, warehouses.toInt + 1 < span.stop)
  /-- An empty range is refused, and so is a negative number of warehouses. -/
  | rejected (covers : CoversExactly assignments warehouses)
      (wrong : (∃ span ∈ spansOf assignments, span.stop ≤ span.start) ∨ warehouses.toInt < 0)

theorem CoversExactly.accepted (covers : CoversExactly assignments warehouses)
    (nonempty : ∀ span ∈ spansOf assignments, span.start < span.stop)
    (nonneg : 0 ≤ warehouses.toInt) : validateAssignment assignments warehouses = .ok () := by
  have within (span : Span) (member : span ∈ spansOf assignments) :=
    covers.within member (nonempty span member)
  have full : totalLength (spansOf assignments) = warehouses.toInt + 1 - 1 := by
    apply totalLength_of_owners (by omega) within
    intro w above below
    exact covers.once w above (by omega)
  rw [validateAssignment_eq_ok]
  refine ⟨⟨?_, ?_⟩, covers.oneOwner⟩
  · intro span member
    exact ⟨(within span member).above, nonempty span member⟩
  · rw [LengthsAddUp, full, Int.add_sub_cancel, Int64.ofInt_toInt]

/--
The validator accepts just the assignments that cover each warehouse once,
unless the assignment is one that it misjudges.
-/
theorem validateAssignment_exact_iff (assignments : List LoaderAssignment) (warehouses : Int64) :
    (validateAssignment assignments warehouses = .ok () ↔ CoversExactly assignments warehouses) ↔
      ¬ Misjudged assignments warehouses := by
  constructor
  · intro right misjudged
    cases misjudged with
    | accepted wellFormed addUp oneOwner wrong =>
      have covers := right.mp (validateAssignment_eq_ok.mpr ⟨⟨wellFormed, addUp⟩, oneOwner⟩)
      rcases wrong with ⟨w, twice⟩ | ⟨span, member, beyond⟩
      · have once := covers.owners_le_one w
        omega
      · have below := (covers.within member (wellFormed span member).2).below
        omega
    | rejected covers wrong =>
      have accepted := validateAssignment_eq_ok.mp (right.mpr covers)
      rcases accepted with ⟨⟨wellFormed, addUp⟩, _⟩
      rcases wrong with ⟨span, member, empty⟩ | negative
      · have nonempty := (wellFormed span member).2
        omega
      · -- No range fits, so the lengths add up to zero.
        have noSpans : spansOf assignments = [] := by
          apply List.eq_nil_iff_forall_not_mem.mpr
          intro span member
          have within := covers.within member (wellFormed span member).2
          have above := within.above
          have below := within.below
          have nonempty := (wellFormed span member).2
          omega
        rw [noSpans] at addUp
        have isZero : warehouses = 0 := addUp.symm
        rw [isZero, Int64.toInt_zero] at negative
        omega
  · intro right
    constructor
    · intro passed
      rcases validateAssignment_eq_ok.mp passed with ⟨⟨wellFormed, addUp⟩, oneOwner⟩
      have noOverlap (w : Int) : owners (spansOf assignments) w ≤ 1 := by
        by_contra twice
        exact right (.accepted wellFormed addUp oneOwner (Or.inl ⟨w, by omega⟩))
      have noneBeyond (span : Span) (member : span ∈ spansOf assignments) :
          span.stop ≤ warehouses.toInt + 1 := by
        by_contra beyond
        exact right (.accepted wellFormed addUp oneOwner (Or.inr ⟨span, member, by omega⟩))
      constructor
      · intro w above below
        exact owners_of_lengthsAddUp wellFormed addUp noOverlap noneBeyond above below
      · intro span member w contains
        have start := (wellFormed span member).1
        have stop := noneBeyond span member
        rcases contains with ⟨above, below⟩
        omega
      · exact oneOwner
    · intro covers
      apply covers.accepted
      · intro span member
        by_contra empty
        exact right (.rejected covers (Or.inl ⟨span, member, by omega⟩))
      · by_contra negative
        exact right (.rejected covers (Or.inr (by omega)))

/-- Two loaders that both own the first two of four warehouses are accepted. -/
theorem overlappingLoaders_accepted :
    validateAssignment [⟨"loader-0", "host-0", [⟨1, 3⟩], true, 0⟩,
      ⟨"loader-1", "host-1", [⟨1, 3⟩], false, 0⟩] 4 = .ok () ∧ ¬ CoversExactly
      [⟨"loader-0", "host-0", [⟨1, 3⟩], true, 0⟩,
      ⟨"loader-1", "host-1", [⟨1, 3⟩], false, 0⟩] 4 := by
  refine ⟨by decide, ?_⟩
  intro covers
  have once := covers.once 1 (by decide) (by decide)
  exact absurd once (by decide)

end

end Mind

end PortableTpcc
