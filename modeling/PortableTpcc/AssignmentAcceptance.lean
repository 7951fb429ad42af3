import PortableTpcc.AssignmentTable

namespace PortableTpcc

namespace Mind

/-!
# The assignments that `ValidateRunConfigAssignment` accepts

The scan marks the warehouses of each range.  A marked warehouse counts as
owned once, and a range adds one to each of its warehouses, which must not be
marked yet.  So the marks at the end say how often each warehouse is assigned.
-/

/-- The interval of a range that is a pair. -/
def rangeSpan : List Int → Option Span
  | [start, stop] => some ⟨start, stop⟩
  | _ => none

/-- The intervals of the ranges that are pairs. -/
def rangeSpans (ranges : List (List Int)) : List Span :=
  ranges.filterMap rangeSpan

/-- The ranges of a worker, where `nil` has none. -/
def WorkerAssignmentJSON.ranges (worker : WorkerAssignmentJSON) : List (List Int) :=
  worker.warehouseRanges.getD []

/-- The intervals of all workers. -/
def assignedSpans (workers : List WorkerAssignmentJSON) : List Span :=
  workers.flatMap fun worker => rangeSpans worker.ranges

/-- A non-empty half-open pair inside `1 .. warehouses`. -/
def ValidRange (warehouses : Int) (range : List Int) : Prop :=
  ∃ start stop, range = [start, stop] ∧ start < stop ∧ 1 ≤ start ∧ stop ≤ warehouses + 1

/-- What a valid assignment of the workers is. -/
structure AssignmentAccepted (rc : RunConfig) : Prop where
  positive : 0 < rc.warehouses
  someWorker : rc.workerAssignment ≠ []
  named : ∀ worker ∈ rc.workerAssignment, worker.instanceName ≠ ""
  distinct : (rc.workerAssignment.map (·.instanceName)).Nodup
  someRange : ∀ worker ∈ rc.workerAssignment, worker.ranges ≠ []
  valid : ∀ worker ∈ rc.workerAssignment, ∀ range ∈ worker.ranges,
    ValidRange rc.warehouses range
  once : ∀ w, 1 ≤ w → w ≤ rc.warehouses →
    owners (assignedSpans rc.workerAssignment) w = 1

/-- How often a warehouse is marked: not at all or once. -/
def held (ownership : Int → String) (w : Int) : Nat :=
  if ownership w = "" then 0 else 1

variable {ownership : Int → String}

theorem foldlM_claimWarehouse {worker : String} {warehouses : List Int}
    (distinct : warehouses.Nodup) {final : Int → String} :
    warehouses.foldlM (claimWarehouse worker) ownership = .ok final ↔
      (∀ w ∈ warehouses, ownership w = "") ∧
      final = fun w => if w ∈ warehouses then worker else ownership w := by
  induction warehouses generalizing ownership with
  | nil =>
    simp [pure, Except.pure, eq_comm (a := final)]
  | cons first rest ih =>
    rcases List.nodup_cons.mp distinct with ⟨fresh, restDistinct⟩
    have claimed : ∀ next, claimWarehouse worker ownership first = .ok next ↔
        ownership first = "" ∧ next = Function.update ownership first worker := by
      intro next
      simp [claimWarehouse, pure, Except.pure, eq_comm (a := next)]
    simp only [List.foldlM_cons, bind_eq_ok, claimed,
      ih restDistinct, List.forall_mem_cons]
    constructor
    · rintro ⟨_, ⟨free, rfl⟩, restFree, rfl⟩
      refine ⟨⟨free, ?_⟩, ?_⟩
      · intro w member
        have other : w ≠ first := fun same => fresh (same ▸ member)
        simpa [other] using restFree w member
      · funext w
        by_cases same : w = first
        · simp [same]
        · simp [same]
    · rintro ⟨⟨free, restFree⟩, rfl⟩
      refine ⟨_, ⟨free, rfl⟩, ?_, ?_⟩
      · intro w member
        have other : w ≠ first := fun same => fresh (same ▸ member)
        simpa [other] using restFree w member
      · funext w
        by_cases same : w = first
        · simp [same]
        · simp [same]

variable {warehouses : Int}

theorem claimRange_eq_ok {worker : String} {final : Int → String} {range : List Int} :
    claimRange warehouses worker ownership range = .ok final ↔ ∃ start stop, range = [start, stop] ∧
      (start < stop ∧ 1 ≤ start ∧ stop ≤ warehouses + 1) ∧
      (∀ w, start ≤ w → w < stop → ownership w = "") ∧ final = fun w =>
          if start ≤ w ∧ w < stop then worker else ownership w := by
  rcases range with _ | ⟨start, _ | ⟨stop, _ | ⟨third, rest⟩⟩⟩
  · simp [claimRange]
  · simp [claimRange]
  · have isRange (ordered : start < stop) (w : Int) :
        w ∈ numbersFrom start (stop - start).toNat ↔ start ≤ w ∧ w < stop := by
      rw [(numbersFrom_fills rfl).mem_iff, Finset.mem_Icc]
      omega
    have claimed : claimRange warehouses worker ownership [start, stop] = .ok final ↔
        ¬ (stop ≤ start ∨ start ≤ 0) ∧ ¬ stop > warehouses + 1 ∧
        (numbersFrom start (stop - start).toNat).foldlM
        (claimWarehouse worker) ownership = .ok final := by
      simp only [claimRange, bind_eq_ok, rejectIf_eq_ok, Unique.exists_iff]
      rfl
    rw [claimed, foldlM_claimWarehouse (numbersFrom_nodup _ _)]
    constructor
    · rintro ⟨bounds, small, free, rfl⟩
      have ordered : start < stop := by omega
      refine ⟨start, stop, rfl, by omega, ?_, ?_⟩
      · intro w above below
        exact free w ((isRange ordered w).mpr ⟨above, below⟩)
      · funext w
        simp only [isRange ordered]
    · rintro ⟨_, _, same, bounds, free, rfl⟩
      simp only [List.cons.injEq, and_true] at same
      rcases same with ⟨rfl, rfl⟩
      refine ⟨by omega, by omega, ?_, ?_⟩
      · intro w member
        have inRange := (isRange bounds.1 w).mp member
        exact free w inRange.1 inRange.2
      · funext w
        simp only [isRange bounds.1]
  · simp [claimRange]

section

variable {warehouses : Int} {worker : String}

variable {ownership final : Int → String}

/-- A claimed range adds one mark to each of its warehouses. -/
theorem held_claimRange (isNamed : worker ≠ "") {range : List Int}
    (claimed : claimRange warehouses worker ownership range = .ok final) :
    ValidRange warehouses range ∧
      ∀ w, held final w = held ownership w + owners (rangeSpans [range]) w := by
  rcases claimRange_eq_ok.mp claimed with ⟨start, stop, rfl, bounds, free, rfl⟩
  refine ⟨⟨start, stop, rfl, bounds⟩, ?_⟩
  intro w
  have spans : rangeSpans [[start, stop]] = [⟨start, stop⟩] := rfl
  rw [spans, owners_cons, owners_nil]
  by_cases inside : start ≤ w ∧ w < stop
  · simp [held, inside, isNamed, free w inside.1 inside.2, Span.Contains]
  · simp [held, inside, Span.Contains]

theorem exists_claimRange {range : List Int} (valid : ValidRange warehouses range)
    (once : ∀ w, held ownership w + owners (rangeSpans [range]) w ≤ 1) :
    ∃ final, claimRange warehouses worker ownership range = .ok final := by
  rcases valid with ⟨start, stop, rfl, bounds⟩
  refine ⟨_, claimRange_eq_ok.mpr ⟨start, stop, rfl, bounds, ?_, rfl⟩⟩
  intro w above below
  have atMost := once w
  have spans : rangeSpans [[start, stop]] = [⟨start, stop⟩] := rfl
  rw [spans, owners_cons, owners_nil, if_pos ⟨above, below⟩] at atMost
  by_contra marked
  simp [held, marked] at atMost

theorem rangeSpans_cons (range : List Int) (ranges : List (List Int)) :
    rangeSpans (range :: ranges) = rangeSpans [range] ++ rangeSpans ranges :=
  List.filterMap_append (l := [range])

theorem held_claimRanges (isNamed : worker ≠ "") {ranges : List (List Int)}
    (claimed : ranges.foldlM (claimRange warehouses worker) ownership = .ok final) :
    (∀ range ∈ ranges, ValidRange warehouses range) ∧
      ∀ w, held final w = held ownership w + owners (rangeSpans ranges) w := by
  induction ranges generalizing ownership with
  | nil =>
    cases claimed
    exact ⟨fun _ member => absurd member List.not_mem_nil, fun w => rfl⟩
  | cons range rest ih =>
    rw [List.foldlM_cons, bind_eq_ok] at claimed
    rcases claimed with ⟨next, first, later⟩
    have firstHeld := held_claimRange isNamed first
    have laterHeld := ih later
    refine ⟨List.forall_mem_cons.mpr ⟨firstHeld.1, laterHeld.1⟩, ?_⟩
    intro w
    rw [laterHeld.2, firstHeld.2, rangeSpans_cons range rest, owners_append, Nat.add_assoc]

theorem exists_claimRanges (isNamed : worker ≠ "") {ranges : List (List Int)}
    (valid : ∀ range ∈ ranges, ValidRange warehouses range)
    (once : ∀ w, held ownership w + owners (rangeSpans ranges) w ≤ 1) :
    ∃ final, ranges.foldlM (claimRange warehouses worker) ownership = .ok final := by
  induction ranges generalizing ownership with
  | nil =>
    exact ⟨ownership, rfl⟩
  | cons range rest ih =>
    rcases List.forall_mem_cons.mp valid with ⟨firstValid, restValid⟩
    simp only [rangeSpans_cons range rest, owners_append] at once
    have firstOnce (w : Int) : held ownership w + owners (rangeSpans [range]) w ≤ 1 :=
      (Nat.le_add_right _ _).trans ((Nat.add_assoc _ _ _).le.trans (once w))
    rcases exists_claimRange firstValid firstOnce with ⟨next, first⟩
    have firstHeld := held_claimRange isNamed first
    have restOnce (w : Int) : held next w + owners (rangeSpans rest) w ≤ 1 := by
      rw [firstHeld.2 w, Nat.add_assoc]
      exact once w
    rcases ih restValid restOnce with ⟨final, later⟩
    refine ⟨final, ?_⟩
    rw [List.foldlM_cons, first]
    exact later

/-- What is asked of one worker apart from the overlaps. -/
structure WorkerAccepted (warehouses : Int) (worker : WorkerAssignmentJSON) :
    Prop where
  named : worker.instanceName ≠ ""
  someRange : worker.ranges ≠ []
  valid : ∀ range ∈ worker.ranges, ValidRange warehouses range

variable {seen : List String}

theorem claimWorker_eq_ok {seen' : List String} {worker : WorkerAssignmentJSON} :
    claimWorker warehouses (seen, ownership) worker = .ok (seen', final) ↔
      worker.instanceName ≠ "" ∧ worker.instanceName ∉ seen ∧ worker.ranges ≠ [] ∧
      worker.ranges.foldlM (claimRange warehouses worker.instanceName) ownership = .ok final ∧
      seen' = worker.instanceName :: seen := by
  simp only [claimWorker, WorkerAssignmentJSON.ranges, bind_eq_ok,
    rejectIf_eq_ok, Unique.exists_iff, pure, Except.pure, Except.ok.injEq, Prod.mk.injEq, ne_eq]
  constructor
  · rintro ⟨named, fresh, some, _, claimed, rfl, rfl⟩
    exact ⟨named, fresh, some, claimed, rfl⟩
  · rintro ⟨named, fresh, some, claimed, rfl⟩
    exact ⟨named, fresh, some, final, claimed, rfl, rfl⟩

theorem assignedSpans_cons (worker : WorkerAssignmentJSON) (rest : List WorkerAssignmentJSON) :
    assignedSpans (worker :: rest) = rangeSpans worker.ranges ++ assignedSpans rest :=
  List.flatMap_cons

theorem held_claimWorkers {workers : List WorkerAssignmentJSON} {seen' : List String}
    (claimed : workers.foldlM (claimWorker warehouses) (seen, ownership) = .ok (seen', final)) :
    (∀ worker ∈ workers, WorkerAccepted warehouses worker) ∧ (workers.map (·.instanceName)).Nodup ∧
      (∀ worker ∈ workers, worker.instanceName ∉ seen) ∧
      ∀ w, held final w = held ownership w + owners (assignedSpans workers) w := by
  induction workers generalizing seen ownership with
  | nil =>
    cases claimed
    simp [assignedSpans]
  | cons worker rest ih =>
    rw [List.foldlM_cons, bind_eq_ok] at claimed
    rcases claimed with ⟨⟨nextSeen, next⟩, first, later⟩
    rcases claimWorker_eq_ok.mp first with ⟨named, fresh, someRange, ranges, rfl⟩
    have rangesHeld := held_claimRanges named ranges
    rcases ih later with ⟨restAccepted, restDistinct, restFresh, restHeld⟩
    refine ⟨?_, ?_, ?_, ?_⟩
    · exact List.forall_mem_cons.mpr ⟨⟨named, someRange, rangesHeld.1⟩, restAccepted⟩
    · rw [List.map_cons, List.nodup_cons]
      refine ⟨?_, restDistinct⟩
      intro repeated
      rcases List.mem_map.mp repeated with ⟨other, member, same⟩
      exact restFresh other member (same ▸ List.mem_cons_self)
    · rw [List.forall_mem_cons]
      refine ⟨fresh, ?_⟩
      intro other member isSeen
      exact restFresh other member (List.mem_cons_of_mem _ isSeen)
    · intro w
      rw [restHeld, rangesHeld.2, assignedSpans_cons, owners_append, Nat.add_assoc]

theorem exists_claimWorkers {workers : List WorkerAssignmentJSON}
    (accepted : ∀ worker ∈ workers, WorkerAccepted warehouses worker)
    (distinct : (workers.map (·.instanceName)).Nodup)
    (fresh : ∀ worker ∈ workers, worker.instanceName ∉ seen)
    (once : ∀ w, held ownership w + owners (assignedSpans workers) w ≤ 1) :
    ∃ progress, workers.foldlM (claimWorker warehouses) (seen, ownership) = .ok progress := by
  induction workers generalizing seen ownership with
  | nil =>
    exact ⟨(seen, ownership), rfl⟩
  | cons worker rest ih =>
    rcases List.forall_mem_cons.mp accepted with ⟨first, restAccepted⟩
    rcases List.forall_mem_cons.mp fresh with ⟨firstFresh, restFresh⟩
    rw [List.map_cons, List.nodup_cons] at distinct
    simp only [assignedSpans_cons, owners_append] at once
    have rangesOnce (w : Int) : held ownership w + owners (rangeSpans worker.ranges) w ≤ 1 :=
      (Nat.le_add_right _ _).trans ((Nat.add_assoc _ _ _).le.trans (once w))
    rcases exists_claimRanges first.named first.valid rangesOnce with ⟨next, ranges⟩
    have rangesHeld := held_claimRanges first.named ranges
    have restOnce (w : Int) : held next w + owners (assignedSpans rest) w ≤ 1 := by
      rw [rangesHeld.2 w, Nat.add_assoc]
      exact once w
    have restNew (other : WorkerAssignmentJSON) (member : other ∈ rest) :
        other.instanceName ∉ worker.instanceName :: seen := by
      intro isSeen
      rcases List.mem_cons.mp isSeen with same | earlier
      · exact distinct.1 (List.mem_map.mpr ⟨other, member, same⟩)
      · exact restFresh other member earlier
    rcases ih restAccepted distinct.2 restNew restOnce with ⟨progress, later⟩
    refine ⟨progress, ?_⟩
    rw [List.foldlM_cons, bind_eq_ok]
    exact ⟨_, claimWorker_eq_ok.mpr
      ⟨first.named, firstFresh, first.someRange, ranges, rfl⟩, later⟩

end

/-- Intervals of valid ranges lie inside `1 .. warehouses`. -/
theorem bounds_of_contains {workers : List WorkerAssignmentJSON}
    (valid : ∀ worker ∈ workers, ∀ range ∈ worker.ranges, ValidRange warehouses range)
    {span : Span} (member : span ∈ assignedSpans workers) {w : Int} (contains : span.Contains w) :
    1 ≤ w ∧ w ≤ warehouses := by
  rcases List.mem_flatMap.mp member with ⟨worker, isWorker, isSpan⟩
  rcases List.mem_filterMap.mp isSpan with ⟨range, isRange, spanOf⟩
  rcases valid worker isWorker range isRange with ⟨start, stop, rfl, ordered, above, below⟩
  cases spanOf
  rcases contains with ⟨low, high⟩
  simp only at low high
  omega

theorem held_eq_one_iff {w : Int} : held ownership w = 1 ↔ ownership w ≠ "" := by
  unfold held
  split <;> simp [*]

/-- The last loop: all warehouses are marked. -/
theorem covered_eq_ok :
    ((List.range warehouses.toNat).forM fun index => do
        let wh := (index : Int) + 1
        rejectIf (ownership wh = "") s!"workers do not cover warehouse {wh}") = .ok () ↔
      ∀ w, 1 ≤ w → w ≤ warehouses → held ownership w = 1 := by
  rw [forM_eq_ok]
  simp only [rejectIf_eq_ok, List.mem_range, held_eq_one_iff]
  constructor
  · intro covered w above below
    have owned := covered (w - 1).toNat (by omega)
    rwa [show ((w - 1).toNat : Int) + 1 = w by omega] at owned
  · intro covered index below
    exact covered (index + 1) (by omega) (by omega)

/-- The scan that keeps the owners in a function. -/
theorem validateRunConfigAssignment_eq_ok {rc : RunConfig} :
    validateRunConfigAssignment rc = .ok () ↔ AssignmentAccepted rc := by
  have unmarked (w : Int) : held (fun _ => "") w = 0 := if_pos rfl
  simp only [validateRunConfigAssignment, bind_eq_ok, rejectIf_eq_ok,
    Unique.exists_iff, Prod.exists, covered_eq_ok, not_le]
  constructor
  · rintro ⟨someWorker, positive, seen, final, claimed, covered⟩
    rcases held_claimWorkers claimed with ⟨accepted, distinct, _, isHeld⟩
    refine
      { positive
        someWorker
        named := fun worker member => (accepted worker member).named
        distinct
        someRange := fun worker member => (accepted worker member).someRange
        valid := fun worker member => (accepted worker member).valid
        once := ?_ }
    intro w above below
    have marks := isHeld w
    rwa [covered w above below, unmarked, Nat.zero_add, eq_comm] at marks
  · intro accepted
    have once (w : Int) : held (fun _ => "") w +
        owners (assignedSpans rc.workerAssignment) w ≤ 1 := by
      rw [unmarked, Nat.zero_add]
      by_cases owned : 0 < owners (assignedSpans rc.workerAssignment) w
      · rcases owners_pos_iff.mp owned with ⟨span, member, contains⟩
        have bounds := bounds_of_contains accepted.valid member contains
        exact (accepted.once w bounds.1 bounds.2).le
      · omega
    rcases exists_claimWorkers (fun worker member =>
          ⟨accepted.named worker member, accepted.someRange worker member,
            accepted.valid worker member⟩)
        accepted.distinct (fun _ _ => List.not_mem_nil) once with
      ⟨⟨seen, final⟩, claimed⟩
    refine ⟨accepted.someWorker, accepted.positive, seen, final, claimed, ?_⟩
    intro w above below
    rw [(held_claimWorkers claimed).2.2.2 w, unmarked, Nat.zero_add]
    exact accepted.once w above below

variable {rc : AssignmentConfig}

/-- The largest `int` is no number of warehouses that ranges can cover. -/
theorem noOverflow_of_accepted (accepted : AssignmentAccepted rc.toRunConfig) :
    rc.warehouses.toInt + 1 < 2 ^ 63 := by
  have once := accepted.once rc.warehouses.toInt accepted.positive le_rfl
  rcases owners_pos_iff.mp (once ▸ Nat.one_pos) with ⟨span, member, _, below⟩
  rcases List.mem_flatMap.mp member with ⟨_, isWorker, isSpan⟩
  rcases List.mem_map.mp isWorker with ⟨worker, _, rfl⟩
  rcases List.mem_filterMap.mp isSpan with ⟨_, isRange, spanOf⟩
  rcases List.mem_map.mp isRange with ⟨range, _, rfl⟩
  rcases range with _ | ⟨start, _ | ⟨stop, _ | ⟨third, rest⟩⟩⟩
  · cases spanOf
  · cases spanOf
  · cases spanOf
    have representable := stop.toInt_lt
    simp only at below
    omega
  · cases spanOf

/-- `make` refuses the table of the largest `int`. -/
theorem validate_overflow (overflow : ¬ rc.warehouses.toInt + 1 < 2 ^ 63) :
    rc.validateRunConfigAssignment = .error .makeslice ∨
      ∃ text, rc.validateRunConfigAssignment = .error (.error text) := by
  have representable := rc.warehouses.toInt_lt
  have largest : rc.warehouses.toInt = 2 ^ 63 - 1 := by omega
  have isMax : rc.warehouses = Int64.maxValue := by
    rw [← Int64.toInt_inj, largest]
    rfl
  rw [AssignmentConfig.validateRunConfigAssignment, isMax]
  by_cases noWorker : rc.workerAssignment = []
  · right
    simp only [returnIf, rejectIf, if_pos noWorker]
    exact ⟨_, rfl⟩
  · left
    simp only [returnIf, rejectIf, if_neg noWorker]
    rfl

theorem validate_table_cases (rc : AssignmentConfig) :
    (rc.validateRunConfigAssignment = .ok () ∧ AssignmentAccepted rc.toRunConfig) ∨
      ¬ AssignmentAccepted rc.toRunConfig ∧
      (rc.validateRunConfigAssignment = .error .makeslice ∨
      ∃ text, rc.validateRunConfigAssignment = .error (.error text)) := by
  by_cases noOverflow : rc.warehouses.toInt + 1 < 2 ^ 63
  · have simulates := rc.validate_simulates noOverflow
    rw [← validateRunConfigAssignment_eq_ok]
    cases result : validateRunConfigAssignment rc.toRunConfig with
    | ok value =>
      rw [result] at simulates
      rcases simulates with ⟨_, passed, _⟩
      exact Or.inl ⟨passed, rfl⟩
    | error text =>
      rw [result] at simulates
      exact Or.inr ⟨nofun, Or.inr ⟨text, simulates⟩⟩
  · right
    exact ⟨fun accepted => noOverflow (noOverflow_of_accepted accepted),
      validate_overflow noOverflow⟩

theorem validate_of_accepted (accepted : AssignmentAccepted rc.toRunConfig) :
    rc.validateRunConfigAssignment = .ok () := by
  rcases validate_table_cases rc with ⟨passed, _⟩ | ⟨refused, _⟩
  · exact passed
  · exact absurd accepted refused

/--
The validator never leaves its table, and it accepts just the assignments in
which each warehouse is in one range.
-/
theorem validate_table_exact (rc : AssignmentConfig) :
    rc.validateRunConfigAssignment ≠ .error .indexOutOfRange ∧
      (rc.validateRunConfigAssignment = .ok () ↔
      AssignmentAccepted rc.toRunConfig) := by
  rcases validate_table_cases rc with
    ⟨passed, accepted⟩ | ⟨refused, panics | ⟨text, failed⟩⟩
  · rw [passed]
    exact ⟨nofun, fun _ => accepted, fun _ => rfl⟩
  · rw [panics]
    exact ⟨nofun, nofun, fun accepted => absurd accepted refused⟩
  · rw [failed]
    exact ⟨nofun, nofun, fun accepted => absurd accepted refused⟩

end Mind

end PortableTpcc
