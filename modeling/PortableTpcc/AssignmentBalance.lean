import PortableTpcc.AssignmentAcceptance
import PortableTpcc.AssignmentCoverage

namespace PortableTpcc

namespace Mind

/-!
# The balanced split

`BalancedContiguousV1` gives each instance `W / n` warehouses and one more to
the first `W % n` of them.  The ranges follow each other from 1 to `W`, so the
assignment of the workers is one that `ValidateRunConfigAssignment` accepts.
Instances are taken in the order of their names; so it does not matter in which
order they are listed.
-/

/-- The share of an instance, as an integer. -/
def shareCount (base extra : Int) (i : Nat) : Int :=
  base + if (i : Int) < extra then 1 else 0

theorem shareCount_nonneg {base extra : Int} (nonneg : 0 ≤ base) (i : Nat) :
    0 ≤ shareCount base extra i := by
  unfold shareCount
  split <;> omega

theorem sum_shareCount (base : Int) {extra : Int} (nonneg : 0 ≤ extra) (n : Nat) :
    ((List.range n).map (shareCount base extra)).sum = n * base + min (n : Int) extra := by
  induction n with
  | zero =>
    simp [nonneg]
  | succ n ih =>
    rw [List.range_succ, List.map_append, List.sum_append, ih]
    by_cases early : (n : Int) < extra
    · have share : shareCount base extra n = base + 1 := by
        rw [shareCount, if_pos early]
      simp only [List.map_cons, List.map_nil, List.sum_cons, List.sum_nil,
        share, Nat.cast_add, Nat.cast_one, Int.add_mul]
      omega
    · have share : shareCount base extra n = base := by
        rw [shareCount, if_neg early, Int.add_zero]
      simp only [List.map_cons, List.map_nil, List.sum_cons, List.sum_nil,
        share, Nat.cast_add, Nat.cast_one, Int.add_mul]
      omega

section

variable {base extra : Int64}

theorem toInt_shareOf (room : base.toInt + 1 < 2 ^ 63) {i : Nat} (small : i < 2 ^ 63) :
    (shareOf base extra i).toInt = shareCount base.toInt extra.toInt i := by
  have early : Int64.ofNat i < extra ↔ (i : Int) < extra.toInt := by
    rw [Int64.lt_iff_toInt_lt, Int64.toInt_ofNat_of_lt small]
  by_cases isEarly : Int64.ofNat i < extra
  · rw [shareOf, if_pos isEarly, shareCount, if_pos (early.mp isEarly), toInt_add_one room]
  · rw [shareOf, if_neg isEarly, shareCount, if_neg (mt early.mpr isEarly), Int.add_zero]

/-- The ranges follow each other, and each has the length of its share. -/
theorem contiguousRanges_spec (base extra start : Int64) {indices : List Nat}
    (nonneg : 0 ≤ base.toInt) (room : base.toInt + 1 < 2 ^ 63) (small : ∀ i ∈ indices, i < 2 ^ 63)
    (positive : 0 ≤ start.toInt)
    (fits : start.toInt + (indices.map (shareCount base.toInt extra.toInt)).sum < 2 ^ 63) :
    Contiguous start.toInt ((contiguousRanges base extra start indices).map WarehouseRange.span)
      (start.toInt + (indices.map (shareCount base.toInt extra.toInt)).sum) ∧
      (contiguousRanges base extra start indices).map
      (fun range => range.span.stop - range.span.start) =
      indices.map (shareCount base.toInt extra.toInt) := by
  induction indices generalizing start with
  | nil =>
    simp [contiguousRanges, Contiguous]
  | cons i rest ih =>
    rcases List.forall_mem_cons.mp small with ⟨smallFirst, smallRest⟩
    have share : (shareOf base extra i).toInt =
          shareCount base.toInt extra.toInt i :=
      toInt_shareOf room smallFirst
    have shareNonneg : 0 ≤ shareCount base.toInt extra.toInt i := shareCount_nonneg nonneg i
    have restNonneg : 0 ≤ (rest.map (shareCount base.toInt extra.toInt)).sum := by
      apply List.sum_nonneg
      intro count isCount
      rcases List.mem_map.mp isCount with ⟨index, _, rfl⟩
      exact shareCount_nonneg nonneg index
    rw [List.map_cons, List.sum_cons] at fits
    have next : (start + shareOf base extra i).toInt =
        start.toInt + shareCount base.toInt extra.toInt i := by
      rw [Int64.toInt_add, share]
      exact Int.bmod_eq_of_le (by omega) (by omega)
    have nextPositive : 0 ≤ (start + shareOf base extra i).toInt := by omega
    rcases ih _ smallRest nextPositive (by omega) with ⟨contiguous, lengths⟩
    rw [contiguousRanges, List.map_cons, List.map_cons, List.map_cons, List.sum_cons, lengths]
    refine ⟨⟨rfl, ?_, ?_⟩, ?_⟩
    · simp only [WarehouseRange.span, next]
      omega
    · rw [← Int.add_assoc, ← next]
      exact contiguous
    · simp only [WarehouseRange.span, next, add_sub_cancel_left]

theorem length_contiguousRanges (start : Int64) (indices : List Nat) :
    (contiguousRanges base extra start indices).length = indices.length := by
  induction indices generalizing start with
  | nil =>
    rfl
  | cons i rest ih =>
    rw [contiguousRanges, List.length_cons, List.length_cons, ih]

end

/-- The ranges split `1 .. warehouses` evenly among as many instances. -/
structure BalancedRanges (instanceCount : Nat) (warehouses : Int)
    (ranges : List WarehouseRange) : Prop where
  length_eq : ranges.length = instanceCount
  contiguous : Contiguous 1 (ranges.map WarehouseRange.span) (warehouses + 1)
  nonempty : ∀ range ∈ ranges, range.span.start < range.span.stop
  even : ∀ first ∈ ranges, ∀ second ∈ ranges,
    first.span.stop - first.span.start ≤
      second.span.stop - second.span.start + 1

theorem length_sortedInstances (instances : List Instance) :
    (sortedInstances instances).length = instances.length :=
  List.length_mergeSort instances

variable {warehouses : Int64} {instances : List Instance}

theorem balancedContiguousV1_eq_ok (someInstance : instances ≠ [])
    (enough : instances.length ≤ warehouses.toInt) :
    balancedContiguousV1 instances warehouses = .ok (contiguousRanges
      (warehouses / Int64.ofNat instances.length) (warehouses % Int64.ofNat instances.length) 1
      (List.range instances.length)) := by
  have count : 0 < instances.length := List.length_pos_iff.mpr someInstance
  have positive : ¬ warehouses ≤ 0 := by
    rw [Int64.le_iff_toInt_le, Int64.toInt_zero]
    omega
  have notMore : ¬ (instances.length : Int) > warehouses.toInt := by omega
  simp only [balancedContiguousV1, rejectIf, if_neg positive,
    if_neg someInstance, if_neg notMore, length_sortedInstances]
  rfl

theorem contiguousRanges_balanced {n : Nat} (someInstance : 0 < n) (enough : n ≤ warehouses.toInt)
    (room : warehouses.toInt + 1 < 2 ^ 63) :
    BalancedRanges n warehouses.toInt (contiguousRanges (warehouses / Int64.ofNat n)
      (warehouses % Int64.ofNat n) 1 (List.range n)) := by
  have isCount : (Int64.ofNat n).toInt = n := Int64.toInt_ofNat_of_lt (by omega)
  have isNonneg : 0 ≤ warehouses.toInt := by omega
  have baseBelow : warehouses.toInt / n ≤ warehouses.toInt := Int.ediv_le_self _ isNonneg
  have basePositive : 1 ≤ warehouses.toInt / n := (Int.le_ediv_iff_mul_le (by omega)).mpr (by omega)
  have extraNonneg : 0 ≤ warehouses.toInt % n := Int.emod_nonneg _ (by omega)
  have extraBelow : warehouses.toInt % n < n := Int.emod_lt_of_pos _ (by omega)
  have isBase : (warehouses / Int64.ofNat n).toInt = warehouses.toInt / n := by
    rw [Int64.toInt_div, isCount, Int.tdiv_eq_ediv_of_nonneg isNonneg]
    exact Int.bmod_eq_of_le (by omega) (by omega)
  have isExtra : (warehouses % Int64.ofNat n).toInt = warehouses.toInt % n := by
    rw [Int64.toInt_mod, isCount, Int.tmod_eq_emod_of_nonneg isNonneg]
  have total : ((List.range n).map (shareCount (warehouses.toInt / n)
      (warehouses.toInt % n))).sum = warehouses.toInt := by
    rw [sum_shareCount _ extraNonneg, min_eq_right extraBelow.le]
    exact Int.mul_ediv_add_emod _ _
  have small : ∀ i ∈ List.range n, i < 2 ^ 63 := by
    intro i member
    have below := List.mem_range.mp member
    omega
  rcases contiguousRanges_spec (warehouses / Int64.ofNat n)
      (warehouses % Int64.ofNat n) 1 (by omega) (by omega) small (by decide)
      (by rw [isBase, isExtra, total, Int64.toInt_one]; omega) with
    ⟨contiguous, lengths⟩
  rw [isBase, isExtra, total, Int64.toInt_one, Int.add_comm] at contiguous
  rw [isBase, isExtra] at lengths
  -- Each length is the base or one more.
  have share (range : WarehouseRange)
      (member : range ∈ contiguousRanges (warehouses / Int64.ofNat n)
      (warehouses % Int64.ofNat n) 1 (List.range n)) :
      warehouses.toInt / n ≤ range.span.stop - range.span.start ∧
      range.span.stop - range.span.start ≤ warehouses.toInt / n + 1 := by
    have isLength :=
      List.mem_map_of_mem (f := fun range : WarehouseRange =>
          range.span.stop - range.span.start) member
    rw [lengths] at isLength
    rcases List.mem_map.mp isLength with ⟨i, _, isShare⟩
    rw [← isShare]
    unfold shareCount
    split <;> omega
  constructor
  · rw [length_contiguousRanges, List.length_range]
  · exact contiguous
  · intro range member
    have bounds := share range member
    omega
  · intro first isFirst second isSecond
    have firstBounds := share first isFirst
    have secondBounds := share second isSecond
    omega

theorem sortedInstances_perm (instances : List Instance) :
    (sortedInstances instances).Perm instances :=
  List.mergeSort_perm instances _

/-- The sorted names, which the hosts do not influence. -/
theorem names_sortedInstances (instances : List Instance) :
    (sortedInstances instances).map (·.name) =
      (instances.map (·.name)).mergeSort fun first second => first ≤ second :=
  List.map_mergeSort fun _ _ _ _ => rfl

theorem names_sortedInstances_eq {others : List Instance}
    (distinct : (instances.map (·.name)).Nodup) (othersDistinct : (others.map (·.name)).Nodup)
    (sameNames : ∀ name, name ∈ instances.map (·.name) ↔ name ∈ others.map (·.name)) :
    (sortedInstances instances).map (·.name) = (sortedInstances others).map (·.name) := by
  have perm : (instances.map (·.name)).Perm (others.map (·.name)) :=
    (List.perm_ext_iff_of_nodup distinct othersDistinct).mpr sameNames
  have sorted (names : List String) : (names.mergeSort fun first second => first ≤ second).Pairwise
      (fun first second => decide (first ≤ second) = true) := by
    apply List.pairwise_mergeSort
    · intro first second third
      simpa using le_trans
    · intro first second
      simpa using le_total first second
  rw [names_sortedInstances, names_sortedInstances]
  apply List.Perm.eq_of_pairwise _ (sorted _) (sorted _)
  · exact (List.mergeSort_perm _ _).trans (perm.trans (List.mergeSort_perm _ _).symm)
  · intro first second _ _ before after
    exact le_antisymm (of_decide_eq_true before) (of_decide_eq_true after)

/-- The ranges of the instances, in the order of their names. -/
def splitRanges (n : Nat) (warehouses : Int64) : List WarehouseRange :=
  contiguousRanges (warehouses / Int64.ofNat n) (warehouses % Int64.ofNat n) 1 (List.range n)

/-- The names with their ranges. -/
def namedRanges (instances : List Instance) (warehouses : Int64) :
    List (String × List WarehouseRange) :=
  ((sortedInstances instances).map (·.name)).zip
    ((splitRanges instances.length warehouses).map ([·]))

/-- The names with their ranges depend on the set of names only. -/
theorem namedRanges_eq {others : List Instance} (distinct : (instances.map (·.name)).Nodup)
    (othersDistinct : (others.map (·.name)).Nodup)
    (sameNames : ∀ name, name ∈ instances.map (·.name) ↔ name ∈ others.map (·.name))
    (warehouses : Int64) : namedRanges instances warehouses = namedRanges others warehouses := by
  have sameOrder := names_sortedInstances_eq distinct othersDistinct sameNames
  have sameLength : instances.length = others.length := by
    have lengths := congrArg List.length sameOrder
    simpa [length_sortedInstances] using lengths
  rw [namedRanges, namedRanges, sameOrder, sameLength]

section

variable {instances : List Instance} {warehouses : Int64}
  (someInstance : instances ≠ [])
  (enough : instances.length ≤ warehouses.toInt)

include someInstance enough

theorem buildLoaderAssignments_eq_ok (threads : Int64) :
    buildLoaderAssignments instances warehouses threads = .ok (((sortedInstances instances).zip
      (splitRanges instances.length warehouses)).mapIdx (loaderAt threads)) := by
  rw [buildLoaderAssignments, balancedContiguousV1_eq_ok someInstance enough]
  rfl

theorem buildWorkerAssignments_eq_ok (threads maxInflight : Int64) :
    buildWorkerAssignments instances warehouses threads maxInflight =
      .ok (((sortedInstances instances).zip (splitRanges instances.length warehouses)).map
      (workerEntry threads maxInflight)) := by
  rw [buildWorkerAssignments, balancedContiguousV1_eq_ok someInstance enough]
  rfl

end

theorem ranges_of_loaders (instances : List Instance) (warehouses threads : Int64) :
    (((sortedInstances instances).zip (splitRanges instances.length warehouses)).mapIdx
      (loaderAt threads)).map (fun loader => (loader.instanceName, loader.warehouseRanges)) =
      namedRanges instances warehouses := by
  rw [namedRanges, List.zip_map, List.mapIdx_eq_zipIdx_map, List.map_map]
  conv_rhs => rw [← List.zipIdx_map_fst 0 ((sortedInstances instances).zip _)]
  rw [List.map_map]
  rfl

theorem ranges_of_workers (instances : List Instance) (warehouses threads maxInflight : Int64) :
    (((sortedInstances instances).zip (splitRanges instances.length warehouses)).map
      (workerEntry threads maxInflight)).map
      (fun worker => (worker.instanceName, worker.warehouseRanges)) =
      namedRanges instances warehouses := by
  rw [namedRanges, List.zip_map, List.map_map]
  rfl

/-- Only the first loader owns the global data. -/
theorem countP_mapIdx_loaderAt (threads : Int64) {entries : List (Instance × WarehouseRange)}
    (someEntry : entries ≠ []) :
    (entries.mapIdx (loaderAt threads)).countP (·.ownsGlobalData) = 1 := by
  cases entries with
  | nil =>
    exact absurd rfl someEntry
  | cons first rest =>
    have others : (rest.mapIdx fun i => loaderAt threads (i + 1)).countP
        (·.ownsGlobalData) = 0 := by
      rw [List.countP_eq_zero]
      intro loader member
      rcases List.mem_mapIdx.mp member with ⟨i, _, rfl⟩
      simp [loaderAt]
    rw [List.mapIdx_cons, List.countP_cons_of_pos rfl, others]

theorem BalancedRanges.owners_eq_one {instanceCount : Nat} {warehouses : Int}
    {ranges : List WarehouseRange} (balanced : BalancedRanges instanceCount warehouses ranges)
    {w : Int} (above : 1 ≤ w) (below : w ≤ warehouses) :
    owners (ranges.map WarehouseRange.span) w = 1 := by
  rw [balanced.contiguous.owners_eq, if_pos (by omega)]

theorem workers_accepted {entries : List (Instance × WarehouseRange)}
    (balanced : BalancedRanges entries.length warehouses.toInt (entries.map (·.2)))
    (someEntry : entries ≠ []) (distinct : (entries.map (·.1.name)).Nodup)
    (named : ∀ entry ∈ entries, entry.1.name ≠ "") (threads maxInflight : Int64) :
    AssignmentAccepted (AssignmentConfig.toRunConfig ⟨warehouses, toWorkerJSON
      (entries.map (workerEntry threads maxInflight))⟩) := by
  have workers : (AssignmentConfig.toRunConfig ⟨warehouses, toWorkerJSON
      (entries.map (workerEntry threads maxInflight))⟩).workerAssignment =
      entries.map fun entry => ⟨entry.1.name, some [[entry.2.span.start, entry.2.span.stop]]⟩ := by
    simp only [AssignmentConfig.toRunConfig, toWorkerJSON, List.map_map]
    rfl
  have spans : assignedSpans (entries.map fun entry =>
          ⟨entry.1.name, some [[entry.2.span.start, entry.2.span.stop]]⟩) =
        (entries.map (·.2)).map WarehouseRange.span := by
    rw [assignedSpans, List.flatMap_map, List.map_map, List.map_eq_flatMap]
    rfl
  have positive : 0 < warehouses.toInt := by
    cases entries with
    | nil =>
      exact absurd rfl someEntry
    | cons first rest =>
      have nonempty := balanced.nonempty first.2 List.mem_cons_self
      have within : first.2.span.Within 1 (warehouses.toInt + 1) :=
        balanced.contiguous.within List.mem_cons_self
      have above := within.above
      have below := within.below
      omega
  rw [← workers] at spans
  constructor
  · exact positive
  · rw [workers, ne_eq, List.map_eq_nil_iff]
    exact someEntry
  · rw [workers]
    intro worker member
    rcases List.mem_map.mp member with ⟨entry, isEntry, rfl⟩
    exact named entry isEntry
  · rw [workers, List.map_map]
    exact distinct
  · rw [workers]
    intro worker member
    rcases List.mem_map.mp member with ⟨entry, _, rfl⟩
    exact List.cons_ne_nil _ _
  · rw [workers]
    intro worker member range isRange
    rcases List.mem_map.mp member with ⟨entry, isEntry, rfl⟩
    rw [List.mem_singleton.mp isRange]
    have isBalanced := List.mem_map_of_mem (f := (·.2)) isEntry
    have within :=
      balanced.contiguous.within (List.mem_map_of_mem (f := WarehouseRange.span) isBalanced)
    exact ⟨_, _, rfl, balanced.nonempty _ isBalanced, within.above, within.below⟩
  · intro w above below
    rw [spans]
    exact balanced.owners_eq_one above below

theorem balancedContiguousV1_refuses (positive : 0 < warehouses.toInt)
    (tooMany : warehouses.toInt < instances.length) :
    ∃ text, balancedContiguousV1 instances warehouses = .error text := by
  have isPositive : ¬ warehouses ≤ 0 := by
    rw [Int64.le_iff_toInt_le, Int64.toInt_zero]
    omega
  have someInstance : instances ≠ [] := by
    rintro rfl
    simp at tooMany
    omega
  simp only [balancedContiguousV1, rejectIf, if_neg isPositive,
    if_neg someInstance, if_pos (show (instances.length : Int) > _ from tooMany)]
  exact ⟨_, rfl⟩

/-- The names and ranges of an assignment are those of the split. -/
structure AssignsRanges (instances : List Instance) (ranges : List WarehouseRange)
    (assigned : List (String × List WarehouseRange)) : Prop where
  names : (assigned.map (·.1)).Perm (instances.map (·.name))
  ranges_eq : assigned.map (·.2) = ranges.map ([·])

theorem namedRanges_assigns (instances : List Instance) (warehouses : Int64) :
    AssignsRanges instances (splitRanges instances.length warehouses)
      (namedRanges instances warehouses) := by
  have sameLength : (splitRanges instances.length warehouses).length = instances.length := by
    rw [splitRanges, length_contiguousRanges, List.length_range]
  constructor
  · rw [namedRanges, List.map_fst_zip]
    · exact (sortedInstances_perm instances).map _
    · simp [length_sortedInstances, sameLength]
  · rw [namedRanges, List.map_snd_zip]
    simp [length_sortedInstances, sameLength]

theorem builtWorkers_valid (someInstance : instances ≠ [])
    (balanced : BalancedRanges instances.length warehouses.toInt
      (splitRanges instances.length warehouses)) (distinct : (instances.map (·.name)).Nodup)
    (named : ∀ entry ∈ instances, entry.name ≠ "") (threads maxInflight : Int64) :
    AssignmentConfig.validateRunConfigAssignment ⟨warehouses, toWorkerJSON
      (((sortedInstances instances).zip (splitRanges instances.length warehouses)).map
      (workerEntry threads maxInflight))⟩ = .ok () := by
  have sameLength : (sortedInstances instances).length =
      (splitRanges instances.length warehouses).length := by
    rw [length_sortedInstances, balanced.length_eq]
  have isInstances : ((sortedInstances instances).zip
      (splitRanges instances.length warehouses)).map (·.1) = sortedInstances instances :=
    List.map_fst_zip sameLength.le
  have isRanges : ((sortedInstances instances).zip
      (splitRanges instances.length warehouses)).map (·.2) =
          splitRanges instances.length warehouses :=
    List.map_snd_zip sameLength.ge
  have perm := sortedInstances_perm instances
  apply validate_of_accepted
  apply workers_accepted
  · rw [isRanges, List.length_zip, sameLength, min_self, balanced.length_eq]
    exact balanced
  · intro isNil
    rw [isNil, List.map_nil] at isInstances
    rw [← isInstances] at perm
    exact someInstance perm.symm.eq_nil
  · have names := congrArg (List.map Instance.name) isInstances
    rw [List.map_map] at names
    exact names ▸ (perm.map _).nodup_iff.mpr distinct
  · intro entry member
    have isInstance := List.mem_map_of_mem (f := (·.1)) member
    rw [isInstances] at isInstance
    exact named _ (perm.mem_iff.mp isInstance)

/--
Instances with distinct names, at most as many as there are warehouses, get a
balanced partition; it depends on the set of names only, and one loader owns the
global data.  The workers are accepted if no name is empty.  The largest `int`
is left out, as the end of its last range would wrap around.
-/
theorem assignments_balanced {warehouses : Int64} (positive : 1 ≤ warehouses.toInt)
    (threads maxInflight : Int64) :
    (∀ instances : List Instance, instances ≠ [] → instances.length ≤ warehouses.toInt →
      warehouses.toInt + 1 < 2 ^ 63 → (instances.map (·.name)).Nodup → ∃ ranges loaders workers,
      (balancedContiguousV1 instances warehouses = .ok ranges ∧
      BalancedRanges instances.length warehouses.toInt ranges ∧ ∀ w, 1 ≤ w → w ≤ warehouses.toInt →
      owners (ranges.map WarehouseRange.span) w = 1) ∧
      (buildLoaderAssignments instances warehouses threads = .ok loaders ∧
      AssignsRanges instances ranges (loaders.map fun loader =>
            (loader.instanceName, loader.warehouseRanges)) ∧
          loaders.countP (·.ownsGlobalData) = 1) ∧
        (buildWorkerAssignments instances warehouses threads maxInflight = .ok workers ∧
          AssignsRanges instances ranges (workers.map fun worker =>
            (worker.instanceName, worker.warehouseRanges)) ∧
          ((∀ entry ∈ instances, entry.name ≠ "") → AssignmentConfig.validateRunConfigAssignment
            ⟨warehouses, toWorkerJSON workers⟩ = .ok ())) ∧
        ∀ others : List Instance, (others.map (·.name)).Nodup →
          (∀ name, name ∈ instances.map (·.name) ↔ name ∈ others.map (·.name)) →
          ∃ otherLoaders otherWorkers, buildLoaderAssignments others warehouses threads =
          .ok otherLoaders ∧ buildWorkerAssignments others warehouses threads maxInflight =
          .ok otherWorkers ∧ (otherLoaders.map fun loader =>
                (loader.instanceName, loader.warehouseRanges)) = (loaders.map fun loader =>
                    (loader.instanceName, loader.warehouseRanges)) ∧
              (otherWorkers.map fun worker =>
                (worker.instanceName, worker.warehouseRanges)) = workers.map fun worker =>
                    (worker.instanceName, worker.warehouseRanges)) ∧
    ∀ instances : List Instance, warehouses.toInt < instances.length →
      ∃ text, balancedContiguousV1 instances warehouses = .error text := by
  constructor
  · intro instances someInstance enough room distinct
    have count : 0 < instances.length := List.length_pos_iff.mpr someInstance
    have balanced : BalancedRanges instances.length warehouses.toInt
        (splitRanges instances.length warehouses) :=
      contiguousRanges_balanced count enough room
    refine ⟨_, _, _, ⟨balancedContiguousV1_eq_ok someInstance enough, balanced,
        fun w above below => balanced.owners_eq_one above below⟩,
      ⟨buildLoaderAssignments_eq_ok someInstance enough threads, ?_, ?_⟩,
      ⟨buildWorkerAssignments_eq_ok someInstance enough threads maxInflight, ?_, ?_⟩, ?_⟩
    · rw [ranges_of_loaders]
      exact namedRanges_assigns instances warehouses
    · apply countP_mapIdx_loaderAt
      apply List.ne_nil_of_length_pos
      rw [List.length_zip, length_sortedInstances, balanced.length_eq, min_self]
      exact count
    · rw [ranges_of_workers]
      exact namedRanges_assigns instances warehouses
    · intro named
      exact builtWorkers_valid someInstance balanced distinct named threads maxInflight
    · intro others othersDistinct sameNames
      have perm : (instances.map (·.name)).Perm (others.map (·.name)) :=
        (List.perm_ext_iff_of_nodup distinct othersDistinct).mpr sameNames
      have sameLength : instances.length = others.length := by
        simpa using perm.length_eq
      have someOther : others ≠ [] := by
        apply List.ne_nil_of_length_pos
        omega
      have same := namedRanges_eq distinct othersDistinct sameNames warehouses
      refine ⟨_, _, buildLoaderAssignments_eq_ok someOther (by omega) threads,
        buildWorkerAssignments_eq_ok someOther (by omega) threads maxInflight, ?_, ?_⟩
      · rw [ranges_of_loaders, ranges_of_loaders, same]
      · rw [ranges_of_workers, ranges_of_workers, same]
  · intro instances tooMany
    exact balancedContiguousV1_refuses positive tooMany

/-- Five warehouses are split among two instances, and not among six. -/
theorem assignments_balanced_five :
    (∃ ranges loaders workers,
      balancedContiguousV1 [⟨"b", "host2"⟩, ⟨"a", "host1"⟩] 5 = .ok ranges ∧
      BalancedRanges 2 5 ranges ∧ buildLoaderAssignments [⟨"b", "host2"⟩, ⟨"a", "host1"⟩] 5 4 =
      .ok loaders ∧ loaders.countP (·.ownsGlobalData) = 1 ∧
      buildWorkerAssignments [⟨"b", "host2"⟩, ⟨"a", "host1"⟩] 5 4 8 = .ok workers ∧
      AssignmentConfig.validateRunConfigAssignment ⟨5, toWorkerJSON workers⟩ = .ok ()) ∧ ∃ text,
      balancedContiguousV1 (List.replicate 6 ⟨"a", "host1"⟩) 5 = .error text := by
  have five : 1 ≤ (5 : Int64).toInt := by decide
  have both := assignments_balanced five 4 8
  constructor
  · rcases both.1 [⟨"b", "host2"⟩, ⟨"a", "host1"⟩] (by decide) (by decide)
        (by decide) (by decide) with
      ⟨ranges, loaders, workers, ⟨isSplit, balanced, _⟩,
        ⟨areLoaders, _, oneOwner⟩, ⟨areWorkers, _, valid⟩, _⟩
    exact ⟨ranges, loaders, workers, isSplit, balanced, areLoaders, oneOwner,
      areWorkers, valid (by decide)⟩
  · exact both.2 _ (by decide)

/--
An instance without a name is built and then refused, and the end of the last
range of the largest `int` is negative.
-/
theorem unnamedWorker_refused :
    (([⟨"", "host1"⟩] : List Instance).map (·.name)).Nodup ∧ (∃ workers,
      buildWorkerAssignments [⟨"", "host1"⟩] 1 4 8 = .ok workers ∧
      AssignmentConfig.validateRunConfigAssignment ⟨1, toWorkerJSON workers⟩ =
      .error (.error "worker assignment instance must not be empty")) ∧
      balancedContiguousV1 [⟨"a", "host1"⟩] Int64.maxValue = .ok [⟨1, Int64.minValue⟩] := by
  refine ⟨by decide, ⟨_, rfl, ?_⟩, ?_⟩
  · rw [sortedInstances, List.mergeSort_singleton]
    decide
  · simp only [balancedContiguousV1, sortedInstances, List.mergeSort_singleton]
    decide

/-- What `BuildLoaderAssignments` builds passes `ValidateAssignment`, as `Profile` checks. -/
theorem builtLoaders_valid {threads : Int64} {loaders : List LoaderAssignment}
    (room : warehouses.toInt + 1 < 2 ^ 63)
    (built : buildLoaderAssignments instances warehouses threads = .ok loaders) :
    validateAssignment loaders warehouses = .ok () := by
  have ⟨someInstance, enough⟩ : instances ≠ [] ∧ instances.length ≤ warehouses.toInt := by
    simp only [buildLoaderAssignments, balancedContiguousV1, bind_eq_ok, rejectIf_eq_ok] at built
    grind
  have count : 0 < instances.length := List.length_pos_iff.mpr someInstance
  have balanced : BalancedRanges instances.length warehouses.toInt
      (splitRanges instances.length warehouses) :=
    contiguousRanges_balanced count enough room
  rw [buildLoaderAssignments_eq_ok someInstance enough] at built
  cases built
  have spans : spansOf (((sortedInstances instances).zip
      (splitRanges instances.length warehouses)).mapIdx (loaderAt threads)) =
      (splitRanges instances.length warehouses).map WarehouseRange.span := by
    have assigned := (namedRanges_assigns instances warehouses).ranges_eq
    rw [← ranges_of_loaders instances warehouses threads, List.map_map] at assigned
    have spans := congrArg (List.flatMap (List.map WarehouseRange.span)) assigned
    rw [spansOf, List.map_eq_flatMap]
    simpa [List.flatMap_map] using spans
  refine CoversExactly.accepted ⟨?_, ?_, ?_⟩ ?_ (by omega) <;> try rw [spans]
  · exact fun w above below => balanced.owners_eq_one above below
  · intro span member w contains
    have owned := owners_pos_iff.mpr ⟨span, member, contains⟩
    rw [balanced.contiguous.owners_eq] at owned
    grind
  · apply countP_mapIdx_loaderAt
    simpa [← List.length_pos_iff, length_sortedInstances, balanced.length_eq] using count
  · simpa using balanced.nonempty

/-- Three loaders, given out of order, for eight warehouses. -/
def threeLoaders : List Instance :=
  [⟨"b", "host2"⟩, ⟨"c", "host1"⟩, ⟨"a", "host1"⟩]

/-- Three loaders share eight warehouses. -/
theorem builtLoaders_valid_three :
    ∃ loaders, buildLoaderAssignments threeLoaders 8 4 = .ok loaders ∧ loaders.length = 3 ∧
      validateAssignment loaders 8 = .ok () := by
  have built := buildLoaderAssignments_eq_ok (by simp [threeLoaders] : threeLoaders ≠ [])
    (by decide : _ ≤ (8 : Int64).toInt) 4
  refine ⟨_, built, ?_, builtLoaders_valid (by decide) built⟩
  have ranges : (splitRanges threeLoaders.length 8).length = 3 := by decide
  rw [List.length_mapIdx, List.length_zip, length_sortedInstances, ranges]
  rfl

end Mind

end PortableTpcc
