import PortableTpcc.Assignment

namespace PortableTpcc

namespace Mind

/-!
# The table of owners

`ValidateRunConfigAssignment` keeps the owners in a slice that is indexed by
the warehouse.  Every index it uses has been checked against the bounds
before, so the slice behaves like a function of the warehouse.
-/

/-- The table holds what the function says. -/
structure Represents (warehouses : Int64) (table : List String)
    (ownership : Int → String) : Prop where
  length_eq : (table.length : Int) = warehouses.toInt + 1
  agrees : ∀ w, 0 ≤ w → w ≤ warehouses.toInt →
    table.getD w.toNat "" = ownership w

theorem toInt_add_one {value : Int64} (noOverflow : value.toInt + 1 < 2 ^ 63) :
    (value + 1).toInt = value.toInt + 1 := by
  have least := value.le_toInt
  rw [Int64.toInt_add, Int64.toInt_one]
  exact Int.bmod_eq_of_le (by omega) (by omega)

section

variable {warehouses : Int64} {table : List String} {ownership : Int → String}

variable {w : Int}

theorem Represents.readOwner_eq (represents : Represents warehouses table ownership)
    (above : 0 ≤ w) (below : w ≤ warehouses.toInt) : readOwner table w = .ok (ownership w) := by
  have length := represents.length_eq
  rw [readOwner, if_pos ⟨above, by omega⟩, represents.agrees w above below]

theorem Represents.writeOwner_eq (represents : Represents warehouses table ownership)
    (above : 0 ≤ w) (below : w ≤ warehouses.toInt) (worker : String) :
    ∃ changed, writeOwner table w worker = .ok changed ∧
      Represents warehouses changed (Function.update ownership w worker) := by
  have length := represents.length_eq
  refine ⟨table.set w.toNat worker, if_pos ⟨above, by omega⟩, ?_, ?_⟩
  · rw [List.length_set]
    exact length
  · intro other otherAbove otherBelow
    by_cases same : other = w
    · subst same
      rw [Function.update_self, List.getD_eq_getElem?_getD,
        List.getElem?_set_self (by omega), Option.getD_some]
    · have distinct : w.toNat ≠ other.toNat := by omega
      rw [Function.update_of_ne same, List.getD_eq_getElem?_getD,
        List.getElem?_set_ne distinct, ← List.getD_eq_getElem?_getD]
      exact represents.agrees other otherAbove otherBelow

theorem ownWarehouse_simulates (represents : Represents warehouses table ownership)
    (above : 0 ≤ w) (below : w ≤ warehouses.toInt) (worker : String) :
    Simulates Failure.error (Represents warehouses)
      (ownWarehouse worker table w) (claimWarehouse worker ownership w) := by
  unfold ownWarehouse claimWarehouse
  rw [represents.readOwner_eq above below, ok_bind]
  apply Simulates.rejectIf Iff.rfl
  intro _
  exact represents.writeOwner_eq above below worker

theorem ownRange_simulates (noOverflow : warehouses.toInt + 1 < 2 ^ 63)
    (represents : Represents warehouses table ownership) (worker : String) (range : List Int64) :
    Simulates Failure.error (Represents warehouses) (ownRange warehouses worker table range)
      (claimRange warehouses.toInt worker ownership (range.map Int64.toInt)) := by
  have last := toInt_add_one noOverflow
  rcases range with _ | ⟨start, _ | ⟨stop, _ | ⟨third, rest⟩⟩⟩
  · rfl
  · rfl
  · have badBounds : (stop ≤ start ∨ start ≤ 0) ↔ stop.toInt ≤ start.toInt ∨ start.toInt ≤ 0 := by
      rw [Int64.le_iff_toInt_le, Int64.le_iff_toInt_le, Int64.toInt_zero]
    have tooLarge : stop > warehouses + 1 ↔ stop.toInt > warehouses.toInt + 1 := by
      rw [gt_iff_lt, gt_iff_lt, Int64.lt_iff_toInt_lt, last]
    apply Simulates.rejectIf badBounds
    intro bounds
    apply Simulates.rejectIf tooLarge
    intro small
    apply Simulates.foldlM _ represents
    intro table ownership represents w isWarehouse
    have inRange := ((numbersFrom_fills rfl).mem_iff w).mp isWarehouse
    rw [Finset.mem_Icc] at inRange
    exact ownWarehouse_simulates represents (by omega) (by omega) worker
  · rfl

theorem ownWorker_simulates (noOverflow : warehouses.toInt + 1 < 2 ^ 63)
    (represents : Represents warehouses table ownership) (seen : List String)
    (worker : AssignedWorker) : Simulates Failure.error (fun progress progress' =>
        progress.1 = progress'.1 ∧ Represents warehouses progress.2 progress'.2)
      (ownWorker warehouses (seen, table) worker)
      (claimWorker warehouses.toInt (seen, ownership) ⟨worker.instanceName,
        some (worker.warehouseRanges.map (·.map Int64.toInt))⟩) := by
  apply Simulates.rejectIf Iff.rfl
  intro _
  apply Simulates.rejectIf Iff.rfl
  intro _
  apply Simulates.rejectIf
  · simp
  · intro _
    have ranges : Simulates Failure.error (Represents warehouses) (worker.warehouseRanges.foldlM
        (ownRange warehouses worker.instanceName) table)
        ((worker.warehouseRanges.map (·.map Int64.toInt)).foldlM
        (claimRange warehouses.toInt worker.instanceName) ownership) := by
      rw [List.foldlM_map]
      apply Simulates.foldlM _ represents
      intro table ownership represents range _
      exact ownRange_simulates noOverflow represents worker.instanceName range
    apply ranges.bind
    intro table ownership represents
    exact Simulates.pure ⟨rfl, represents⟩

theorem ownWorkers_simulates (noOverflow : warehouses.toInt + 1 < 2 ^ 63)
    (represents : Represents warehouses table ownership) (workers : List AssignedWorker) :
    Simulates Failure.error (fun progress progress' =>
        progress.1 = progress'.1 ∧ Represents warehouses progress.2 progress'.2)
      (workers.foldlM (ownWorker warehouses) ([], table)) (workers.foldlM (fun progress worker =>
          claimWorker warehouses.toInt progress ⟨worker.instanceName,
            some (worker.warehouseRanges.map (·.map Int64.toInt))⟩) ([], ownership)) := by
  apply Simulates.foldlM _ ⟨rfl, represents⟩
  intro ⟨seen, table⟩ ⟨_, ownership⟩ ⟨same, represents⟩ worker _
  subst same
  exact ownWorker_simulates noOverflow represents seen worker

end

theorem makeTable_represents {warehouses : Int64} (noOverflow : warehouses.toInt + 1 < 2 ^ 63)
    (positive : 0 < warehouses.toInt) :
    ∃ table, makeTable (warehouses + 1) = .ok table ∧ Represents warehouses table fun _ => "" := by
  have last := toInt_add_one noOverflow
  have nonneg : ¬ warehouses + 1 < 0 := by
    rw [Int64.lt_iff_toInt_lt, last, Int64.toInt_zero]
    omega
  refine ⟨_, if_neg nonneg, ?_, ?_⟩
  · rw [List.length_replicate, last]
    omega
  · intro w above below
    rw [List.getD_eq_getElem?_getD, List.getElem?_replicate]
    split <;> rfl

/-- The validator does what it does with owners kept in a function. -/
theorem AssignmentConfig.validate_simulates (rc : AssignmentConfig)
    (noOverflow : rc.warehouses.toInt + 1 < 2 ^ 63) :
    Simulates Failure.error Eq rc.validateRunConfigAssignment
      (Mind.validateRunConfigAssignment rc.toRunConfig) := by
  apply Simulates.rejectIf
  · simp [toRunConfig]
  intro _
  apply Simulates.rejectIf
  · rw [Int64.le_iff_toInt_le, Int64.toInt_zero, toRunConfig]
  intro positive
  simp only [toRunConfig] at positive ⊢
  rcases makeTable_represents noOverflow (by omega) with ⟨table, isTable, represents⟩
  rw [isTable, ok_bind, List.foldlM_map]
  have workers := ownWorkers_simulates noOverflow represents rc.workerAssignment
  apply workers.bind
  rintro ⟨seen, table⟩ ⟨_, ownership⟩ ⟨_, represents⟩
  rw [numbersFrom, List.forM_eq_forM, List.forM_map]
  apply Simulates.forM
  intro index member
  have below := List.mem_range.mp member
  simp only [Int.add_comm (1 : Int)]
  rw [represents.readOwner_eq (by omega) (by omega), ok_bind]
  exact Simulates.check Iff.rfl _

end Mind

end PortableTpcc
