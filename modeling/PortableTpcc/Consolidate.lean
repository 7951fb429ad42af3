import Mathlib.Logic.Function.Basic
import PortableTpcc.FallibleChecks

namespace PortableTpcc

namespace Mind

/-!
# The assignment of warehouses in a run configuration

`ValidateRunConfigAssignment` (`config/plan.go`) claims the warehouses of each worker and then looks
for one that nobody has claimed.
-/

/-- `WorkerAssignmentJSON`; the ranges may be `nil`. -/
structure WorkerAssignmentJSON where
  instanceName : String
  warehouseRanges : Option (List (List Int))
  deriving Repr, DecidableEq

/-- What is used of `RunConfig`. -/
structure RunConfig where
  workerAssignment : List WorkerAssignmentJSON
  warehouses : Int
  deriving Repr, DecidableEq

/-- Mark a warehouse as owned by a worker. -/
def claimWarehouse (worker : String) (ownership : Int → String) (wh : Int) :
    Except String (Int → String) := do
  let owner := ownership wh
  rejectIf (owner ≠ "") s!"warehouse {wh} assigned to both {owner} and {worker}"
  pure (Function.update ownership wh worker)

/-- Mark the warehouses of a range. -/
def claimRange (warehouses : Int) (worker : String)
    (ownership : Int → String) : List Int → Except String (Int → String)
  | [start, stop] => do
      rejectIf (stop ≤ start ∨ start ≤ 0) s!"invalid warehouse range for {worker}"
      rejectIf (stop > warehouses + 1) s!"worker {worker} warehouse range exceeds scale.warehouses"
      ((List.range (stop - start).toNat).map fun (index : Nat) =>
        start + index).foldlM (claimWarehouse worker) ownership
  | _ => .error s!"invalid warehouse range for {worker}"

/-- Mark the warehouses of a worker. -/
def claimWorker (warehouses : Int) (progress : List String × (Int → String))
    (worker : WorkerAssignmentJSON) :
    Except String (List String × (Int → String)) := do
  let (seen, ownership) := progress
  let name := worker.instanceName
  rejectIf (name = "") "worker assignment instance must not be empty"
  rejectIf (name ∈ seen) s!"duplicate worker instance {name.quote}"
  let ranges := worker.warehouseRanges.getD []
  rejectIf (ranges = []) s!"worker {name} has empty warehouse_ranges"
  let ownership ← ranges.foldlM (claimRange warehouses name) ownership
  pure (name :: seen, ownership)

/-- `ValidateRunConfigAssignment`. -/
def validateRunConfigAssignment (rc : RunConfig) : Except String Unit := do
  rejectIf (rc.workerAssignment = []) "worker assignment is empty"
  rejectIf (rc.warehouses ≤ 0) "scale.warehouses must be positive"
  let (_, ownership) ←
    rc.workerAssignment.foldlM (claimWorker rc.warehouses) ([], fun _ => "")
  (List.range rc.warehouses.toNat).forM fun index => do
    let wh := (index : Int) + 1
    rejectIf (ownership wh = "") s!"workers do not cover warehouse {wh}"

end Mind

end PortableTpcc
