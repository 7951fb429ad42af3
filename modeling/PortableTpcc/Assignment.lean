import PortableTpcc.Consolidate
import PortableTpcc.GridCounting
import PortableTpcc.IntervalCover

namespace PortableTpcc

namespace Mind

/-!
# The assignment of warehouses to instances

`assignment.go` splits the warehouses `1 .. W` among the instances of a role,
in the order of their names, and `plan.go` checks an assignment with a table
of owners.  An `int` of Go is an `Int64`, so that sums may wrap around.
-/

/-- `Instance`. -/
structure Instance where
  name : String
  host : String
deriving Repr, DecidableEq

/-- `WarehouseRange`, a half-open interval. -/
structure WarehouseRange where
  start : Int64
  stop : Int64
deriving Repr, DecidableEq

/-- `LoaderAssignment`. -/
structure LoaderAssignment where
  instanceName : String
  host : String
  warehouseRanges : List WarehouseRange
  ownsGlobalData : Bool
  threads : Int64
deriving Repr, DecidableEq

/-- `WorkerAssignment`. -/
structure WorkerAssignment where
  instanceName : String
  host : String
  warehouseRanges : List WarehouseRange
  threads : Int64
  maxInflight : Int64
deriving Repr, DecidableEq

/-- The integers of a range. -/
def WarehouseRange.span (range : WarehouseRange) : Span :=
  ⟨range.start.toInt, range.stop.toInt⟩

/-- The copy of the instances that is sorted by name. -/
def sortedInstances (instances : List Instance) : List Instance :=
  instances.mergeSort fun first second => first.name ≤ second.name

/-- The number of warehouses of the `i`-th instance. -/
def shareOf (base extra : Int64) (i : Nat) : Int64 :=
  if Int64.ofNat i < extra then base + 1 else base

/-- The loop of `BalancedContiguousV1` over the instances. -/
def contiguousRanges (base extra start : Int64) : List Nat → List WarehouseRange
  | [] => []
  | i :: later =>
    let count := shareOf base extra i
    ⟨start, start + count⟩ :: contiguousRanges base extra (start + count) later

/-- `BalancedContiguousV1`. -/
def balancedContiguousV1 (instances : List Instance) (warehouses : Int64) :
    Except String (List WarehouseRange) := do
  rejectIf (warehouses ≤ 0) s!"warehouses must be positive, got {warehouses}"
  rejectIf (instances = []) "instance list is empty"
  let count := instances.length
  rejectIf ((count : Int) > warehouses.toInt)
    s!"instance count {count} exceeds warehouses {warehouses}"
  let n := (sortedInstances instances).length
  let base := warehouses / Int64.ofNat n
  let extra := warehouses % Int64.ofNat n
  return contiguousRanges base extra 1 (List.range n)

/-- The entry of the `i`-th loader. -/
def loaderAt (threads : Int64) (i : Nat) (entry : Instance × WarehouseRange) :
    LoaderAssignment where
  instanceName := entry.1.name
  host := entry.1.host
  warehouseRanges := [entry.2]
  ownsGlobalData := i = 0
  threads

/-- `BuildLoaderAssignments`. -/
def buildLoaderAssignments (loaders : List Instance) (warehouses threads : Int64) :
    Except String (List LoaderAssignment) := do
  let ranges ← balancedContiguousV1 loaders warehouses
  return ((sortedInstances loaders).zip ranges).mapIdx (loaderAt threads)

/-- The entry of a worker. -/
def workerEntry (threads maxInflight : Int64)
    (entry : Instance × WarehouseRange) : WorkerAssignment where
  instanceName := entry.1.name
  host := entry.1.host
  warehouseRanges := [entry.2]
  threads
  maxInflight

/-- `BuildWorkerAssignments`. -/
def buildWorkerAssignments (workers : List Instance) (warehouses threads maxInflight : Int64) :
    Except String (List WorkerAssignment) := do
  let ranges ← balancedContiguousV1 workers warehouses
  return ((sortedInstances workers).zip ranges).map (workerEntry threads maxInflight)

/-- The body of the loop of `ValidateAssignment` over the ranges. -/
def coverRange (name : String) (covered : Int64) (range : WarehouseRange) :
    Except String Int64 := do
  let start := range.start
  let stop := range.stop
  rejectIf (start < 1 ∨ stop ≤ start) s!"invalid range [{start}, {stop}) for {name}"
  return covered + (stop - start)

/-- The loop over the ranges of one assignment. -/
def coverRanges (covered : Int64) (assignment : LoaderAssignment) : Except String Int64 :=
  assignment.warehouseRanges.foldlM (coverRange assignment.instanceName) covered

/-- `ValidateAssignment`. -/
def validateAssignment (assignments : List LoaderAssignment) (warehouses : Int64) :
    Except String Unit := do
  let covered ← assignments.foldlM coverRanges 0
  rejectIf (covered ≠ warehouses) s!"assignment covers {covered} warehouses, expected {warehouses}"
  let globalOwners := assignments.countP (·.ownsGlobalData)
  rejectIf (globalOwners ≠ 1) s!"expected exactly one global data owner, got {globalOwners}"

/-- `WorkerAssignmentJSON` with the integers of Go. -/
structure AssignedWorker where
  instanceName : String
  warehouseRanges : List (List Int64)
deriving Repr, DecidableEq

/-- What `ValidateRunConfigAssignment` reads of `RunConfig`. -/
structure AssignmentConfig where
  warehouses : Int64
  workerAssignment : List AssignedWorker
deriving Repr, DecidableEq

/-- How a call ends that does not return `nil`. -/
inductive Failure where
  | error (text : String)
  /-- `make` with a negative length. -/
  | makeslice
  /-- An index outside the table of owners. -/
  | indexOutOfRange
deriving Repr, DecidableEq

/-- `if bad { return error }`. -/
abbrev returnIf (bad : Prop) [Decidable bad] (text : String) : Except Failure Unit :=
  rejectIf bad (.error text)

/-- `make([]string, n)`. -/
def makeTable (n : Int64) : Except Failure (List String) :=
  if n < 0 then
    .error .makeslice
  else
    .ok (List.replicate n.toInt.toNat "")

/-- `ownership[wh]`. -/
def readOwner (ownership : List String) (wh : Int) : Except Failure String :=
  if 0 ≤ wh ∧ wh < ownership.length then
    .ok (ownership.getD wh.toNat "")
  else
    .error .indexOutOfRange

/-- `ownership[wh] = worker`. -/
def writeOwner (ownership : List String) (wh : Int) (worker : String) :
    Except Failure (List String) :=
  if 0 ≤ wh ∧ wh < ownership.length then
    .ok (ownership.set wh.toNat worker)
  else
    .error .indexOutOfRange

/-- The body of the loop over the warehouses of a range. -/
def ownWarehouse (worker : String) (ownership : List String) (wh : Int) :
    Except Failure (List String) := do
  let owner ← readOwner ownership wh
  returnIf (owner ≠ "") s!"warehouse {wh} assigned to both {owner} and {worker}"
  writeOwner ownership wh worker

/--
The body of the loop over the ranges of a worker.  The variable of the inner
loop is never larger than the end of the range, so it does not wrap around.
-/
def ownRange (warehouses : Int64) (worker : String) (ownership : List String) :
    List Int64 → Except Failure (List String)
  | [start, stop] => do
      returnIf (stop ≤ start ∨ start ≤ 0) s!"invalid warehouse range for {worker}"
      returnIf (stop > warehouses + 1) s!"worker {worker} warehouse range exceeds scale.warehouses"
      (numbersFrom start.toInt (stop.toInt - start.toInt).toNat).foldlM
        (ownWarehouse worker) ownership
  | _ => .error (.error s!"invalid warehouse range for {worker}")

/-- The body of the loop over the workers. -/
def ownWorker (warehouses : Int64) (progress : List String × List String)
    (worker : AssignedWorker) :
    Except Failure (List String × List String) := do
  let (seen, ownership) := progress
  let name := worker.instanceName
  returnIf (name = "") "worker assignment instance must not be empty"
  returnIf (name ∈ seen) s!"duplicate worker instance {name.quote}"
  returnIf (worker.warehouseRanges = []) s!"worker {name} has empty warehouse_ranges"
  let ownership ←
    worker.warehouseRanges.foldlM (ownRange warehouses name) ownership
  return (name :: seen, ownership)

/-- `ValidateRunConfigAssignment`. -/
def AssignmentConfig.validateRunConfigAssignment (rc : AssignmentConfig) :
    Except Failure Unit := do
  returnIf (rc.workerAssignment = []) "worker assignment is empty"
  returnIf (rc.warehouses ≤ 0) "scale.warehouses must be positive"
  let ownership ← makeTable (rc.warehouses + 1)
  let (_, ownership) ←
    rc.workerAssignment.foldlM (ownWorker rc.warehouses) ([], ownership)
  (numbersFrom 1 rc.warehouses.toInt.toNat).forM fun wh => do
    let owner ← readOwner ownership wh
    returnIf (owner = "") s!"workers do not cover warehouse {wh}"

/-- `toWorkerJSON`, for the fields that are validated. -/
def toWorkerJSON (assigned : List WorkerAssignment) : List AssignedWorker :=
  assigned.map fun worker =>
    { instanceName := worker.instanceName
      warehouseRanges := worker.warehouseRanges.map fun range => [range.start, range.stop] }

/-- The configuration as the consolidation reads it. -/
def AssignmentConfig.toRunConfig (rc : AssignmentConfig) : RunConfig where
  workerAssignment := rc.workerAssignment.map fun worker =>
    ⟨worker.instanceName, some (worker.warehouseRanges.map (·.map Int64.toInt))⟩
  warehouses := rc.warehouses.toInt

end Mind

end PortableTpcc
