import PortableTpcc.SemanticOps
import PortableTpcc.StatefulActions

namespace PortableTpcc

/-!
# What the adapters share

All adapters can execute a batch one operation after the other.  OceanBase
and YDB send a batch of like operations as one statement instead, and both
read all ten districts of a Delivery at once and answer the district loop
from that prefetch.  Each adapter has its own copy of this code; it is the
same code.
-/

/-- The fold of a batch that is executed in order, to the first failure. -/
def executeInOrder {m : Type → Type} [Monad m] (execute : TSemanticOp → m TOperationResult) :
    List TSemanticOp → TBatchResult → m TBatchResult
  | [], batch => return batch
  | op :: rest, batch => do
      let one ← execute op
      let results := batch.results ++ [one]
      if one.ok then
        executeInOrder execute rest { batch with results }
      else
        return {
          ok := false
          errorClass := one.errorClass
          nativeCode := one.nativeCode
          message := one.message
          results }

/-- An operation was returned, and its success decides what holds. -/
def Returns {ε σ : Type} (good bad : σ → Prop) (result : Except ε TOperationResult)
    (state : σ) : Prop :=
  ∃ operation, result = .ok operation ∧ if operation.ok then good state else bad state

variable {ops : List TSemanticOp}

/--
A batch that is executed in order: what holds after the operations so far is
carried on by each success, and the first failure ends the batch.
-/
theorem executeInOrder_ensures {face : Interface} {σ τ ε : Type} {answers : Answers face σ}
    {execute : TSemanticOp → Action face τ ε TOperationResult}
    (Good : List TSemanticOp → τ × σ → Prop) (Bad : τ × σ → Prop) (step : ∀ issued, ∀ op ∈ ops,
      Ensures answers (Good issued) (execute op) (Returns (Good (issued ++ [op])) Bad))
    {batch : TBatchResult} (succeeding : batch.ok = true)
    (issued : List TSemanticOp) : Ensures answers (Good issued) (executeInOrder execute ops batch)
      fun result state => ∃ final, result = .ok final ∧
            if final.ok then Good (issued ++ ops) state else Bad state := by
  induction ops generalizing batch issued with
  | nil =>
    refine .pure fun state good => ⟨batch, rfl, ?_⟩
    simpa [succeeding] using good
  | cons op rest ih =>
    have first := step issued op (by simp)
    refine .bind (fun one state =>
        if one.ok then Good (issued ++ [op]) state else Bad state)
      ?_ fun one => ?_
    · intro before result after good acts
      obtain ⟨operation, rfl, outcome⟩ := first good acts
      exact outcome
    · cases succeeded : one.ok with
      | true =>
        simp only [↓reduceIte]
        intro before result after good acts
        have ends := ih
          (fun issued op member => step issued op (by simp [member]))
          (by exact succeeding) (issued ++ [op]) good acts
        simpa using ends
      | false =>
        simp only [Bool.false_eq_true, ↓reduceIte]
        exact .pure fun state bad => ⟨_, rfl, by simpa using bad⟩

/-- The report of a commit that was not a success. -/
def failedCommit (errorClass : EErrorClass) (nativeCode message : String) : TCommitResult :=
  { outcome :=
      if errorClass = .ambiguousCommit then
        .outcomeUnknown
      else
        .rolledBack
    errorClass
    nativeCode
    message }

/-- `FailBatch` of a failed operation. -/
def failBatch (errorClass : EErrorClass) (message : String) (code : String := "") : TBatchResult :=
  { ok := false, errorClass, message, nativeCode := code }

/-- `OkBatch`. -/
def okBatch (count : Nat) : TBatchResult :=
  { ok := true, results := List.replicate count (okOp 1 1) }

/-- The first row of a result set, or an integrity failure. -/
def firstRow (rows : List α) (missing : String)
    (payload : α → TOperationPayload) : TOperationResult :=
  match rows with
  | [] => failOp .integrity missing
  | row :: _ => okOp 1 1 (payload row)

/-- The rows of a result set, when there are as many as expected. -/
def expectedRows (rows : List α) (expected : Nat) (missing : String)
    (payload : TOperationPayload) : TOperationResult :=
  if rows.length ≠ expected then
    failOp .integrity missing
  else
    okOp expected rows.length payload

/-- `std::get_if` on an operation, for each kind that has a batch. -/
def asUpdateStock? : TSemanticOp → Option TUpdateStock
  | .updateStock request => some request
  | _ => none

def asInsertOrderLine? : TSemanticOp → Option TInsertOrderLine
  | .insertOrderLine request => some request
  | _ => none

def asCompleteOrderDelivery? : TSemanticOp → Option TCompleteOrderDelivery
  | .completeOrderDelivery request => some request
  | _ => none

def asApplyDeliveryToCustomer? :
    TSemanticOp → Option TApplyDeliveryToCustomer
  | .applyDeliveryToCustomer request => some request
  | _ => none

/-- A list whose elements all have one form is made of that form. -/
theorem eq_map_of_mapM {α β : Type} {read : α → Option β} {form : β → α}
    (exact : ∀ {element value}, read element = some value → element = form value)
    {elements : List α} {values : List β} (all : elements.mapM read = some values) :
    elements = values.map form := by
  induction elements generalizing values with
  | nil =>
    obtain rfl : [] = values := by simpa using all
    rfl
  | cons element rest ih =>
    simp only [List.mapM_cons, Option.bind_eq_bind, Option.pure_def,
      Option.bind_eq_some_iff, Option.some.injEq] at all
    obtain ⟨value, first, later, others, rfl⟩ := all
    rw [List.map_cons, ← ih others, ← exact first]

theorem eq_updateStock_of_mapM {updates : List TUpdateStock}
    (all : ops.mapM asUpdateStock? = some updates) : ops = updates.map .updateStock := by
  refine eq_map_of_mapM (fun {op update} read => ?_) all
  cases op <;> simp_all [asUpdateStock?]

theorem eq_insertOrderLine_of_mapM {lines : List TInsertOrderLine}
    (all : ops.mapM asInsertOrderLine? = some lines) : ops = lines.map .insertOrderLine := by
  refine eq_map_of_mapM (fun {op line} read => ?_) all
  cases op <;> simp_all [asInsertOrderLine?]

theorem eq_completeOrderDelivery_of_mapM {rows : List TCompleteOrderDelivery}
    (all : ops.mapM asCompleteOrderDelivery? = some rows) :
    ops = rows.map .completeOrderDelivery := by
  refine eq_map_of_mapM (fun {op row} read => ?_) all
  cases op <;> simp_all [asCompleteOrderDelivery?]

theorem eq_applyDeliveryToCustomer_of_mapM {rows : List TApplyDeliveryToCustomer}
    (all : ops.mapM asApplyDeliveryToCustomer? = some rows) :
    ops = rows.map .applyDeliveryToCustomer := by
  refine eq_map_of_mapM (fun {op row} read => ?_) all
  cases op <;> simp_all [asApplyDeliveryToCustomer?]

/-- `TDeliveryPrefetch`, one entry for each district. -/
structure TDeliveryPrefetch where
  loaded : Bool := false
  warehouseId : Int := 0
  oldestOrderId : List (Option Int) := List.replicate 10 none
  info : List (Option TDeliveryOrderInfo) := List.replicate 10 none
deriving Repr, DecidableEq

/-- The index of a district in the prefetch, when it is in range. -/
def districtIndex (districtId : Int) : Option Nat :=
  if 1 ≤ districtId ∧ districtId ≤ 10 then
    some (districtId - 1).toNat
  else
    none

/-- Record the customer of each order that was read. -/
def addOrders (orders : List (Int × Int)) (info : List (Option TDeliveryOrderInfo)) :
    List (Option TDeliveryOrderInfo) :=
  orders.foldl (fun info (districtId, customerId) =>
      match districtIndex districtId with
      | none => info
      | some index =>
        info.set index (some { customerId, totalAmount := 0, lineCount := 0 }))
    info

/-- Add each line that was read to its order. -/
def addLines (lines : List (Int × TMoney)) (info : List (Option TDeliveryOrderInfo)) :
    List (Option TDeliveryOrderInfo) :=
  lines.foldl (fun info (districtId, amount) =>
      match districtIndex districtId with
      | none => info
      | some index =>
        match info.getD index none with
        | none => info
        | some row =>
          info.set index
            (some { row with
              totalAmount := row.totalAmount + amount
              lineCount := row.lineCount + 1 }))
    info

/-- The districts with an oldest order, with that order. -/
def foundOrders (oldest : List (Option Int)) : List (Int × Int) :=
  (districtIds.zip oldest).filterMap fun (districtId, orderId) =>
    orderId.map fun orderId => (districtId, orderId)

/-- Some district has an oldest order about which nothing was read. -/
def missingInfo (oldest : List (Option Int)) (info : List (Option TDeliveryOrderInfo)) : Bool :=
  (oldest.zip info).any fun (orderId, row) => orderId.isSome && row.isNone

/-- `OldestFromCache`. -/
def oldestFromCache (prefetch : TDeliveryPrefetch) (districtId : Int) : TOperationResult :=
  match districtIndex districtId with
  | none => failOp .permanent "delivery district out of range"
  | some index =>
    match prefetch.oldestOrderId.getD index none with
    | none => okOp 0 0 (.int 0)
    | some orderId => okOp 1 1 (.int orderId)

/-- `DeliveryInfoFromCache`. -/
def deliveryInfoFromCache (prefetch : TDeliveryPrefetch)
    (districtId orderId : Int) : TOperationResult :=
  match districtIndex districtId with
  | none => failOp .integrity "order not found"
  | some index =>
    match prefetch.info.getD index none with
    | none => failOp .integrity "order not found"
    | some info =>
      match prefetch.oldestOrderId.getD index none with
      | none => okOp 1 1 (.deliveryInfo info)
      | some oldest =>
        if oldest ≠ orderId then
          failOp .integrity "order not found"
        else
          okOp 1 1 (.deliveryInfo info)

end PortableTpcc
