import PortableTpcc.Workflows

namespace PortableTpcc

/-!
# How every workflow uses its transaction

All five workflows follow one discipline.  They continue only after an
operation that succeeded; after anything else they issue no further operation
and no commit, and they do not report success.  The commit is the last thing
they ask for, alone or fused with the last operation, and its outcome decides
their result.

The adapters rely on this discipline: a session may open a new transaction
after a failed statement, and only the workflow keeps the remaining writes
out of it.  Some adapters also keep the customer update of a Payment back
until the history row, so nothing else may come between the two.
-/

/-- The customer update that an adapter may keep back. -/
def TSemanticOp.deferred : TSemanticOp → Option TUpdateCustomerPayment
  | .updateCustomerPayment request => some request
  | _ => none

/-- The last operation of a workflow also releases what was kept back. -/
def TSemanticOp.Finishes (op : TSemanticOp) :
    Option TUpdateCustomerPayment → Prop
  | none => op.deferred = none
  | some _ => ∃ history, op = .insertPaymentHistory history

/-- A workflow that has given up: it may roll back, and does not succeed. -/
inductive Stopped : Task → Prop where
  | done {result : Except Thrown Bool} (unsuccessful : result ≠ .ok true) : Stopped (.done result)
  | rollback {next : WorkflowReply .rollback → Task} (later : ∀ reply, Stopped (next reply)) :
      Stopped (.call WorkflowCommand.rollback next)
  | requestStop {next : WorkflowReply .requestStopWithError → Task}
      (later : ∀ reply, Stopped (next reply)) :
      Stopped (.call WorkflowCommand.requestStopWithError next)

/--
A workflow that has seen no failure and has not committed yet, with the
customer update that may have been kept back.
-/
inductive Disciplined : Option TUpdateCustomerPayment → Task → Prop where
  | stopped {pending : Option TUpdateCustomerPayment} {task : Task} (stops : Stopped task) :
      Disciplined pending task
  | execute {op : TSemanticOp} {next : WorkflowReply (.execute op) → Task}
      (thrown : ∀ ex, Stopped (next (.error ex)))
      (failed : ∀ result, result.ok = false → Stopped (next (.ok result)))
      (succeeded : ∀ result, result.ok = true → Disciplined op.deferred (next (.ok result))) :
      Disciplined none (.call (WorkflowCommand.execute op) next)
  | executeBatch {ops : List TSemanticOp} {next : WorkflowReply (.executeBatch ops) → Task}
      (direct : ∀ op ∈ ops, op.deferred = none) (thrown : ∀ ex, Stopped (next (.error ex)))
      (failed : ∀ batch, batch.ok = false → Stopped (next (.ok batch)))
      (succeeded : ∀ batch, batch.ok = true → Disciplined none (next (.ok batch))) :
      Disciplined none (.call (WorkflowCommand.executeBatch ops) next)
  | commit : Disciplined none commitAndFinish
  | executeFinalAndCommit {pending : Option TUpdateCustomerPayment} {op : TSemanticOp}
      (finishes : op.Finishes pending) : Disciplined pending (executeFinalAndFinish op)

/--
The operations that a workflow may start with.  Every adapter turns them into
a statement at once, so their success means that a transaction is open.
-/
def TSemanticOp.Opens : TSemanticOp → Prop
  | .getCustomerById _ _ _ => True
  | .getCustomersByLastName _ _ _ => True
  | .applyPaymentToLocation _ => True
  | .getOldestNewOrder _ _ => True
  | .countRecentLowStock _ _ _ _ => True
  | _ => False

/-- An operation that a workflow starts with is never kept back. -/
theorem TSemanticOp.Opens.deferred {op : TSemanticOp} (opens : op.Opens) : op.deferred = none := by
  cases op <;> first | rfl | exact opens.elim

/-- A workflow at its very start: an operation comes before any commit. -/
inductive Opening : Task → Prop where
  | execute {op : TSemanticOp} {next : WorkflowReply (.execute op) → Task} (opens : op.Opens)
      (thrown : ∀ ex, Stopped (next (.error ex)))
      (failed : ∀ result, result.ok = false → Stopped (next (.ok result)))
      (succeeded : ∀ result, result.ok = true → Disciplined op.deferred (next (.ok result))) :
      Opening (.call (WorkflowCommand.execute op) next)
  | executeFinalAndCommit {op : TSemanticOp} (opens : op.Opens) : Opening (executeFinalAndFinish op)

theorem Opening.disciplined {task : Task} (opening : Opening task) : Disciplined none task := by
  cases opening with
  | execute _ thrown failed succeeded =>
    exact .execute thrown failed succeeded
  | executeFinalAndCommit opens =>
    exact .executeFinalAndCommit opens.deferred

namespace Stopped

theorem raise (thrown : Thrown) : Stopped (raise thrown) :=
  .done (by simp)

theorem failPermanent (errorClass : EErrorClass) : Stopped (failPermanent errorClass) := by
  unfold PortableTpcc.failPermanent
  split
  · exact .requestStop fun _ => .done (by simp)
  · exact .done (by simp)

theorem failOperation (errorClass : EErrorClass) (nativeCode message : String) :
    Stopped (failOperation errorClass nativeCode message) := by
  unfold PortableTpcc.failOperation
  split
  · exact raise _
  · exact failPermanent errorClass

theorem finishRollback (result : TCommitResult) : Stopped (finishRollback result) := by
  unfold PortableTpcc.finishRollback
  split <;> exact raise _

end Stopped

namespace Disciplined

theorem failPermanent {pending : Option TUpdateCustomerPayment} (errorClass : EErrorClass) :
    Disciplined pending (failPermanent errorClass) :=
  .stopped (.failPermanent errorClass)

/-- Awaiting an operation is disciplined when its success continues so. -/
theorem executeThen {op : TSemanticOp} {next : TOperationResult → Task}
    (succeeded : ∀ result, result.ok = true → Disciplined op.deferred (next result)) :
    Disciplined none (executeThen op next) := by
  refine .execute (fun ex => .raise _) ?_ ?_
  · intro result failed
    simp only [failed, Bool.false_eq_true, ↓reduceIte]
    exact .failOperation _ _ _
  · intro result ok
    simp only [ok, ↓reduceIte]
    exact succeeded result ok

/-- A workflow may open with an operation that opens the database. -/
theorem opening_executeThen {op : TSemanticOp} {next : TOperationResult → Task} (opens : op.Opens)
    (succeeded : ∀ result, result.ok = true → Disciplined op.deferred (next result)) :
    Opening (PortableTpcc.executeThen op next) := by
  have disciplined : Disciplined none (PortableTpcc.executeThen op next) := executeThen succeeded
  cases disciplined with
  | stopped stops =>
    cases stops
  | execute thrown failed succeeded =>
    exact .execute opens thrown failed succeeded

theorem executeBatchThen {ops : List TSemanticOp} {next : Task}
    (direct : ∀ op ∈ ops, op.deferred = none) (succeeded : Disciplined none next) :
    Disciplined none (executeBatchThen ops next) := by
  refine .executeBatch direct (fun ex => .raise _) ?_ ?_
  · intro batch failed
    simp only [failed, Bool.false_eq_true, ↓reduceIte]
    exact .failOperation _ _ _
  · intro batch ok
    simp only [ok, ↓reduceIte]
    exact succeeded

theorem executeNonemptyBatchThen {ops : List TSemanticOp} {next : Task}
    (direct : ∀ op ∈ ops, op.deferred = none) (succeeded : Disciplined none next) :
    Disciplined none (executeNonemptyBatchThen ops next) := by
  unfold PortableTpcc.executeNonemptyBatchThen
  split
  · exact succeeded
  · exact executeBatchThen direct succeeded

theorem withPayload {pending : Option TUpdateCustomerPayment} {payload : Option α}
    {next : α → Task} (present : ∀ value, Disciplined pending (next value)) :
    Disciplined pending (withPayload payload next) := by
  cases payload with
  | none =>
    exact .stopped (.raise _)
  | some value =>
    exact present value

end Disciplined

/-- The unused-item ending never commits. -/
theorem abortUnusedItem_disciplined : Disciplined none abortUnusedItem := by
  refine .execute (fun ex => .raise _) ?_ ?_
  · intro result failed
    simp only [failed, Bool.false_eq_true, ↓reduceIte]
    split
    · exact .raise _
    · split
      · refine .rollback fun reply => ?_
        cases reply with
        | error ex =>
          exact .raise _
        | ok outcome =>
          exact .finishRollback outcome
      · exact .raise _
  · intro result ok
    simp only [ok, ↓reduceIte]
    exact .failPermanent _

theorem readItemsThen_disciplined {itemIds : List Int} {next : List TItemRow → Task}
    (read : ∀ items, Disciplined none (next items)) :
    Disciplined none (readItemsThen itemIds next) := by
  unfold readItemsThen
  split
  · exact read []
  · exact .executeThen fun _ _ => .withPayload read

theorem readStocksThen_disciplined {districtId : Int} {keys : List TStockKey}
    {next : List TStockRow → Task} (read : ∀ stocks, Disciplined none (next stocks)) :
    Disciplined none (readStocksThen districtId keys next) := by
  unfold readStocksThen
  split
  · exact read []
  · exact .executeThen fun _ _ => .withPayload fun rows => read (stockMap rows)

theorem newOrderTask_opening (inputs : NewOrderInputs) : Opening (newOrderTask inputs) := by
  refine Disciplined.opening_executeThen trivial fun _ _ =>
    .executeThen fun _ _ => .executeThen fun reserved _ =>
      .withPayload fun reservation => .executeThen fun _ _ => ?_
  refine readItemsThen_disciplined fun items => readStocksThen_disciplined fun stocks => ?_
  split
  · exact .failPermanent _
  · refine .executeNonemptyBatchThen (by simp [TSemanticOp.deferred])
      (.executeNonemptyBatchThen (by simp [TSemanticOp.deferred]) ?_)
    split
    · exact abortUnusedItem_disciplined
    · exact .commit

variable {warehouseId : Int}

theorem lookupCustomerThen_opening {districtId : Int} {lookup : CustomerLookup}
    {next : TCustomerRow → Task} (found : ∀ customer, Disciplined none (next customer)) :
    Opening (lookupCustomerThen warehouseId districtId lookup next) := by
  unfold lookupCustomerThen
  split
  · refine Disciplined.opening_executeThen trivial fun _ _ =>
      .withPayload fun customers => ?_
    split
    · exact found _
    · exact .failPermanent _
  · exact Disciplined.opening_executeThen trivial fun _ _ => .withPayload found

/-- A customer lookup is disciplined wherever it stands. -/
theorem lookupCustomerThen_disciplined {districtId : Int} {lookup : CustomerLookup}
    {next : TCustomerRow → Task} (found : ∀ customer, Disciplined none (next customer)) :
    Disciplined none (lookupCustomerThen warehouseId districtId lookup next) :=
  (lookupCustomerThen_opening found).disciplined

theorem updateCustomerThen_disciplined {inputs : PaymentInputs} {paid : TCustomerRow}
    {next : Task} (updated : ∀ update, Disciplined (some update) next) :
    Disciplined none (updateCustomerThen inputs paid next) := by
  unfold updateCustomerThen
  split
  · exact .executeThen fun _ _ => .withPayload fun _ => .executeThen fun _ _ => updated _
  · exact .executeThen fun _ _ => updated _

theorem paymentTask_opening (inputs : PaymentInputs) : Opening (paymentTask inputs) :=
  Disciplined.opening_executeThen trivial fun _ _ =>
    .withPayload fun _ =>
      lookupCustomerThen_disciplined fun _ =>
        updateCustomerThen_disciplined fun _ => .executeFinalAndCommit ⟨_, rfl⟩

/-- The district loop opens with a lookup, and stays disciplined. -/
theorem collectOrdersThen_opening (districtId : Int) (rest : List Int)
    {next : List DeliveryOrder → Task} (collected : ∀ orders, Disciplined none (next orders)) :
    Opening (collectOrdersThen warehouseId (districtId :: rest) next) := by
  induction rest generalizing districtId next with
  | nil =>
    refine Disciplined.opening_executeThen trivial fun oldest _ => ?_
    split
    · exact collected []
    · refine .withPayload fun orderId => .executeThen fun _ _ =>
        .withPayload fun info => ?_
      split
      · exact .failPermanent _
      · exact collected _
  | cons second rest ih =>
    refine Disciplined.opening_executeThen trivial fun oldest _ => ?_
    split
    · exact (ih second collected).disciplined
    · refine .withPayload fun orderId => .executeThen fun _ _ =>
        .withPayload fun info => ?_
      split
      · exact .failPermanent _
      · exact (ih second fun orders => collected _).disciplined

theorem applyDeliveries_disciplined {ops : List TSemanticOp}
    (direct : ∀ op ∈ ops, op.deferred = none) : Disciplined none (applyDeliveries ops) := by
  unfold applyDeliveries
  split
  · exact .commit
  · rename_i last ends
    exact .executeNonemptyBatchThen (fun op member => direct op (List.mem_of_mem_dropLast member))
      (.executeFinalAndCommit (direct last (List.mem_of_getLast? ends)))

theorem deliveryTask_opening (inputs : DeliveryInputs) : Opening (deliveryTask inputs) :=
  collectOrdersThen_opening 1 [2, 3, 4, 5, 6, 7, 8, 9, 10] fun _ =>
    .executeNonemptyBatchThen (by simp [TSemanticOp.deferred])
      (applyDeliveries_disciplined (by simp [TSemanticOp.deferred]))

theorem orderStatusTask_opening (inputs : OrderStatusInputs) :
    Opening (orderStatusTask inputs) := by
  refine lookupCustomerThen_opening fun customer => .executeThen fun latest _ => ?_
  split
  · exact .commit
  · exact .withPayload fun header => .executeFinalAndCommit rfl

/-- Every workflow keeps the discipline, whatever its inputs are. -/
theorem task_opening (inputs : TxInputs) : Opening inputs.task := by
  cases inputs with
  | newOrder inputs =>
    exact newOrderTask_opening inputs
  | delivery inputs =>
    exact deliveryTask_opening inputs
  | orderStatus inputs =>
    exact orderStatusTask_opening inputs
  | payment inputs =>
    exact paymentTask_opening inputs
  | stockLevel inputs =>
    exact .executeFinalAndCommit trivial

/-! ## Runs of a disciplined workflow -/

/-- What the workflow makes of the report of a commit. -/
def commitVerdict (report : TCommitResult) : Except Thrown Bool :=
  if report.outcome = .committed then
    .ok true
  else
    .error (classifiedError report.errorClass report.nativeCode
      (if report.message = "" then "commit failed" else report.message))

theorem finishCommit_eq_done (report : TCommitResult) :
    finishCommit report = .done (commitVerdict report) := by
  unfold finishCommit commitVerdict
  split <;> rfl

/-- What the workflow raises for a failure that may be ambiguous. -/
def operationVerdict (operation : TOperationResult) : Except Thrown Bool :=
  .error (classifiedError operation.errorClass operation.nativeCode operation.message)

/--
What an adapter must guarantee to reason about one attempt.  An attempt is
`Starting` until its first operation and `Working` while all has succeeded,
with the customer update that was kept back.
-/
structure AttemptRule {σ : Type} (answers : Answers workflowFace σ) (Starting : σ → Prop)
    (Working : Option TUpdateCustomerPayment → σ → Prop) (Failed : σ → Prop)
    (Ended : Except Thrown Bool → σ → Prop) : Prop where
  execute :
    ∀ {before after op reply},
      Working none before ∨ Starting before ∧ TSemanticOp.Opens op →
      answers before (WorkflowCommand.execute op) reply after →
      match reply with
      | .ok result =>
        if result.ok then
          Working (TSemanticOp.deferred op) after
        else
          Failed after
      | .error _ => Failed after
  executeBatch :
    ∀ {before after ops reply},
      Working none before →
      (∀ op ∈ ops, TSemanticOp.deferred op = none) →
      answers before (WorkflowCommand.executeBatch ops) reply after →
      match reply with
      | .ok batch => if batch.ok then Working none after else Failed after
      | .error _ => Failed after
  rollback : ∀ {before after reply}, Failed before →
    answers before WorkflowCommand.rollback reply after → Failed after
  requestStop : ∀ {before after reply}, Failed before →
    answers before WorkflowCommand.requestStopWithError reply after → Failed after
  giveUp : ∀ {pending state}, Working pending state → Failed state
  unsuccessful : ∀ {state result}, Failed state → result ≠ .ok true → Ended result state
  commit :
    ∀ {before after reply},
      Working none before →
      answers before WorkflowCommand.commit reply after →
      match reply with
      | .ok report => Ended (commitVerdict report) after
      | .error _ => Failed after
  executeFinalAndCommit :
    ∀ {pending before after op reply},
      Working pending before ∧ TSemanticOp.Finishes op pending ∨
        Starting before ∧ TSemanticOp.Opens op →
      answers before (WorkflowCommand.executeFinalAndCommit op) reply after →
      match reply with
      | .ok final =>
        if final.operation.ok then
          Ended (commitVerdict final.commit) after
        else
          Failed after ∨
            final.operation.errorClass = .ambiguousCommit ∧
              Ended (operationVerdict final.operation) after
      | .error _ => Failed after

namespace AttemptRule

variable {σ : Type} {answers : Answers workflowFace σ}
  {Starting Failed : σ → Prop}
  {Working : Option TUpdateCustomerPayment → σ → Prop}
  {Ended : Except Thrown Bool → σ → Prop}

variable {result : Except Thrown Bool} {before after : σ}

/-- A workflow that has given up ends as an unsuccessful one. -/
theorem ended_of_stopped (rule : AttemptRule answers Starting Working Failed Ended) {task : Task}
    (stopped : Stopped task) (failed : Failed before)
    (run : Runs answers task before result after) : Ended result after := by
  induction stopped generalizing before with
  | done unsuccessful =>
    obtain ⟨rfl, rfl⟩ := Runs.done_iff.mp run
    exact rule.unsuccessful failed unsuccessful
  | rollback _ ih =>
    obtain ⟨reply, middle, answered, later⟩ := Runs.call_iff.mp run
    exact ih reply (rule.rollback failed answered) later
  | requestStop _ ih =>
    obtain ⟨reply, middle, answered, later⟩ := Runs.call_iff.mp run
    exact ih reply (rule.requestStop failed answered) later

/-- One awaited operation: the attempt goes on only when it succeeded. -/
theorem ended_of_execute (rule : AttemptRule answers Starting Working Failed Ended)
    {op : TSemanticOp} {next : WorkflowReply (.execute op) → Task}
    (thrown : ∀ ex, Stopped (next (.error ex)))
    (failed : ∀ result, result.ok = false → Stopped (next (.ok result)))
    (succeeded : ∀ {middle} operation, operation.ok = true → Working op.deferred middle →
      Runs answers (next (.ok operation)) middle result after →
      Ended result after) (ready : Working none before ∨ Starting before ∧ op.Opens)
    (run : Runs answers (.call (WorkflowCommand.execute op) next) before result after) :
    Ended result after := by
  obtain ⟨reply, middle, answered, later⟩ := Runs.call_iff.mp run
  have outcome := rule.execute ready answered
  cases reply with
  | error ex =>
    exact rule.ended_of_stopped (thrown ex) outcome later
  | ok operation =>
    cases ok : operation.ok with
    | false =>
      simp only [ok, Bool.false_eq_true, ↓reduceIte] at outcome
      exact rule.ended_of_stopped (failed operation ok) outcome later
    | true =>
      simp only [ok, ↓reduceIte] at outcome
      exact succeeded operation ok outcome later

theorem ended_of_finishCommit {report : TCommitResult} (ended : Ended (commitVerdict report) before)
    (run : Runs answers (finishCommit report) before result after) : Ended result after := by
  rw [finishCommit_eq_done] at run
  obtain ⟨rfl, rfl⟩ := Runs.done_iff.mp run
  exact ended

theorem ended_of_commit (rule : AttemptRule answers Starting Working Failed Ended)
    (working : Working none before) (run : Runs answers commitAndFinish before result after) :
    Ended result after := by
  obtain ⟨reply, middle, answered, later⟩ := Runs.call_iff.mp run
  have outcome := rule.commit working answered
  cases reply with
  | error ex =>
    exact rule.ended_of_stopped (.raise _) outcome later
  | ok report =>
    exact ended_of_finishCommit outcome later

/-- The fused operation and commit decides how the workflow ends. -/
theorem ended_of_executeFinalAndCommit (rule : AttemptRule answers Starting Working Failed Ended)
    {pending : Option TUpdateCustomerPayment} {op : TSemanticOp}
    (ready : Working pending before ∧ op.Finishes pending ∨ Starting before ∧ op.Opens)
    (run : Runs answers (executeFinalAndFinish op) before result after) : Ended result after := by
  obtain ⟨reply, middle, answered, later⟩ := Runs.call_iff.mp run
  have outcome := rule.executeFinalAndCommit ready answered
  cases reply with
  | error ex =>
    exact rule.ended_of_stopped (.raise _) outcome later
  | ok final =>
    dsimp only [finishFinal] at outcome later
    split at later
    · rename_i succeeded
      rw [if_pos succeeded] at outcome
      exact ended_of_finishCommit outcome later
    · rename_i failed
      rw [if_neg failed] at outcome
      rcases outcome with stopped | ⟨ambiguous, ended⟩
      · exact rule.ended_of_stopped (.failOperation _ _ _) stopped later
      · rw [failOperation, if_pos (.inr ambiguous)] at later
        obtain ⟨rfl, rfl⟩ := Runs.done_iff.mp later
        exact ended

/-- Every run of a disciplined workflow ends as the rule says. -/
theorem ended_of_disciplined (rule : AttemptRule answers Starting Working Failed Ended)
    {pending : Option TUpdateCustomerPayment} {task : Task}
    (disciplined : Disciplined pending task) (working : Working pending before)
    (run : Runs answers task before result after) : Ended result after := by
  induction disciplined generalizing before with
  | stopped stops =>
    exact rule.ended_of_stopped stops (rule.giveUp working) run
  | execute thrown failed _ ih =>
    exact rule.ended_of_execute thrown failed (fun operation ok working later =>
        ih operation ok working later)
      (.inl working) run
  | executeBatch direct thrown failed _ ih =>
    obtain ⟨reply, middle, answered, later⟩ := Runs.call_iff.mp run
    have outcome := rule.executeBatch working direct answered
    cases reply with
    | error ex =>
      exact rule.ended_of_stopped (thrown ex) outcome later
    | ok batch =>
      cases ok : batch.ok with
      | false =>
        simp only [ok, Bool.false_eq_true, ↓reduceIte] at outcome
        exact rule.ended_of_stopped (failed batch ok) outcome later
      | true =>
        simp only [ok, ↓reduceIte] at outcome
        exact ih batch ok outcome later
  | commit =>
    exact rule.ended_of_commit working run
  | executeFinalAndCommit finishes =>
    exact rule.ended_of_executeFinalAndCommit (.inl ⟨working, finishes⟩) run

/-- Every attempt at one of the five workflows ends as the rule says. -/
theorem ended_of_task (rule : AttemptRule answers Starting Working Failed Ended)
    {inputs : TxInputs} (starting : Starting before)
    (run : Runs answers inputs.task before result after) : Ended result after := by
  have opening := task_opening inputs
  generalize inputs.task = task at run opening
  cases opening with
  | execute opens thrown failed succeeded =>
    exact rule.ended_of_execute thrown failed (fun operation ok working later =>
        rule.ended_of_disciplined (succeeded operation ok) working later)
      (.inr ⟨starting, opens⟩) run
  | @executeFinalAndCommit op opens =>
    have ready : Working none before ∧ op.Finishes none ∨ Starting before ∧ op.Opens :=
      .inr ⟨starting, opens⟩
    exact rule.ended_of_executeFinalAndCommit ready run

end AttemptRule

end PortableTpcc
