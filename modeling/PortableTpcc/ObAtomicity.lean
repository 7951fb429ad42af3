import PortableTpcc.ObAdapter
import PortableTpcc.ObServer
import PortableTpcc.WorkflowDiscipline

namespace PortableTpcc.Ob

/-!
# Workflows are atomic on OceanBase

The session does not keep a workflow in one transaction.  A statement that
fails is rolled back, the next one would begin a new transaction, and a
commit without a transaction is reported as a success.  The customer update
of a Payment is not even sent when the workflow asks for it.

Atomicity comes from the discipline of the workflows.  While an attempt is
working, the open transaction on the server holds exactly the writes that the
workflow has asked for, except for the update that is kept back; after a
failure no commit follows.
-/

/-- The server's answers when every `ROLLBACK` succeeds. -/
def steadyAnswers (id : Nat) : Answers driverFace Server :=
  fun before command reply after =>
    ∃ faults : Faults, faults.rollbackFails = false ∧
      serverAnswers id faults before command reply after

/-- The writes that a command of the workflow asks for. -/
def commandWrites : WorkflowCommand → List Write
  | .execute op => writesOf op
  | .executeBatch ops => ops.flatMap writesOf
  | .executeFinalAndCommit op => writesOf op
  | _ => []

/-- The reply says that the transaction was committed. -/
def reportsCommitted : (command : WorkflowCommand) → WorkflowReply command → Bool
  | .commit, .ok report => report.outcome = .committed
  | .executeFinalAndCommit _, .ok final => final.commit.outcome = .committed
  | _, _ => false

/-- What a workflow has asked for, and what it was told. -/
structure Journal where
  issued : List Write := []
  reported : Bool := false
deriving Repr, DecidableEq

/-- Keep a journal of a workflow next to the state of its adapter. -/
def journaled {σ : Type} (answers : Answers workflowFace σ) : Answers workflowFace (σ × Journal) :=
  fun before command reply after =>
    answers before.1 command reply after.1 ∧ after.2 =
        { issued := before.2.issued ++ commandWrites command
          reported := before.2.reported || reportsCommitted command reply }

/-- A workflow on the adapter, with its journal. -/
def workflowAnswers (id : Nat) : Answers workflowFace ((Transaction × Server) × Journal) :=
  journaled (implementedAnswers implementation (steadyAnswers id))

/-! ## One statement -/

section

variable {id : Nat} {base : List Txn} {writes : List Write}

/-- Nothing is open that the session does not know of, or committed. -/
def Lost (base : List Txn) (state : Session × Server) : Prop :=
  state.2.committed = base ∧ (state.1.inTxn = false → state.2.current = none)

/-- The session's transaction holds exactly these writes. -/
structure Holds (id : Nat) (base : List Txn) (writes : List Write)
    (state : Session × Server) : Prop where
  inTxn : state.1.inTxn = true
  current : state.2.current = some { session := id, writes }
  committed : state.2.committed = base

/-- The session's transaction holds these writes, or is yet to be opened. -/
def Prepared (id : Nat) (base : List Txn) (writes : List Write) (state : Session × Server) : Prop :=
  Holds id base writes state ∨ state.1.inTxn = false ∧ state.2.current = none ∧
    state.2.committed = base ∧ writes = []

/-- A success goes on from here, and a failure has lost the transaction. -/
def OrLost {α : Type} (base : List Txn) (goesOn : Session × Server → Prop) :
    Except StdException α → Session × Server → Prop
  | .ok _ => goesOn
  | .error _ => Lost base

theorem Holds.lost {state : Session × Server} (holds : Holds id base writes state) :
    Lost base state :=
  ⟨holds.committed, fun outside => by simp [holds.inTxn] at outside⟩

theorem Prepared.lost {state : Session × Server} (prepared : Prepared id base writes state) :
    Lost base state := by
  rcases prepared with holds | ⟨_, closed, committed, _⟩
  · exact holds.lost
  · exact ⟨committed, fun _ => closed⟩

theorem checkShutdown_prepared : Ensures (steadyAnswers id) (Prepared id base writes) checkShutdown
      (OrLost base (Prepared id base writes)) := by
  rintro ⟨session, server⟩ result ⟨other, later⟩ prepared acts
  obtain ⟨flag, ⟨_, _, _, rfl⟩, rfl, rfl⟩ := acts_checkShutdown.mp acts
  cases flag with
  | false => exact prepared
  | true => exact prepared.lost

theorem ensureTxn_holds : Ensures (steadyAnswers id) (Prepared id base writes) ensureTxn
      (OrLost base (Holds id base writes)) := by
  rintro ⟨session, server⟩ result ⟨other, later⟩ prepared acts
  have entered := acts_ensureTxn.mp acts
  rcases prepared with holds | ⟨outside, closed, committed, rfl⟩
  · rw [if_pos holds.inTxn] at entered
    obtain ⟨rfl, same⟩ := entered
    rw [same]
    exact holds
  · dsimp only at outside closed committed
    simp only [outside, Bool.false_eq_true, ↓reduceIte] at entered
    obtain ⟨⟨_, _, answered⟩, rfl⟩ := entered
    cases result with
    | ok _ =>
      obtain rfl : later = server.start id := answered
      refine ⟨rfl, rfl, ?_⟩
      simp [Server.start, closed, committed]
    | error ex =>
      obtain ⟨_, rfl⟩ := answered
      exact ⟨committed, fun _ => closed⟩

theorem exec_holds (statement : Statement) :
    Ensures (steadyAnswers id) (Holds id base writes) (do Action.orThrow (← ask (.exec statement)))
      (OrLost base (Holds id base (writes ++ statement.writes))) := by
  rintro ⟨session, server⟩ result after holds acts
  obtain ⟨reply, middle, ⟨_, _, answered⟩, later⟩ := acts_ask_bind.mp acts
  obtain ⟨rfl, rfl⟩ := acts_orThrow.mp later
  have current : server.current = some { session := id, writes } := holds.current
  have inside : session.inTxn = true := holds.inTxn
  cases result with
  | ok value =>
    obtain rfl : middle = server.write statement.writes := answered
    exact ⟨holds.inTxn, by simp [Server.write, current], holds.committed⟩
  | error ex =>
    have stillKnown : middle.committed = base := by
      obtain ⟨_, rfl | ⟨part, _, rfl⟩⟩ := answered <;> exact holds.committed
    exact ⟨stillKnown, fun outside => by simp [inside] at outside⟩

/-- A statement joins the open transaction, or ends it and changes nothing. -/
theorem executeStatement_holds (statement : Statement) :
    Ensures (steadyAnswers id) (Prepared id base writes) (executeStatement statement)
      (OrLost base (Holds id base (writes ++ statement.writes))) := by
  have body : Ensures (steadyAnswers id) (Prepared id base writes) (do
          checkShutdown
          ensureTxn
          Action.orThrow (← ask (.exec statement)))
        (OrLost base (Holds id base (writes ++ statement.writes))) :=
    .bind_of checkShutdown_prepared
      (fun _ => .bind_of ensureTxn_holds (fun _ => exec_holds statement)
        fun _ _ lost => lost)
      fun _ _ lost => lost
  rintro ⟨session, server⟩ result after prepared acts
  have caught := acts_resetTxnOnError.mp acts
  cases result with
  | ok value =>
    exact body prepared caught
  | error ex =>
    obtain ⟨middle, ran, resetting⟩ := caught
    have lost : Lost base middle := body prepared ran
    obtain ⟨_, reset⟩ := acts_resetTxn.mp resetting
    split at reset
    · obtain ⟨⟨faults, succeeds, answered⟩, _⟩ := reset
      have aborted : after.2 = middle.2.abort := by
        simpa [serverAnswers, succeeds] using answered
      exact ⟨by rw [aborted]; exact lost.1, fun _ => by rw [aborted]; rfl⟩
    · rename_i outside
      rw [reset]
      exact ⟨lost.1, fun _ => lost.2 (by
        simpa [Session.markException] using outside)⟩

/-! ## One operation -/

/-- The transaction works, and an update may be kept back. -/
structure Open (id : Nat) (base : List Txn) (pending : Option TUpdateCustomerPayment)
    (writes : List Write) (state : Transaction × Server) : Prop where
  usable : state.1.terminal = false
  kept : state.1.pendingPaymentUpdate = pending
  holds : Holds id base writes (state.1.session, state.2)

/-- The transaction can send its next statement. -/
structure Ready (id : Nat) (base : List Txn) (writes : List Write)
    (state : Transaction × Server) : Prop where
  usable : state.1.terminal = false
  kept : state.1.pendingPaymentUpdate = none
  prepared : Prepared id base writes (state.1.session, state.2)

/-- The transaction has committed nothing and must not go on. -/
def Dropped (base : List Txn) (state : Transaction × Server) : Prop :=
  Lost base (state.1.session, state.2)

variable {state : Transaction × Server}

theorem Open.ready (opened : Open id base none writes state) : Ready id base writes state :=
  ⟨opened.usable, opened.kept, .inl opened.holds⟩

variable {pending : Option TUpdateCustomerPayment}

theorem Open.dropped (opened : Open id base pending writes state) : Dropped base state :=
  opened.holds.lost

/-- A call keeps nothing by itself; its success leaves a known transaction. -/
def Ends (id : Nat) (base : List Txn) (pending : Option TUpdateCustomerPayment)
    (writes : List Write) (Succeeds : α → Prop) (result : Except StdException α)
    (state : Transaction × Server) : Prop :=
  Dropped base state ∧ ∀ value, result = .ok value → Succeeds value →
    Open id base pending writes state

/-- How an operation ends. -/
abbrev OpEnds (id : Nat) (base : List Txn) (pending : Option TUpdateCustomerPayment)
    (writes : List Write) : Except StdException TOperationResult → Transaction × Server → Prop :=
  Ends id base pending writes fun operation => operation.ok = true

variable {α : Type} {Succeeds : α → Prop}

theorem Ends.of_open {result : Except StdException α} (opened : Open id base pending writes state) :
    Ends id base pending writes Succeeds result state :=
  ⟨opened.dropped, fun _ _ _ => opened⟩

theorem Ends.of_dropped {result : Except StdException α} (dropped : Dropped base state)
    (unsuccessful : ∀ value, result = .ok value → ¬ Succeeds value) :
    Ends id base pending writes Succeeds result state :=
  ⟨dropped, fun value returned succeeds => absurd succeeds (unsuccessful value returned)⟩

theorem Ends.of_error {ex : StdException} (dropped : Dropped base state) :
    Ends id base pending writes Succeeds (.error ex) state :=
  .of_dropped dropped nofun

/-- An operation that returns a failure from a working transaction. -/
theorem Ends.failOp {errorClass : EErrorClass} {message code : String}
    (dropped : Dropped base state) :
    OpEnds id base pending writes (.ok (PortableTpcc.failOp errorClass message code)) state := by
  refine .of_dropped dropped ?_
  rintro _ ⟨⟩
  simp

/-- A statement that is sent joins the transaction, or ends it. -/
theorem send_ends (statement : Statement) :
    Ensures (steadyAnswers id) (Ready id base writes) (send statement)
      (Ends id base none (writes ++ statement.writes) fun _ => True) := by
  rintro ⟨transaction, server⟩ result ⟨after, final⟩ ready acts
  rw [send, onSession, acts_zoom] at acts
  obtain ⟨session, executed, changed⟩ := acts
  have outcome := executeStatement_holds statement ready.prepared executed
  obtain rfl : after = { transaction with session } := changed
  cases result with
  | ok reply =>
    exact .of_open ⟨ready.usable, ready.kept, outcome⟩
  | error ex =>
    exact .of_error outcome

variable {statement : Statement}

theorem send_bind {rest : statement.Reply → TransactionM α} {later : List Write}
    (goesOn : ∀ reply, Ensures (steadyAnswers id) (Open id base none (writes ++ statement.writes))
      (rest reply) (Ends id base pending later Succeeds)) :
    Ensures (steadyAnswers id) (Ready id base writes)
      (send statement >>= rest) (Ends id base pending later Succeeds) := by
  refine .bind_of (send_ends statement) (fun reply => ?_) ?_
  · exact (goesOn reply).mono (fun _ ends => ends.2 reply rfl trivial) fun _ _ ends => ends
  · exact fun _ _ ends => .of_error ends.1

/-- What a transaction can do that can send its next statement, an open one can do. -/
theorem ensures_of_ready {computation : TransactionM α}
    {After : Except StdException α → Transaction × Server → Prop}
    (ensured : Ensures (steadyAnswers id) (Ready id base writes) computation After) :
    Ensures (steadyAnswers id) (Open id base none writes) computation After :=
  ensured.mono (fun _ opened => opened.ready) fun _ _ ends => ends

theorem failOp_ends {errorClass : EErrorClass} {message code : String} {later : List Write} :
    Ensures (steadyAnswers id) (Open id base none writes)
      (pure (failOp errorClass message code)) (OpEnds id base pending later) :=
  .pure fun _ opened => .failOp opened.dropped

theorem queryOp_ends (text : Query) (read : List text.Row → TOperationResult) :
    Ensures (steadyAnswers id) (Ready id base writes) (queryOp text read)
      (OpEnds id base none writes) :=
  send_bind fun _ => .pure fun _ opened => .of_open (by simpa [Statement.writes] using opened)

theorem mapAffected_ends (text : Modify) (what : String) :
    Ensures (steadyAnswers id) (Ready id base writes) (mapAffected text what)
      (OpEnds id base none (writes ++ text.writes)) :=
  send_bind fun _ => .pure fun _ opened => .of_open opened

theorem modifyThen_ends {text : Modify} {expected : Nat} {what : String}
    {next : TransactionM TOperationResult} {later : List Write}
    (goesOn : Ensures (steadyAnswers id) (Open id base none (writes ++ text.writes))
      next (OpEnds id base none later)) : Ensures (steadyAnswers id) (Ready id base writes)
      (modifyThen text expected what next) (OpEnds id base none later) := by
  refine send_bind fun actual => ?_
  split
  · exact goesOn
  · rename_i mismatch
    refine .pure fun state opened => .of_dropped opened.dropped ?_
    rintro _ ⟨⟩
    exact mismatch

/-- A change outside the session and the pending update is no matter. -/
theorem Open.of_eq {before after : Transaction} {server : Server}
    (opened : Open id base pending writes (before, server))
    (usable : after.terminal = before.terminal)
    (kept : after.pendingPaymentUpdate = before.pendingPaymentUpdate)
    (session : after.session = before.session) : Open id base pending writes (after, server) := by
  refine ⟨usable.trans opened.usable, kept.trans opened.kept, ?_⟩
  have holds := opened.holds
  simp only [session]
  exact holds

theorem reserveDistrictOrderId_ends (w d : Int) :
    Ensures (steadyAnswers id) (Ready id base writes) (reserveDistrictOrderId w d)
      (OpEnds id base none (writes ++ [.districtNextOrder w d])) := by
  refine send_bind fun rows => ?_
  simp only [Statement.writes, List.append_nil]
  match rows with
  | [] => exact failOp_ends
  | (nextId, tax) :: _ =>
    exact ensures_of_ready (modifyThen_ends (.pure fun _ opened => .of_open opened))

theorem createOrder_ends (request : TCreateOrder) :
    Ensures (steadyAnswers id) (Ready id base writes) (createOrder request) (OpEnds id base none
      (writes ++ [.order request, .newOrder request])) := by
  refine modifyThen_ends (ensures_of_ready (modifyThen_ends ?_))
  refine .pure fun _ opened => .of_open ?_
  simpa [Modify.writes] using opened

theorem countRecentLowStock_ends (w d threshold recentOrderCount : Int) :
    Ensures (steadyAnswers id) (Ready id base writes)
      (countRecentLowStock w d threshold recentOrderCount) (OpEnds id base none writes) := by
  refine send_bind fun rows => ?_
  simp only [Statement.writes, List.append_nil]
  match rows with
  | [] => exact failOp_ends
  | nextOid :: _ => exact ensures_of_ready (queryOp_ends _ _)

theorem applyPaymentToLocation_ends (request : TApplyPaymentToLocation) :
    Ensures (steadyAnswers id) (Ready id base writes) (applyPaymentToLocation request)
      (OpEnds id base none (writes ++ [.location request])) := by
  refine send_bind fun reply => ?_
  split
  · exact failOp_ends
  · split
    · exact failOp_ends
    · refine .modify_bind _ (fun state opened => opened.of_eq rfl rfl rfl)
        (.pure fun _ opened => .of_open opened)

theorem completeOrderDelivery_ends (request : TCompleteOrderDelivery) :
    Ensures (steadyAnswers id) (Ready id base writes) (completeOrderDelivery request)
      (OpEnds id base none (writes ++ writesOf (.completeOrderDelivery request))) := by
  refine send_bind fun deleted => ?_
  split
  · exact failOp_ends
  · split
    · rename_i several
      refine .pure fun _ opened => .of_dropped opened.dropped ?_
      rintro _ ⟨⟩
      simp [checkAffected, several]
    · refine ensures_of_ready (modifyThen_ends (ensures_of_ready (modifyThen_ends ?_)))
      refine .pure fun _ opened => .of_open ?_
      simpa [Statement.writes, Modify.writes, writesOf] using opened

theorem loadDeliveryPrefetch_ends (w : Int) : Ensures (steadyAnswers id) (Ready id base writes)
      (loadDeliveryPrefetch w) (OpEnds id base none writes) := by
  refine send_bind fun sets => ?_
  simp only [Statement.writes, Multi.writes, List.append_nil]
  split
  · exact failOp_ends
  · refine .modify_bind (Open id base none writes) (fun state opened => opened.of_eq rfl rfl rfl) ?_
    split
    · exact .modify_bind (Open id base none writes) (fun state opened => opened.of_eq rfl rfl rfl)
        (.pure fun _ opened => .of_open opened)
    · refine ensures_of_ready (send_bind fun infos => ?_)
      simp only [Statement.writes, Multi.writes, List.append_nil]
      match infos with
      | none => exact failOp_ends
      | some (orders, lines) =>
        refine .modify_bind (Open id base none writes)
          (fun state opened => opened.of_eq rfl rfl rfl) ?_
        split
        · exact failOp_ends
        · exact .modify_bind (Open id base none writes)
            (fun state opened => opened.of_eq rfl rfl rfl) (.pure fun _ opened => .of_open opened)

/-- The operation is one that may come next in the workflow. -/
structure Enabled (id : Nat) (base : List Txn) (writes : List Write) (op : TSemanticOp)
    (state : Transaction × Server) : Prop where
  ready : Ready id base writes state
  first : state.1.session.inTxn = true ∨ op.Opens ∧ state.1.deliveryPrefetch.loaded = false

variable {op : TSemanticOp}

/-- With a transaction at hand the next operation is part of it. -/
theorem Enabled.opened (enabled : Enabled id base writes op state)
    (inside : state.1.session.inTxn = true) : Open id base none writes state := by
  refine ⟨enabled.ready.usable, enabled.ready.kept, ?_⟩
  rcases enabled.ready.prepared with holds | ⟨outside, _⟩
  · exact holds
  · simp [inside] at outside

theorem Open.enabled (opened : Open id base none writes state) (op : TSemanticOp) :
    Enabled id base writes op state :=
  ⟨opened.ready, .inl opened.holds.inTxn⟩

/-- The districts are read once; later the answers come from memory. -/
theorem getOldestNewOrder_ends (w d : Int) :
    Ensures (steadyAnswers id) (Enabled id base writes (.getOldestNewOrder w d))
      (getOldestNewOrder w d) (OpEnds id base none writes) := by
  refine .bind_of (.get_bind fun transaction => ?_ :
    Ensures (steadyAnswers id) _ (ensureDeliveryPrefetch w)
    (OpEnds id base none writes)) (fun prefetched => ?_)
    fun _ _ ends => .of_error ends.1
  · split
    · rename_i cached
      refine .pure ?_
      rintro ⟨own, server⟩ ⟨enabled, rfl⟩
      refine .of_open (enabled.opened ?_)
      rcases enabled.first with inside | ⟨_, unloaded⟩
      · exact inside
      · dsimp only at unloaded
        simp [unloaded] at cached
    · refine .modify_bind (Ready id base writes) ?_ (loadDeliveryPrefetch_ends w)
      rintro ⟨own, server⟩ ⟨enabled, rfl⟩
      exact ⟨enabled.ready.usable, enabled.ready.kept, enabled.ready.prepared⟩
  · cases succeeded : prefetched.ok with
    | false =>
      refine .pure fun state ends => .of_dropped ends.1 ?_
      rintro _ ⟨⟩
      simp [succeeded]
    | true =>
      simp only [Bool.not_true, Bool.false_eq_true, ↓reduceIte]
      refine .get_bind fun transaction => .pure fun state ends => ?_
      exact .of_open (ends.1.2 prefetched rfl succeeded)

theorem getDeliveryOrderInfo_ends (w d o : Int) :
    Ensures (steadyAnswers id) (Open id base none writes)
      (getDeliveryOrderInfo w d o) (OpEnds id base none writes) := by
  refine .get_bind fun transaction => ?_
  split
  · exact .pure fun _ known => .of_open known.1
  · intro before result after known acts
    refine send_bind (fun rows => ?_) known.1.ready acts
    simp only [Statement.writes, List.append_nil]
    match rows with
    | [] => exact failOp_ends
    | customerId :: _ => exact ensures_of_ready (queryOp_ends _ _)

theorem getItems_ends (itemIds : List Int) : Ensures (steadyAnswers id) (Open id base none writes)
      (getItems itemIds) (OpEnds id base none writes) := by
  unfold getItems
  dsimp only
  split
  · exact .pure fun _ opened => .of_open opened
  · split
    · exact failOp_ends
    · exact ensures_of_ready (queryOp_ends _ _)

theorem getStocksForUpdate_ends (districtId : Int) (stocks : List TStockKey) :
    Ensures (steadyAnswers id) (Open id base none writes) (getStocksForUpdate districtId stocks)
      (OpEnds id base none writes) := by
  unfold getStocksForUpdate
  dsimp only
  split
  · exact .pure fun _ opened => .of_open opened
  · split
    · exact failOp_ends
    · exact ensures_of_ready (queryOp_ends _ _)

theorem updateCustomerPayment_ends (request : TUpdateCustomerPayment) :
    Ensures (steadyAnswers id) (Open id base none writes) (updateCustomerPayment request)
      (OpEnds id base (some request) writes) :=
  .modify_bind (Open id base (some request) writes)
    (fun _ opened => ⟨opened.usable, rfl, opened.holds⟩) (.pure fun _ opened => .of_open opened)

/-- The writes of an operation that are sent with it. -/
def sentWrites : TSemanticOp → List Write
  | .updateCustomerPayment _ => []
  | op => writesOf op

/-- The update that is kept back, as a write. -/
def pendingWrites (pending : Option TUpdateCustomerPayment) : List Write :=
  pending.toList.map .customerPayment

theorem writesOf_eq_sentWrites (op : TSemanticOp) :
    writesOf op = sentWrites op ++ pendingWrites op.deferred := by
  cases op <;> rfl

theorem operation_ends (op : TSemanticOp) :
    Ensures (steadyAnswers id) (Enabled id base writes op) (operation op)
      (OpEnds id base op.deferred (writes ++ sentWrites op)) := by
  intro before result after enabled acts
  have opened : ¬ op.Opens → Open id base none writes before := by
    intro closed
    refine enabled.opened (enabled.first.resolve_right ?_)
    exact fun opens => closed opens.1
  have reads : sentWrites op = [] → op.deferred = none → OpEnds id base none writes result after →
      OpEnds id base op.deferred (writes ++ sentWrites op) result after := by
    intro nothing direct ends
    rw [nothing, direct, List.append_nil]
    exact ends
  cases op with
  | getCustomerById w d c =>
    have sent := acts_get_bind.mp acts
    exact reads rfl rfl (queryOp_ends _ _ enabled.ready sent)
  | getCustomersByLastName w d lastName =>
    have sent := acts_get_bind.mp acts
    exact reads rfl rfl (queryOp_ends _ _ enabled.ready sent)
  | getWarehouseTax w =>
    exact reads rfl rfl (queryOp_ends _ _ enabled.ready acts)
  | reserveDistrictOrderId w d =>
    exact reserveDistrictOrderId_ends w d enabled.ready acts
  | createOrder request =>
    exact createOrder_ends request enabled.ready acts
  | getItems itemIds =>
    exact reads rfl rfl (getItems_ends itemIds (opened not_false) acts)
  | getStocksForUpdate districtId stocks =>
    exact reads rfl rfl (getStocksForUpdate_ends districtId stocks (opened not_false) acts)
  | updateStock request =>
    exact mapAffected_ends _ _ enabled.ready acts
  | insertOrderLine request =>
    exact mapAffected_ends _ _ enabled.ready acts
  | applyPaymentToLocation request =>
    exact applyPaymentToLocation_ends request enabled.ready acts
  | getCustomerData w d c =>
    exact reads rfl rfl (queryOp_ends _ _ enabled.ready acts)
  | updateCustomerPayment request =>
    simpa [sentWrites, TSemanticOp.deferred] using
      updateCustomerPayment_ends request (opened not_false) acts
  | insertPaymentHistory request =>
    exact mapAffected_ends _ _ enabled.ready acts
  | getLatestCustomerOrder w d c =>
    exact reads rfl rfl (queryOp_ends _ _ enabled.ready acts)
  | getOrderStatusLines w d o =>
    exact reads rfl rfl (queryOp_ends _ _ enabled.ready acts)
  | getOldestNewOrder w d =>
    exact reads rfl rfl (getOldestNewOrder_ends w d enabled acts)
  | getDeliveryOrderInfo w d o =>
    exact reads rfl rfl (getDeliveryOrderInfo_ends w d o (opened not_false) acts)
  | completeOrderDelivery request =>
    exact completeOrderDelivery_ends request enabled.ready acts
  | applyDeliveryToCustomer request =>
    exact mapAffected_ends _ _ enabled.ready acts
  | countRecentLowStock w d threshold recentOrderCount =>
    exact reads rfl rfl (countRecentLowStock_ends w d threshold recentOrderCount
      enabled.ready acts)

/-- An exception becomes a failed result, so a call always returns one. -/
theorem catchOp_ends {computation : TransactionM TOperationResult}
    {Before : Transaction × Server → Prop}
    (body : Ensures (steadyAnswers id) Before computation (OpEnds id base pending writes)) :
    Ensures (steadyAnswers id) Before (catchOp computation)
      (Returns (Open id base pending writes) (Dropped base)) := by
  intro before result after initially acts
  obtain ⟨value, middle, ran, later⟩ := acts_attempt_bind.mp acts
  have ends := body initially ran
  cases value with
  | ok operation =>
    obtain ⟨rfl, rfl⟩ := acts_pure.mp later
    refine ⟨operation, rfl, ?_⟩
    cases succeeded : operation.ok with
    | false => exact ends.1
    | true => exact ends.2 operation rfl succeeded
  | error ex =>
    obtain ⟨rfl, rfl⟩ := acts_pure.mp later
    exact ⟨_, rfl, ends.1⟩

theorem execute_ends (op : TSemanticOp) :
    Ensures (steadyAnswers id) (Enabled id base writes op) (execute op)
      (Returns (Open id base op.deferred (writes ++ sentWrites op)) (Dropped base)) := by
  intro before result after enabled acts
  rw [execute, acts_get_bind] at acts
  simp only [enabled.ready.usable, Bool.false_eq_true, ↓reduceIte] at acts
  exact catchOp_ends (operation_ends op) enabled acts

/-! ## Batches -/

/-- How a batch ends. -/
abbrev BatchEnds (id : Nat) (base : List Txn) (writes : List Write) :
    Except StdException TBatchResult → Transaction × Server → Prop :=
  Ends id base none writes fun batch => batch.ok = true

theorem catchBatch_ends {computation : TransactionM TBatchResult}
    {Before : Transaction × Server → Prop}
    (body : Ensures (steadyAnswers id) Before computation (BatchEnds id base writes)) :
    Ensures (steadyAnswers id) Before (catchBatch computation) (BatchEnds id base writes) := by
  intro before result after initially acts
  obtain ⟨value, middle, ran, later⟩ := acts_attempt_bind.mp acts
  have ends := body initially ran
  cases value with
  | ok batch =>
    obtain ⟨rfl, rfl⟩ := acts_pure.mp later
    exact ends
  | error ex =>
    obtain ⟨rfl, rfl⟩ := acts_pure.mp later
    refine .of_dropped ends.1 ?_
    rintro _ ⟨⟩
    simp [failBatch]

theorem sendBatch_ends {read : statement.Reply → TBatchResult} :
    Ensures (steadyAnswers id) (Open id base none writes) (catchBatch do
        let reply ← send statement
        return read reply)
      (BatchEnds id base (writes ++ statement.writes)) :=
  catchBatch_ends (ensures_of_ready (send_bind fun _ => .pure fun _ opened => .of_open opened))

theorem executeBatchSequentially_ends {ops : List TSemanticOp}
    (direct : ∀ op ∈ ops, op.deferred = none) :
    Ensures (steadyAnswers id) (Open id base none writes) (executeBatchSequentially ops)
      (BatchEnds id base (writes ++ ops.flatMap writesOf)) := by
  intro before result after opened acts
  have step : ∀ issued, ∀ op ∈ ops, Ensures (steadyAnswers id)
      (Open id base none (writes ++ issued.flatMap writesOf)) (execute op)
      (Returns (Open id base none (writes ++ (issued ++ [op]).flatMap writesOf))
        (Dropped base)) := by
    intro issued op member before result after opened acts
    have ends := execute_ends op (opened.enabled op) acts
    have sent : writesOf op = sentWrites op := by
      rw [writesOf_eq_sentWrites, direct op member]
      simp [pendingWrites]
    simpa [direct op member, sent] using ends
  have initially : Open id base none (writes ++ [].flatMap writesOf) before := by
    simpa using opened
  obtain ⟨batch, rfl, outcome⟩ :=
    executeInOrder_ensures (fun issued => Open id base none (writes ++ issued.flatMap writesOf))
      (Dropped base) step rfl [] initially acts
  cases succeeded : batch.ok with
  | true =>
    rw [succeeded] at outcome
    exact .of_open (by simpa using outcome)
  | false =>
    rw [succeeded] at outcome
    refine .of_dropped outcome ?_
    rintro _ ⟨⟩
    simp [succeeded]

theorem executeBatch_ends {ops : List TSemanticOp} (direct : ∀ op ∈ ops, op.deferred = none) :
    Ensures (steadyAnswers id) (Open id base none writes) (executeBatch ops)
      (BatchEnds id base (writes ++ ops.flatMap writesOf)) := by
  intro before result after opened acts
  rw [executeBatch, acts_get_bind] at acts
  simp only [opened.usable, Bool.false_eq_true, ↓reduceIte] at acts
  split at acts
  · rename_i nothing
    obtain ⟨rfl, rfl⟩ := acts_pure.mp acts
    exact .of_open (by simpa [nothing] using opened)
  · split at acts
    · rename_i all
      obtain rfl := eq_updateStock_of_mapM all
      unfold executeStockBatch at acts
      dsimp only at acts
      split at acts
      · exact executeBatchSequentially_ends direct opened acts
      · simpa [Statement.writes, Modify.writes, writesOf, List.flatMap_map,
          ← List.map_eq_flatMap] using sendBatch_ends opened acts
    · rename_i all
      obtain rfl := eq_insertOrderLine_of_mapM all
      unfold executeOrderLineBatch at acts
      split at acts
      · exact executeBatchSequentially_ends direct opened acts
      · simpa [Statement.writes, Modify.writes, writesOf, List.flatMap_map,
          ← List.map_eq_flatMap] using sendBatch_ends opened acts
    · rename_i all
      obtain rfl := eq_completeOrderDelivery_of_mapM all
      unfold executeCompleteDeliveryBatch at acts
      split at acts
      · obtain ⟨rfl, rfl⟩ := acts_throw.mp acts
        exact .of_error opened.dropped
      · simpa [Statement.writes, Multi.writes, List.flatMap_map] using sendBatch_ends opened acts
    · rename_i all
      obtain rfl := eq_applyDeliveryToCustomer_of_mapM all
      unfold executeApplyDeliveryBatch at acts
      split at acts
      · exact executeBatchSequentially_ends direct opened acts
      · simpa [Statement.writes, Modify.writes, writesOf, List.flatMap_map,
          ← List.map_eq_flatMap] using sendBatch_ends opened acts
    · exact executeBatchSequentially_ends direct opened acts

/-! ## The end of a transaction -/

/-- The transaction was committed as a whole, or not at all. -/
structure Concluded (id : Nat) (base : List Txn) (writes : List Write) (reported : Prop)
    (state : Session × Server) : Prop where
  outside : state.1.inTxn = false
  committed :
    state.2.committed = base ∨
      state.2.committed = base ++ [{ session := id, writes }]
  confirmed :
    reported → state.2.committed = base ++ [{ session := id, writes }]
  remaining :
    state.2.current = none ∨
      state.2.current = some { session := id, writes }

theorem sessionCommit_concluded : Ensures (steadyAnswers id) (Holds id base writes) sessionCommit
      fun result state => Concluded id base writes (result = .ok ()) state := by
  rintro ⟨session, server⟩ result ⟨other, later⟩ holds acts
  have current : server.current = some { session := id, writes } := holds.current
  have committed : server.committed = base := holds.committed
  have inside : session.inTxn = true := holds.inTxn
  obtain ⟨flag, checked, ⟨_, _, _, same⟩, outcome⟩ := sessionCommit_cases acts
  obtain rfl : server = checked := same.symm
  cases flag with
  | true =>
    obtain ⟨rfl, same⟩ := outcome
    obtain ⟨rfl, rfl⟩ := Prod.mk.inj same
    exact ⟨rfl, .inl committed, nofun, .inr current⟩
  | false =>
    simp only [Bool.false_eq_true, ↓reduceIte, inside] at outcome
    obtain ⟨⟨faults, _, answered⟩, rfl⟩ := outcome
    cases result with
    | ok _ =>
      obtain rfl : later = server.commit := answered
      have whole : server.commit.committed = base ++ [{ session := id, writes }] := by
        simp [Server.commit, committed, current]
      exact ⟨rfl, .inr whole, fun _ => whole, .inl rfl⟩
    | error ex =>
      have ended : later = server ∨ later = server.commit ∨ later = server.abort := by
        obtain ⟨_, ended⟩ := answered
        split at ended
        · exact .inl ended
        · exact .inr ended
      rcases ended with rfl | rfl | rfl
      · exact ⟨rfl, .inl committed, nofun, .inr current⟩
      · refine ⟨rfl, .inr ?_, nofun, .inl rfl⟩
        simp [Server.commit, committed, current]
      · exact ⟨rfl, .inl committed, nofun, .inl rfl⟩

theorem commit_concluded : Ensures (steadyAnswers id) (Open id base none writes) commit
      fun result state =>
        ∃ report, result = .ok report ∧ Concluded id base writes (report.outcome = .committed)
          (state.1.session, state.2) := by
  rintro ⟨transaction, server⟩ result after opened acts
  have usable : transaction.terminal = false := opened.usable
  rw [commit, acts_get_bind] at acts
  simp only [usable, Bool.false_eq_true, ↓reduceIte] at acts
  obtain ⟨value, middle, ran, later⟩ := acts_attempt_bind.mp acts
  have finished := acts_modify_bind.mp later
  obtain ⟨rfl, rfl⟩ := acts_pure.mp finished
  rw [onSession, acts_zoom] at ran
  obtain ⟨session, committing, changed⟩ := ran
  have concluded := sessionCommit_concluded opened.holds committing
  refine ⟨_, rfl, ?_⟩
  simp only [endTxn, changed]
  cases value with
  | ok _ =>
    exact ⟨concluded.outside, concluded.committed,
      fun _ => concluded.confirmed rfl, concluded.remaining⟩
  | error ex =>
    refine ⟨concluded.outside, concluded.committed, fun reported => ?_, concluded.remaining⟩
    simp only [commitResultOf, failedCommit] at reported
    split at reported <;> cases reported

/-- A rollback commits nothing and never says so. -/
theorem rollback_dropped : Ensures (steadyAnswers id) (Dropped base) rollback fun result state =>
        ∃ report, result = .ok report ∧ report.outcome ≠ .committed ∧ Dropped base state := by
  rintro ⟨transaction, server⟩ result after dropped acts
  rw [rollback, acts_get_bind] at acts
  dsimp only at acts
  split at acts
  · obtain ⟨rfl, rfl⟩ := acts_pure.mp acts
    exact ⟨_, rfl, by simp [inTerminalState], dropped⟩
  · obtain ⟨value, middle, ran, later⟩ := acts_attempt_bind.mp acts
    have finished := acts_modify_bind.mp later
    obtain ⟨rfl, rfl⟩ := acts_pure.mp finished
    rw [onSession, acts_zoom] at ran
    obtain ⟨session, resetting, changed⟩ := ran
    obtain ⟨rfl, reset⟩ := acts_resetTxn.mp resetting
    refine ⟨_, rfl, by simp [rollbackResultOf], ?_⟩
    simp only [Dropped, endTxn, changed]
    split at reset
    · obtain ⟨⟨faults, succeeds, answered⟩, rfl⟩ := reset
      have aborted : middle.2 = server.abort := by
        simpa [serverAnswers, succeeds] using answered
      rw [aborted]
      exact ⟨dropped.1, fun _ => rfl⟩
    · rw [Prod.mk.injEq] at reset
      rw [reset.1, reset.2]
      exact dropped

/-- How a fused operation and commit ends. -/
def FinalEnds (id : Nat) (base : List Txn) (writes : List Write)
    (result : Except StdException TFinalCommitResult) (state : Transaction × Server) : Prop :=
  ∃ final, result = .ok final ∧
      if final.operation.ok then
        Concluded id base writes (final.commit.outcome = .committed) (state.1.session, state.2)
      else
        Dropped base state ∧ final.commit.outcome ≠ .committed

/-- The commit follows a success, a rollback anything else. -/
theorem commitAfterOperation_ends (operation : TOperationResult) :
    Ensures (steadyAnswers id) (fun state => if operation.ok then Open id base none writes state
        else Dropped base state) (commitAfterOperation operation) (FinalEnds id base writes) := by
  intro before result after known acts
  unfold commitAfterOperation at acts
  cases succeeded : operation.ok with
  | true =>
    simp only [succeeded, Bool.not_true, Bool.false_eq_true, ↓reduceIte]
      at acts known
    rcases acts_bind.mp acts with ⟨report, middle, committing, returned⟩ | ⟨_, committing, _⟩
    · obtain ⟨rfl, rfl⟩ := acts_pure.mp returned
      obtain ⟨_, ⟨⟩, concluded⟩ := commit_concluded known committing
      refine ⟨_, rfl, ?_⟩
      simpa [succeeded] using concluded
    · obtain ⟨_, ⟨⟩, _⟩ := commit_concluded known committing
  | false =>
    simp only [succeeded, Bool.not_false, ↓reduceIte, Bool.false_eq_true]
      at acts known
    rcases acts_bind.mp acts with ⟨report, middle, rolling, returned⟩ | ⟨_, rolling, _⟩
    · obtain ⟨rfl, rfl⟩ := acts_pure.mp returned
      obtain ⟨_, ⟨⟩, unreported, dropped⟩ := rollback_dropped known rolling
      refine ⟨_, rfl, ?_⟩
      simpa [succeeded] using ⟨dropped, unreported⟩
    · obtain ⟨_, ⟨⟩, _⟩ := rollback_dropped known rolling

/-- A script that finishes the work, and the commit after it. -/
theorem sendFinal_ends {read : statement.Reply → TOperationResult} :
    Ensures (steadyAnswers id) (Open id base none writes) (catchFinal do
        let reply ← send statement
        commitAfterOperation (read reply))
      (FinalEnds id base (writes ++ statement.writes)) := by
  intro before result after opened acts
  obtain ⟨value, middle, ran, later⟩ := acts_attempt_bind.mp acts
  rcases acts_bind.mp ran with ⟨reply, sent, sending, finishing⟩ | ⟨ex, sending, rfl⟩
  · have joined := send_ends statement opened.ready sending
    have known :
        if (read reply).ok then
          Open id base none (writes ++ statement.writes) sent
        else
          Dropped base sent := by
      split
      · exact joined.2 reply rfl trivial
      · exact joined.1
    obtain ⟨final, rfl, ends⟩ := commitAfterOperation_ends (read reply) known finishing
    obtain ⟨rfl, rfl⟩ := acts_pure.mp later
    exact ⟨final, rfl, ends⟩
  · have dropped := (send_ends statement opened.ready sending).1
    have finished := acts_modify_bind.mp later
    obtain ⟨rfl, rfl⟩ := acts_pure.mp finished
    refine ⟨_, rfl, ?_⟩
    have unreported : ∀ cls code message, (failedCommit cls code message).outcome ≠ .committed := by
      intro cls code message
      simp only [failedCommit]
      split <;> simp
    simpa [failFinal] using ⟨dropped, unreported _ _ _⟩

theorem executeFinal_ends (direct : op.deferred = none) :
    Ensures (steadyAnswers id) (Enabled id base writes op)
      (executeFinal op) (FinalEnds id base (writes ++ writesOf op)) := by
  intro before result after enabled acts
  have sent : writesOf op = sentWrites op := by
    rw [writesOf_eq_sentWrites, direct]
    simp [pendingWrites]
  rcases acts_bind.mp acts with ⟨operation, middle, executed, finishing⟩ | ⟨ex, executed, _⟩
  · obtain ⟨_, ⟨⟩, outcome⟩ := execute_ends op enabled executed
    rw [direct, ← sent] at outcome
    exact commitAfterOperation_ends operation outcome finishing
  · obtain ⟨_, ⟨⟩, _⟩ := execute_ends op enabled executed

/-- The update that was kept back is sent with the history row. -/
theorem finishPayment_ends (update : TUpdateCustomerPayment) (history : TInsertPaymentHistory) :
    Ensures (steadyAnswers id) (Open id base none writes) (finishPayment update history)
      (FinalEnds id base (writes ++ [.customerPayment update, .history history])) := by
  unfold finishPayment
  split
  · intro before result after opened acts
    exact commitAfterOperation_ends _ (by simpa using opened.dropped) acts
  · exact sendFinal_ends

/-- Whatever finishes the workflow takes all its writes along. -/
theorem executeFinalAndCommit_ends (finishes : op.Finishes pending) :
    Ensures (steadyAnswers id) (Open id base pending writes) (executeFinalAndCommit op)
      (FinalEnds id base (writes ++ pendingWrites pending ++ writesOf op)) := by
  intro before result after opened acts
  rw [executeFinalAndCommit, acts_get_bind] at acts
  simp only [opened.usable, Bool.false_eq_true, ↓reduceIte, opened.kept]
    at acts
  cases pending with
  | some update =>
    obtain ⟨history, rfl⟩ := finishes
    have finishing := acts_modify_bind.mp acts
    have released : Open id base none writes
        ({ before.1 with pendingPaymentUpdate := none }, before.2) :=
      ⟨opened.usable, rfl, opened.holds⟩
    simpa [pendingWrites, writesOf] using finishPayment_ends update history released finishing
  | none =>
    have direct : op.deferred = none := finishes
    have other : Acts (steadyAnswers id) (executeFinal op) before result after →
        FinalEnds id base (writes ++ pendingWrites none ++ writesOf op)
          result after := by
      intro acts
      simpa [pendingWrites] using executeFinal_ends direct (opened.enabled op) acts
    cases op with
    | applyDeliveryToCustomer apply =>
      simpa [pendingWrites, writesOf, Statement.writes, Multi.writes]
        using sendFinal_ends opened acts
    | _ => exact other acts

/-! ## Whole workflows -/

/-- A fresh transaction on a connection without an open one. -/
def Starting (base : List Txn) (state : (Transaction × Server) × Journal) : Prop :=
  (∃ session : Session, state.1.1 = { session } ∧ session.inTxn = false) ∧
    state.1.2.current = none ∧ state.1.2.committed = base ∧ state.2 = {}

/-- The open transaction holds what the workflow has asked for. -/
def Working (id : Nat) (base : List Txn) (pending : Option TUpdateCustomerPayment)
    (state : (Transaction × Server) × Journal) : Prop :=
  ∃ writes, Open id base pending writes state.1 ∧ state.2.issued = writes ++ pendingWrites pending ∧
    state.2.reported = false

/-- Nothing was committed and nothing more will be. -/
def Failed (base : List Txn) (state : (Transaction × Server) × Journal) : Prop :=
  Dropped base state.1 ∧ state.2.reported = false

/-- How an attempt at a workflow ends. -/
structure Ended (id : Nat) (base : List Txn) (result : Except Thrown Bool)
    (state : (Transaction × Server) × Journal) : Prop where
  whole :
    state.1.2.committed = base ∨
      state.1.2.committed = base ++ [{ session := id, writes := state.2.issued }]
  confirmed :
    state.2.reported = true →
      state.1.2.committed = base ++ [{ session := id, writes := state.2.issued }]
  successful : result = .ok true → state.2.reported = true
  remaining :
    state.1.1.session.inTxn = false →
      state.1.2.current = none ∨
        state.1.2.current = some { session := id, writes := state.2.issued }

theorem ended_of_failed {result : Except Thrown Bool} {state : (Transaction × Server) × Journal}
    (failed : Failed base state) (unsuccessful : result ≠ .ok true) :
    Ended id base result state where
  whole := .inl failed.1.1
  confirmed := by simp [failed.2]
  successful := fun succeeds => absurd succeeds unsuccessful
  remaining := fun outside => .inl (failed.1.2 outside)

theorem ended_of_concluded {report : TCommitResult} {state : (Transaction × Server) × Journal}
    (concluded : Concluded id base state.2.issued (report.outcome = .committed)
      (state.1.1.session, state.1.2))
    (reported : state.2.reported = decide (report.outcome = .committed)) :
    Ended id base (commitVerdict report) state where
  whole := concluded.committed
  confirmed := fun said => concluded.confirmed (by simpa [reported] using said)
  successful := by
    intro succeeds
    rw [reported]
    unfold commitVerdict at succeeds
    split at succeeds
    · rename_i said
      exact decide_eq_true said
    · cases succeeds
  remaining := fun _ => concluded.remaining

theorem enabled_of_starting {state : (Transaction × Server) × Journal}
    (starting : Starting base state) (opens : op.Opens) : Enabled id base [] op state.1 := by
  obtain ⟨⟨session, fresh, outside⟩, closed, committed, _⟩ := starting
  refine ⟨⟨by rw [fresh], by rw [fresh], .inr ?_⟩, .inr ⟨opens, by rw [fresh]⟩⟩
  exact ⟨by rw [fresh]; exact outside, closed, committed, rfl⟩

/-- The writes so far, at the next operation of an attempt. -/
theorem enabled_of_ready {state : (Transaction × Server) × Journal}
    (ready : Working id base none state ∨ Starting base state ∧ op.Opens) :
    ∃ writes, Enabled id base writes op state.1 ∧
      state.2.issued = writes ∧ state.2.reported = false := by
  rcases ready with ⟨writes, opened, issued, unreported⟩ | ⟨starting, opens⟩
  · exact ⟨writes, opened.enabled op, by simpa [pendingWrites] using issued, unreported⟩
  · have journal := starting.2.2.2
    exact ⟨[], enabled_of_starting starting opens, by rw [journal], by rw [journal]⟩

/-- The end of a fused operation and commit, with its journal. -/
theorem ended_of_final {final : TFinalCommitResult} {issued : List Write}
    {state : (Transaction × Server) × Journal}
    (outcome : if final.operation.ok then
        Concluded id base issued (final.commit.outcome = .committed) (state.1.1.session, state.1.2)
      else Dropped base state.1 ∧ final.commit.outcome ≠ .committed)
    (journal :
      state.2 =
        { issued
          reported := reportsCommitted (.executeFinalAndCommit op) (.ok final) }) :
    if final.operation.ok then
      Ended id base (commitVerdict final.commit) state
    else
      Failed base state ∨ final.operation.errorClass = .ambiguousCommit ∧
        Ended id base (operationVerdict final.operation) state := by
  split
  · rename_i succeeded
    rw [if_pos succeeded] at outcome
    refine ended_of_concluded ?_ (by rw [journal]; rfl)
    rw [journal]
    exact outcome
  · rename_i failed
    rw [if_neg failed] at outcome
    refine .inl ⟨outcome.1, ?_⟩
    rw [journal]
    simpa [reportsCommitted] using outcome.2

theorem attemptRule : AttemptRule (workflowAnswers id) (Starting base) (Working id base)
      (Failed base) (Ended id base) where
  execute := by
    rintro before after op reply ready ⟨answered, journal⟩
    obtain ⟨writes, enabled, issued, unreported⟩ := enabled_of_ready ready
    obtain ⟨operation, rfl, outcome⟩ := execute_ends op enabled answered
    have quiet : after.2.reported = false := by
      rw [journal]
      simp [unreported, reportsCommitted]
    cases succeeded : operation.ok with
    | false =>
      simp only [succeeded, Bool.false_eq_true, ↓reduceIte] at outcome ⊢
      exact ⟨outcome, quiet⟩
    | true =>
      simp only [succeeded, ↓reduceIte] at outcome ⊢
      have asked : after.2.issued = writes ++ sentWrites op ++ pendingWrites op.deferred := by
        rw [journal, issued, List.append_assoc, ← writesOf_eq_sentWrites]
        rfl
      exact ⟨_, outcome, asked, quiet⟩
  executeBatch := by
    rintro before after ops reply ⟨writes, opened, issued, unreported⟩ direct ⟨answered, journal⟩
    have ends := executeBatch_ends direct opened answered
    have quiet : after.2.reported = false := by
      rw [journal]
      simp [unreported, reportsCommitted]
    cases reply with
    | error ex => exact ⟨ends.1, quiet⟩
    | ok batch =>
      cases succeeded : batch.ok with
      | false =>
        simp only [succeeded, Bool.false_eq_true, ↓reduceIte]
        exact ⟨ends.1, quiet⟩
      | true =>
        simp only [succeeded, ↓reduceIte]
        have asked : after.2.issued = writes ++ ops.flatMap writesOf ++ pendingWrites none := by
          rw [journal, issued]
          simp [pendingWrites, commandWrites]
        exact ⟨_, ends.2 batch rfl succeeded, asked, quiet⟩
  rollback := by
    rintro before after reply ⟨dropped, unreported⟩ ⟨answered, journal⟩
    obtain ⟨_, _, _, stillDropped⟩ := rollback_dropped dropped answered
    refine ⟨stillDropped, ?_⟩
    rw [journal]
    simp [unreported, reportsCommitted]
  requestStop := by
    rintro before after reply ⟨dropped, unreported⟩ ⟨answered, journal⟩
    obtain ⟨same, unchanged⟩ := Runs.done_iff.mp answered
    have kept : after.1 = before.1 := Prod.ext (Prod.mk.inj same).2 unchanged
    refine ⟨by rw [kept]; exact dropped, ?_⟩
    rw [journal]
    simp [unreported, reportsCommitted]
  giveUp := by
    rintro pending state ⟨writes, opened, _, unreported⟩
    exact ⟨opened.dropped, unreported⟩
  unsuccessful := ended_of_failed
  commit := by
    rintro before after reply ⟨writes, opened, issued, unreported⟩ ⟨answered, journal⟩
    obtain ⟨report, rfl, concluded⟩ := commit_concluded opened answered
    refine ended_of_concluded ?_ (by rw [journal, unreported]; rfl)
    have asked : after.2.issued = writes := by
      rw [journal, issued]
      simp [pendingWrites, commandWrites]
    rw [asked]
    exact concluded
  executeFinalAndCommit := by
    rintro pending before after op reply ready ⟨answered, journal⟩
    have prepared : FinalEnds id base (before.2.issued ++ writesOf op) reply after.1 ∧
        before.2.reported = false := by
      rcases ready with ⟨⟨writes, opened, issued, unreported⟩, finishes⟩ | ⟨starting, opens⟩
      · rw [issued]
        exact ⟨executeFinalAndCommit_ends finishes opened answered, unreported⟩
      · have enabled : Enabled id base [] op before.1 := enabled_of_starting starting opens
        rw [starting.2.2.2]
        refine ⟨?_, rfl⟩
        have acts : Acts (steadyAnswers id) (executeFinalAndCommit op)
            before.1 reply after.1 := answered
        rw [executeFinalAndCommit, acts_get_bind] at acts
        simp only [enabled.ready.usable, Bool.false_eq_true, ↓reduceIte, enabled.ready.kept] at acts
        cases op with
        | applyDeliveryToCustomer apply => exact opens.elim
        | _ => exact executeFinal_ends opens.deferred enabled acts
    obtain ⟨⟨final, rfl, outcome⟩, unreported⟩ := prepared
    rw [unreported, Bool.false_or] at journal
    exact ended_of_final outcome journal

end

/--
Every attempt at a workflow is atomic.  When a commit was reported, the
server committed one transaction with all the writes the workflow had asked
for.  In any case, also after the session has been released, either nothing
or that one transaction was committed, and nothing else is left open.
-/
theorem workflow_commits_all_or_nothing {id : Nat} {inputs : TxInputs} {session : Session}
    {server : Server} {result : Except Thrown Bool} {final : (Transaction × Server) × Journal}
    {reusable : Except StdException Bool} {released : Session × Server}
    (outside : session.inTxn = false) (closed : server.current = none)
    (run : Runs (workflowAnswers id) inputs.task (({ session }, server), {}) result final)
    (releases :
      Acts (steadyAnswers id) releaseConnection
        (final.1.1.session, final.1.2) reusable released) :
    let whole : Txn := { session := id, writes := final.2.issued }
    (final.2.reported = true → final.1.2.committed = server.committed ++ [whole]) ∧
      (result = .ok true → final.2.reported = true) ∧ (released.2.committed = server.committed ∨
      released.2.committed = server.committed ++ [whole]) ∧
      (released.2.current = none ∨ released.2.current = some whole) := by
  have ended : Ended id server.committed result final :=
    attemptRule.ended_of_task ⟨⟨session, rfl, outside⟩, closed, rfl, rfl⟩ run
  have reset : released.2.committed = final.1.2.committed ∧ (released.2.current = none ∨
      final.1.1.session.inTxn = false ∧ released.2.current = final.1.2.current) := by
    rcases acts_bind.mp releases with ⟨_, middle, resetting, finishing⟩ | ⟨_, resetting, _⟩
    · rw [acts_get_bind] at finishing
      obtain ⟨_, rfl⟩ := acts_pure.mp finishing
      obtain ⟨_, outcome⟩ := acts_resetTxn.mp resetting
      split at outcome
      · obtain ⟨⟨faults, succeeds, answered⟩, _⟩ := outcome
        have aborted : released.2 = final.1.2.abort := by
          simpa [serverAnswers, succeeds] using answered
        rw [aborted]
        exact ⟨rfl, .inl rfl⟩
      · rename_i forgotten
        rw [outcome]
        exact ⟨rfl, .inr ⟨by simpa using forgotten, rfl⟩⟩
    · obtain ⟨⟨⟩, _⟩ := acts_resetTxn.mp resetting
  refine ⟨ended.confirmed, ended.successful, ?_, ?_⟩
  · rw [reset.1]
    exact ended.whole
  · rcases reset.2 with aborted | ⟨forgotten, same⟩
    · exact .inl aborted
    · rw [same]
      exact ended.remaining forgotten

/-! ## A Payment that runs through -/

section

variable {id : Nat} {transaction : Transaction} {server : Server}

theorem acts_steady {action : SessionM α} {before after : Session × Server}
    {result : Except StdException α}
    (acts : Acts (serverAnswers id {}) action before result after) :
    Acts (steadyAnswers id) action before result after :=
  Runs.mono (fun answered => ⟨{}, rfl, answered⟩) acts

theorem send_succeeds (statement : Statement) (reply : statement.Reply) :
    Acts (steadyAnswers id) (send statement) (transaction, server) (.ok reply)
      ({ transaction with session := { transaction.session with inTxn := true } },
        (if transaction.session.inTxn then server else server.start id).write
          statement.writes) := by
  rw [send, onSession, acts_zoom]
  exact ⟨_, acts_steady (executeStatement_succeeds statement reply), rfl⟩

theorem execute_succeeds {op : TSemanticOp} {operation : TOperationResult}
    {after : Transaction × Server} (usable : transaction.terminal = false)
    (acts : Acts (steadyAnswers id) (Ob.operation op) (transaction, server) (.ok operation) after) :
    Acts (steadyAnswers id) (execute op) (transaction, server) (.ok operation) after := by
  rw [execute, acts_get_bind]
  simp only [usable, Bool.false_eq_true, ↓reduceIte]
  exact acts_attempt_bind.mpr ⟨.ok operation, after, acts, acts_pure.mpr ⟨rfl, rfl⟩⟩

theorem commit_succeeds (usable : transaction.terminal = false)
    (inside : transaction.session.inTxn = true) :
    Acts (steadyAnswers id) commit (transaction, server) (.ok (commitResultOf (.ok ())))
      (endTxn { transaction with session := transaction.session.outsideTxn }, server.commit) := by
  rw [commit, acts_get_bind]
  simp only [usable, Bool.false_eq_true, ↓reduceIte]
  refine acts_attempt_bind.mpr ⟨.ok (),
    ({ transaction with session := transaction.session.outsideTxn }, server.commit), ?_, ?_⟩
  · rw [onSession, acts_zoom]
    exact ⟨_, acts_steady (sessionCommit_succeeds inside), rfl⟩
  · exact acts_modify_bind.mpr (acts_pure.mpr ⟨rfl, rfl⟩)

end

/-- A payment by customer number at the customer's own warehouse. -/
def examplePayment : PaymentInputs :=
  { warehouseId := 1
    districtId := 1
    paymentAmount := 100
    customerDistrictId := 1
    customerWarehouseId := 1
    lookup := { lookupByName := false, lastName := "", customerId := 1 } }

/-- The location update of the payment. -/
def exampleLocation : TApplyPaymentToLocation :=
  { warehouseId := 1, districtId := 1, amount := 100 }

/-- The customer update of the payment, which is kept back. -/
def exampleUpdate : TUpdateCustomerPayment :=
  { warehouseId := 1, districtId := 1, customerId := 1, newBalance := -1100
    newYtdPayment := 1100, newPaymentCount := 2, updateData := false
    newData := "" }

/-- The history row of the payment. -/
def exampleHistory : TInsertPaymentHistory :=
  { customerWarehouseId := 1, customerDistrictId := 1, customerId := 1
    paymentWarehouseId := 1, paymentDistrictId := 1, amount := 100
    data := "    " }

/-- A payment commits its three writes in one transaction. -/
theorem payment_commits_three_writes :
    ∃ final released, Runs (workflowAnswers 0) (TxInputs.payment examplePayment).task
      (({ session := Session.fresh }, Server.fresh), {}) (.ok true) final ∧
      Acts (steadyAnswers 0) releaseConnection (final.1.1.session, final.1.2) (.ok true) released ∧
      final.1.2.committed =
          [{ session := 0
             writes :=
               [.location exampleLocation, .customerPayment exampleUpdate,
                 .history exampleHistory] }] := by
  let inside : Session := { inTxn := true, broken := false }
  let located : Transaction := { session := inside, paymentLocationApplied := true }
  let paid : Transaction := { located with pendingPaymentUpdate := some exampleUpdate }
  let ended : Transaction := { session := Session.fresh, terminal := true }
  let first : Server := (Server.fresh.start 0).write [.location exampleLocation]
  let second : Server := first.write []
  let last : Server :=
    (second.write [.customerPayment exampleUpdate, .history exampleHistory]).commit
  let issued : List Write :=
    [.location exampleLocation, .customerPayment exampleUpdate, .history exampleHistory]
  have locates : Acts (steadyAnswers 0) (execute (.applyPaymentToLocation exampleLocation))
      ({ session := Session.fresh }, Server.fresh)
      (.ok (okOp 2 2 (.location {}))) (located, first) := by
    refine execute_succeeds rfl (acts_bind.mpr (.inl ⟨([2], [[{}]]), _,
      send_succeeds (.multi (.paymentLocation exampleLocation)) _, ?_⟩))
    exact acts_modify_bind.mpr (acts_pure.mpr ⟨rfl, rfl⟩)
  have finds : Acts (steadyAnswers 0) (execute (.getCustomerById 1 1 1))
      (located, first) (.ok (okOp 1 1 (.customer exampleCustomer))) (located, second) := by
    refine execute_succeeds rfl (acts_get_bind.mpr (acts_bind.mpr
      (.inl ⟨[exampleCustomer], (located, second),
      send_succeeds (.query (.customerById true 1 1 1)) _, ?_⟩)))
    exact acts_pure.mpr ⟨rfl, rfl⟩
  have keeps : Acts (steadyAnswers 0)
      (execute (.updateCustomerPayment exampleUpdate)) (located, second)
      (.ok (okOp 1 1)) (paid, second) :=
    execute_succeeds rfl (acts_modify_bind.mpr (acts_pure.mpr ⟨rfl, rfl⟩))
  have finishes : Acts (steadyAnswers 0)
      (executeFinalAndCommit (.insertPaymentHistory exampleHistory)) (paid, second)
      (.ok { operation := okOp 1 1, commit := commitResultOf (.ok ()) }) (ended, last) := by
    rw [executeFinalAndCommit, acts_get_bind]
    refine acts_modify_bind.mpr ?_
    refine acts_attempt_bind.mpr ⟨.ok _, (ended, last), ?_, acts_pure.mpr ⟨rfl, rfl⟩⟩
    refine acts_bind.mpr (.inl ⟨[1, 1], _, send_succeeds
      (.multi (.finishPayment exampleUpdate exampleHistory)) _, ?_⟩)
    exact acts_bind.mpr (.inl ⟨commitResultOf (.ok ()), (ended, last),
      commit_succeeds rfl rfl, acts_pure.mpr ⟨rfl, rfl⟩⟩)
  have run : Runs (workflowAnswers 0) (TxInputs.payment examplePayment).task
      (({ session := Session.fresh }, Server.fresh), {})
      (.ok true) ((ended, last), { issued, reported := true }) := by
    refine Runs.call_iff.mpr ⟨.ok _, ((located, first), _), ⟨locates, rfl⟩, ?_⟩
    refine Runs.call_iff.mpr ⟨.ok _, ((located, second), _), ⟨finds, rfl⟩, ?_⟩
    refine Runs.call_iff.mpr ⟨.ok _, ((paid, second), _), ⟨keeps, rfl⟩, ?_⟩
    refine Runs.call_iff.mpr ⟨.ok _, ((ended, last), _), ⟨finishes, rfl⟩, ?_⟩
    exact Runs.done_iff.mpr ⟨rfl, rfl⟩
  have releases : Acts (steadyAnswers 0) releaseConnection (Session.fresh, last)
      (.ok true) (Session.fresh, last) := by
    refine acts_bind.mpr (.inl ⟨(), (Session.fresh, last), ?_, ?_⟩)
    · exact acts_resetTxn.mpr ⟨rfl, rfl⟩
    · rw [acts_get_bind]
      exact acts_pure.mpr ⟨rfl, rfl⟩
  have atomic := workflow_commits_all_or_nothing rfl rfl run releases
  exact ⟨_, _, run, releases, atomic.1 rfl⟩

end PortableTpcc.Ob
