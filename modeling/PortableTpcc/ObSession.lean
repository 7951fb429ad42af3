import PortableTpcc.AdapterParts
import PortableTpcc.ErrorClassifiers

namespace PortableTpcc.Ob

/-!
# The OceanBase session

A `TObSession` works on one MySQL connection.  It opens a transaction before
the first statement, rolls it back when a statement fails, and remembers in
`InTxn_` whether one is open.  A later statement opens the next transaction
without being told to.

The statements of the adapter are kept as data.  A statement that a batch
sends is kept with the requests it was built from.
-/

/-- The `SELECT` statements of the adapter. -/
inductive Query where
  | warehouseTax (w : Int)
  | districtNextOrderForUpdate (w d : Int)
  | customerById (forUpdate : Bool) (w d c : Int)
  | customersByLastName (forUpdate : Bool) (w d : Int) (lastName : String)
  | items (ids : List Int)
  | stocksForUpdate (districtId : Int) (keys : List TStockKey)
  | customerData (w d c : Int)
  | latestOrder (w d c : Int)
  | orderStatusLines (w d o : Int)
  | orderCustomer (w d o : Int)
  | orderLineAmounts (w d o : Int)
  | districtNextOrder (w d : Int)
  | lowStockCount (w d nextOrderId firstOrderId threshold : Int)
deriving Repr, DecidableEq

/-- One row of each query, as the adapter reads it. -/
abbrev Query.Row : Query → Type
  | .warehouseTax _ => TRate
  | .districtNextOrderForUpdate _ _ => Int × TRate
  | .customerById _ _ _ _ => TCustomerRow
  | .customersByLastName _ _ _ _ => TCustomerRow
  | .items _ => TItemRow
  | .stocksForUpdate _ _ => TStockRow
  | .customerData _ _ _ => String
  | .latestOrder _ _ _ => TOrderHeader
  | .orderStatusLines _ _ _ => TOrderStatusLine
  | .orderCustomer _ _ _ => Int
  | .orderLineAmounts _ _ _ => TMoney
  | .districtNextOrder _ _ => Int
  | .lowStockCount _ _ _ _ _ => Int

/-- The `INSERT`, `UPDATE` and `DELETE` statements of the adapter. -/
inductive Modify where
  | updateDistrictNextOrder (nextOrderId w d : Int)
  | insertOrder (request : TCreateOrder)
  | insertNewOrder (request : TCreateOrder)
  | updateStock (request : TUpdateStock)
  | updateStocks (updates : List TUpdateStock)
  | insertOrderLine (request : TInsertOrderLine)
  | insertOrderLines (lines : List TInsertOrderLine)
  | insertHistory (request : TInsertPaymentHistory)
  | deleteNewOrder (request : TCompleteOrderDelivery)
  | updateOrderCarrier (request : TCompleteOrderDelivery)
  | updateOrderLineDelivery (request : TCompleteOrderDelivery)
  | addCustomerDelivery (request : TApplyDeliveryToCustomer)
  | addCustomerDeliveries (rows : List TApplyDeliveryToCustomer)
deriving Repr, DecidableEq

/-- The scripts that `ExecuteMulti` sends as one text. -/
inductive Multi where
  | paymentLocation (request : TApplyPaymentToLocation)
  | oldestNewOrders (w : Int)
  | deliveryOrderInfo (w : Int) (keys : List (Int × Int))
  | completeDeliveries (rows : List TCompleteOrderDelivery)
  | finishPayment (update : TUpdateCustomerPayment) (history : TInsertPaymentHistory)
  | finishDelivery (request : TApplyDeliveryToCustomer)
deriving Repr, DecidableEq

/--
`TObMultiResult` of each script: its row counts, its result sets, or both.
The order information is absent when a result set is missing.
-/
abbrev Multi.Reply : Multi → Type
  | .paymentLocation _ => List Nat × List (List TWarehouseDistrictInfo)
  | .oldestNewOrders _ => List (List Int)
  | .deliveryOrderInfo _ _ =>
    Option (List (Int × Int) × List (Int × TMoney))
  | .completeDeliveries _ => List Nat
  | .finishPayment _ _ => List Nat
  | .finishDelivery _ => List Nat

/-- Anything that a session sends inside a transaction. -/
inductive Statement where
  | query (text : Query)
  | modify (text : Modify)
  | multi (text : Multi)
deriving Repr, DecidableEq

/-- The result of a statement that did not fail. -/
abbrev Statement.Reply : Statement → Type
  | .query text => List text.Row
  | .modify _ => Nat
  | .multi text => text.Reply

/-- What a session asks of its connection and of the pool's flag. -/
inductive Command where
  | shutdownFlag
  | startTransaction
  | exec (statement : Statement)
  | querySimple (sql : String)
  | commit
  | rollback
deriving Repr, DecidableEq

/--
The reply to each command.  `TObConnection::Rollback` ignores the error of
its `ROLLBACK`, so nothing comes back from it.
-/
abbrev Reply : Command → Type
  | .shutdownFlag => Bool
  | .startTransaction => Except StdException Unit
  | .exec statement => Except StdException statement.Reply
  | .querySimple _ => Except StdException Unit
  | .commit => Except StdException Unit
  | .rollback => Unit

/-- The interface between a session and its connection. -/
abbrev driverFace : Interface where
  Command := Command
  Reply := Reply

/-- `TObSession`: the fields that decide what is sent and what is reused. -/
structure Session where
  inTxn : Bool
  broken : Bool
deriving Repr, DecidableEq

/-- The session that the pool creates around a connection. -/
def Session.fresh : Session :=
  { inTxn := false, broken := false }

/-- A computation of the session that may throw. -/
abbrev SessionM := Action driverFace Session StdException

/-- Issue one command of the connection. -/
def ask (command : Command) : SessionM (Reply command) :=
  @Action.ask driverFace Session StdException command

/-- What `TObSession::MarkException` does to `Broken_`. -/
def Session.markException (ex : StdException) (session : Session) : Session :=
  { session with broken := session.broken || isConnectionLost ex }

/-- `InTxn_ = false`. -/
def Session.outsideTxn (session : Session) : Session :=
  { session with inTxn := false }

/-- `TObSession::CheckShutdown`. -/
def checkShutdown : SessionM Unit := do
  let flag : Bool ← ask .shutdownFlag
  if flag then
    throw (.other "session shutdown")

/-- `EnsureTxn`. -/
def ensureTxn : SessionM Unit := do
  let session ← get
  if !session.inTxn then
    Action.orThrow (← ask .startTransaction)
    modify fun session => { session with inTxn := true }

/-- Send a `ROLLBACK` when a transaction is open, and forget about it. -/
def resetTxn : SessionM Unit := do
  let session ← get
  if session.inTxn then
    let _ : Unit ← ask .rollback
    modify Session.outsideTxn

/-- The `catch` blocks of the `Execute` functions. -/
def resetTxnOnError (computation : SessionM α) : SessionM α :=
  tryCatch computation fun ex => do
    modify (Session.markException ex)
    resetTxn
    throw ex

/-- `TObSession::ExecuteQuery`, `ExecuteModify` and `ExecuteMulti`. -/
def executeStatement (statement : Statement) : SessionM statement.Reply :=
  resetTxnOnError do
    checkShutdown
    ensureTxn
    Action.orThrow (← ask (.exec statement))

/-- The flushes of `TObSession::ExecuteBulk`, one after the other. -/
def flushAll : List Statement → SessionM Unit
  | [] => return ()
  | statement :: rest => do
      let _ ← Action.orThrow (← ask (.exec statement))
      flushAll rest

/-- `TObSession::ExecuteBulk`, with the `INSERT` of each flush. -/
def executeBulk (flushes : List Statement) : SessionM Unit :=
  resetTxnOnError do
    checkShutdown
    ensureTxn
    flushAll flushes

/-- `TObSession::ExecuteNonTx`. -/
def executeNonTx (sql : String) : SessionM Unit :=
  tryCatch (do
      resetTxn
      Action.orThrow (← ask (.querySimple sql)))
    fun ex => do
      modify (Session.markException ex)
      throw ex

/-- `TObSession::Commit`. -/
def sessionCommit : SessionM Unit :=
  tryCatch (do
      checkShutdown
      let session ← get
      if session.inTxn then
        Action.orThrow (← ask .commit)
        modify Session.outsideTxn)
    fun ex => do
      modify fun session => session.outsideTxn.markException ex
      throw ex

/-- `TObSession::Rollback`, which no exception can leave. -/
def sessionRollback : SessionM Unit :=
  resetTxn

/-- `TObSession::IsReusable`, for a session that holds its connection. -/
def Session.isReusable (session : Session) : Bool :=
  !session.broken

/-- `TObSession::ReleaseConnection`: whether the pool may keep it. -/
def releaseConnection : SessionM Bool := do
  resetTxn
  let session ← get
  return session.isReusable

section

variable {σ : Type} {answers : Answers driverFace σ} {session : Session}
  {connection : σ} {after : Session × σ} {result : Except StdException Unit}

theorem acts_checkShutdown : Acts answers checkShutdown (session, connection) result after ↔ ∃ flag,
      answers connection .shutdownFlag flag after.2 ∧ after.1 = session ∧ result =
            if flag then .error (.other "session shutdown") else .ok () := by
  constructor
  · intro acts
    obtain ⟨flag, middle, answered, later⟩ := acts_ask_bind.mp acts
    refine ⟨flag, ?_⟩
    cases flag with
    | false =>
      obtain ⟨rfl, rfl⟩ := acts_pure.mp later
      exact ⟨answered, rfl, rfl⟩
    | true =>
      obtain ⟨rfl, rfl⟩ := acts_throw.mp later
      exact ⟨answered, rfl, rfl⟩
  · rintro ⟨flag, answered, same, rfl⟩
    refine acts_ask_bind.mpr ⟨flag, after.2, answered, ?_⟩
    cases flag with
    | false => exact acts_pure.mpr ⟨rfl, Prod.ext same rfl⟩
    | true => exact acts_throw.mpr ⟨rfl, Prod.ext same rfl⟩

/-- A transaction is open already, or the reply decides. -/
theorem acts_ensureTxn :
    Acts answers ensureTxn (session, connection) result after ↔
      if session.inTxn then
        result = .ok () ∧ after = (session, connection)
      else
        answers connection .startTransaction result after.2 ∧ after.1 =
            match result with
            | .ok _ => { session with inTxn := true }
            | .error _ => session := by
  rw [ensureTxn, acts_get_bind]
  cases inside : session.inTxn with
  | true =>
    simp
  | false =>
    simp only [Bool.not_false, ↓reduceIte, Bool.false_eq_true]
    constructor
    · intro acts
      obtain ⟨reply, middle, answered, later⟩ := acts_ask_bind.mp acts
      rcases acts_bind.mp later with ⟨_, _, replied, changed⟩ | ⟨ex, replied, rfl⟩
      · obtain ⟨rfl, rfl⟩ := acts_orThrow.mp replied
        obtain ⟨rfl, rfl⟩ := acts_modify.mp changed
        exact ⟨answered, rfl⟩
      · obtain ⟨rfl, rfl⟩ := acts_orThrow.mp replied
        exact ⟨answered, rfl⟩
    · rintro ⟨answered, changed⟩
      refine acts_ask_bind.mpr ⟨result, after.2, answered, ?_⟩
      cases result with
      | ok _ =>
        exact acts_bind.mpr (.inl ⟨(), (session, after.2), acts_orThrow.mpr ⟨rfl, rfl⟩,
          acts_modify.mpr ⟨rfl, Prod.ext changed rfl⟩⟩)
      | error ex =>
        exact acts_bind.mpr (.inr ⟨ex, acts_orThrow.mpr ⟨rfl, Prod.ext changed rfl⟩, rfl⟩)

/-- A `ROLLBACK` is sent when the session knows of a transaction. -/
theorem acts_resetTxn :
    Acts answers resetTxn (session, connection) result after ↔ result = .ok () ∧
        if session.inTxn then answers connection .rollback () after.2 ∧ after.1 = session.outsideTxn
        else after = (session, connection) := by
  rw [resetTxn, acts_get_bind]
  cases inside : session.inTxn with
  | false =>
    simp
  | true =>
    simp only [↓reduceIte]
    constructor
    · intro acts
      obtain ⟨_, middle, answered, later⟩ := acts_ask_bind.mp acts
      obtain ⟨rfl, rfl⟩ := acts_modify.mp later
      exact ⟨rfl, answered, rfl⟩
    · rintro ⟨rfl, answered, changed⟩
      exact acts_ask_bind.mpr ⟨(), after.2, answered, acts_modify.mpr ⟨rfl, Prod.ext changed rfl⟩⟩

/-- The handler of an `Execute` function, once its exception is known. -/
theorem acts_resetTxnOnError {computation : SessionM α} {outcome : Except StdException α} :
    Acts answers (resetTxnOnError computation) (session, connection) outcome after ↔
      match outcome with
      | .ok value =>
        Acts answers computation (session, connection) (.ok value) after
      | .error ex =>
        ∃ middle, Acts answers computation (session, connection) (.error ex) middle ∧
          Acts answers resetTxn (middle.1.markException ex, middle.2) (.ok ()) after := by
  rw [resetTxnOnError, acts_tryCatch]
  constructor
  · rintro (⟨value, ran, rfl⟩ | ⟨ex, middle, ran, handled⟩)
    · exact ran
    · have marked := acts_modify_bind.mp handled
      rcases acts_bind.mp marked with ⟨_, _, resetting, thrown⟩ | ⟨_, resetting, _⟩
      · obtain ⟨rfl, rfl⟩ := acts_throw.mp thrown
        exact ⟨middle, ran, resetting⟩
      · obtain ⟨⟨⟩, _⟩ := acts_resetTxn.mp resetting
  · cases outcome with
    | ok value =>
      intro ran
      exact .inl ⟨value, ran, rfl⟩
    | error ex =>
      rintro ⟨middle, ran, resetting⟩
      refine .inr ⟨ex, middle, ran, acts_modify_bind.mpr ?_⟩
      exact acts_bind.mpr (.inl ⟨(), after, resetting, acts_throw.mpr ⟨rfl, rfl⟩⟩)

/-- The session after the reply to its `COMMIT`. -/
def Session.afterCommit (session : Session) :
    Except StdException Unit → Session
  | .ok _ => session.outsideTxn
  | .error ex => session.outsideTxn.markException ex

/--
A commit is cut off by the shutdown flag, finds no transaction, or sends a
`COMMIT`; whatever it raises, the session forgets its transaction.
-/
theorem sessionCommit_cases (acts : Acts answers sessionCommit (session, connection) result after) :
    ∃ flag checked, answers connection .shutdownFlag flag checked ∧ if flag then
          result = .error (.other "session shutdown") ∧ after =
            (session.outsideTxn.markException (.other "session shutdown"), checked)
        else if session.inTxn then
          answers checked .commit result after.2 ∧ after.1 = session.afterCommit result else
          result = .ok () ∧ after = (session, checked) := by
  have body : ∀ {outcome final}, Acts answers (do
            checkShutdown
            let session ← get
            if session.inTxn then
              Action.orThrow (← ask .commit)
              modify Session.outsideTxn) (session, connection)
          outcome final →
        ∃ flag checked, answers connection .shutdownFlag flag checked ∧
            if flag then
              outcome = .error (.other "session shutdown") ∧ final = (session, checked)
            else if session.inTxn then
              answers checked .commit outcome final.2 ∧ final.1 =
                  match outcome with
                  | .ok _ => session.outsideTxn
                  | .error _ => session
            else
              outcome = .ok () ∧ final = (session, checked) := by
    intro outcome final acts
    rcases acts_bind.mp acts with ⟨_, ⟨_, checked⟩, checking, committing⟩ | ⟨ex, checking, rfl⟩
    · obtain ⟨flag, answered, rfl, passed⟩ := acts_checkShutdown.mp checking
      obtain rfl : flag = false := by
        cases flag with
        | false => rfl
        | true => cases passed
      refine ⟨false, checked, answered, ?_⟩
      rw [acts_get_bind] at committing
      dsimp only at committing
      simp only [Bool.false_eq_true, ↓reduceIte]
      split at committing
      · rename_i inside
        simp only [inside, ↓reduceIte]
        obtain ⟨reply, middle, committed, finishing⟩ := acts_ask_bind.mp committing
        rcases acts_bind.mp finishing with ⟨_, _, replied, changed⟩ | ⟨ex, replied, rfl⟩
        · obtain ⟨rfl, rfl⟩ := acts_orThrow.mp replied
          obtain ⟨rfl, rfl⟩ := acts_modify.mp changed
          exact ⟨committed, rfl⟩
        · obtain ⟨rfl, rfl⟩ := acts_orThrow.mp replied
          exact ⟨committed, rfl⟩
      · rename_i outside
        simp only [outside, Bool.false_eq_true, ↓reduceIte]
        exact acts_pure.mp committing
    · obtain ⟨flag, answered, same, passed⟩ := acts_checkShutdown.mp checking
      cases flag with
      | false => cases passed
      | true => exact ⟨true, final.2, answered, passed, Prod.ext same rfl⟩
  rcases acts_tryCatch.mp acts with ⟨value, ran, rfl⟩ | ⟨ex, middle, ran, handled⟩
  · obtain ⟨flag, checked, answered, outcome⟩ := body ran
    refine ⟨flag, checked, answered, ?_⟩
    split at outcome
    · obtain ⟨⟨⟩, _⟩ := outcome
    · rename_i running
      rw [if_neg running]
      exact outcome
  · have finished := acts_modify_bind.mp handled
    obtain ⟨rfl, rfl⟩ := acts_throw.mp finished
    obtain ⟨flag, checked, answered, outcome⟩ := body ran
    refine ⟨flag, checked, answered, ?_⟩
    split at outcome
    · rename_i set
      rw [if_pos set]
      obtain ⟨⟨⟩, rfl⟩ := outcome
      exact ⟨rfl, rfl⟩
    · rename_i running
      rw [if_neg running]
      split at outcome
      · rename_i inside
        rw [if_pos inside]
        obtain ⟨committed, same⟩ := outcome
        exact ⟨committed, by simp only [same, Session.afterCommit]⟩
      · obtain ⟨⟨⟩, _⟩ := outcome

end

end PortableTpcc.Ob
