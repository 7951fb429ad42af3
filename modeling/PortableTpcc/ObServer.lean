import PortableTpcc.ObSession

namespace PortableTpcc.Ob

/-!
# The server behind an OceanBase connection

A connection has at most one open transaction on the server.  It collects
the writes of the statements that were executed in it, until a `COMMIT`
keeps them or a `ROLLBACK` drops them.  A `START TRANSACTION` commits a
transaction that is still open.

What can go wrong during one call of a session is a record of faults, so
that a history can say for each call which failures it met.
-/

/-- A single change that a semantic operation asks for. -/
inductive Write where
  | districtNextOrder (w d : Int)
  | order (request : TCreateOrder)
  | newOrder (request : TCreateOrder)
  | stock (update : TUpdateStock)
  | orderLine (request : TInsertOrderLine)
  | location (request : TApplyPaymentToLocation)
  | customerPayment (request : TUpdateCustomerPayment)
  | history (request : TInsertPaymentHistory)
  | newOrderRemoval (request : TCompleteOrderDelivery)
  | orderCarrier (request : TCompleteOrderDelivery)
  | orderLineDelivery (request : TCompleteOrderDelivery)
  | customerDelivery (request : TApplyDeliveryToCustomer)
deriving Repr, DecidableEq

/-- The changes that a semantic operation asks for. -/
def writesOf : TSemanticOp → List Write
  | .reserveDistrictOrderId w d => [.districtNextOrder w d]
  | .createOrder request => [.order request, .newOrder request]
  | .updateStock request => [.stock request]
  | .insertOrderLine request => [.orderLine request]
  | .applyPaymentToLocation request => [.location request]
  | .updateCustomerPayment request => [.customerPayment request]
  | .insertPaymentHistory request => [.history request]
  | .completeOrderDelivery request =>
    [.newOrderRemoval request, .orderCarrier request, .orderLineDelivery request]
  | .applyDeliveryToCustomer request => [.customerDelivery request]
  | _ => []

/-- The changes that a single modifying statement makes. -/
def Modify.writes : Modify → List Write
  | .updateDistrictNextOrder _ w d => [.districtNextOrder w d]
  | .insertOrder request => [.order request]
  | .insertNewOrder request => [.newOrder request]
  | .updateStock request => [.stock request]
  | .updateStocks updates => updates.map .stock
  | .insertOrderLine request => [.orderLine request]
  | .insertOrderLines lines => lines.map .orderLine
  | .insertHistory request => [.history request]
  | .deleteNewOrder request => [.newOrderRemoval request]
  | .updateOrderCarrier request => [.orderCarrier request]
  | .updateOrderLineDelivery request => [.orderLineDelivery request]
  | .addCustomerDelivery request => [.customerDelivery request]
  | .addCustomerDeliveries rows => rows.map .customerDelivery

/-- The changes that a script makes. -/
def Multi.writes : Multi → List Write
  | .paymentLocation request => [.location request]
  | .oldestNewOrders _ => []
  | .deliveryOrderInfo _ _ => []
  | .completeDeliveries rows =>
    rows.flatMap fun row => writesOf (.completeOrderDelivery row)
  | .finishPayment update history =>
    [.customerPayment update, .history history]
  | .finishDelivery request => [.customerDelivery request]

/-- The changes that a statement makes when it succeeds. -/
def Statement.writes : Statement → List Write
  | .query _ => []
  | .modify text => text.writes
  | .multi text => text.writes

/-- A transaction on the server, with the session that started it. -/
structure Txn where
  session : Nat
  writes : List Write
deriving Repr, DecidableEq

/--
The server's side of a connection: the open transaction, the transactions
that were committed, and those among them that a `START TRANSACTION` of
another session committed.
-/
structure Server where
  current : Option Txn
  committed : List Txn
  leaked : List Txn
deriving Repr, DecidableEq

namespace Server

/-- A new connection. -/
def fresh : Server :=
  { current := none, committed := [], leaked := [] }

/-- `START TRANSACTION`, which commits what is still open. -/
def start (server : Server) (session : Nat) : Server :=
  { current := some { session, writes := [] }
    committed := server.committed ++ server.current.toList
    leaked := server.leaked ++ server.current.toList.filter fun txn => txn.session ≠ session }

/-- Execute a statement, or the part of a script before its failure. -/
def write (server : Server) (writes : List Write) : Server :=
  { server with
    current := server.current.map fun txn => { txn with writes := txn.writes ++ writes } }

/-- `COMMIT`. -/
def commit (server : Server) : Server :=
  { server with
    current := none
    committed := server.committed ++ server.current.toList }

/-- `ROLLBACK`. -/
def abort (server : Server) : Server :=
  { server with current := none }

end Server

/-- What goes wrong during one call of a session. -/
structure Faults where
  /-- The pool's shutdown flag is set. -/
  shutdown : Bool := false
  /-- What the connection raises, when it raises anything. -/
  failure : Option StdException := none
  /-- A `COMMIT` that fails leaves the transaction open. -/
  commitKeepsOpen : Bool := false
  /-- A `ROLLBACK` fails and leaves the transaction open. -/
  rollbackFails : Bool := false
deriving Repr, DecidableEq

/-- The connection is lost during the call. -/
def Faults.LosesConnection (faults : Faults) : Prop :=
  faults.shutdown = false ∧ ∃ ex, faults.failure = some ex ∧ isConnectionLost ex = true

/--
How the server answers a session.  A statement that fails has no effect, or
the effect of a part of a script, or the server has given up the whole
transaction.  A commit that fails may still have been applied.
-/
def serverAnswers (session : Nat) (faults : Faults) : Answers driverFace Server :=
  fun before command reply after =>
    match command, reply with
    | .shutdownFlag, flag =>
      flag = faults.shutdown ∧ after = before
    | .startTransaction, .ok () =>
      after = before.start session
    | .startTransaction, .error ex =>
      faults.failure = some ex ∧ after = before
    | .exec statement, .ok _ =>
      after = before.write statement.writes
    | .exec statement, .error ex =>
      faults.failure = some ex ∧ (after = before.abort ∨ ∃ part, part.Sublist statement.writes ∧
        after = before.write part)
    | .querySimple _, .ok () =>
      after = before
    | .querySimple _, .error ex =>
      faults.failure = some ex ∧ after = before
    | .commit, .ok () =>
      after = before.commit
    | .commit, .error ex =>
      faults.failure = some ex ∧
        if faults.commitKeepsOpen then
          after = before
        else
          after = before.commit ∨ after = before.abort
    | .rollback, () =>
      after = if faults.rollbackFails then before else before.abort

section

variable {id : Nat} {session : Session} {server : Server}

/-- A statement that meets no fault opens its transaction if need be. -/
theorem executeStatement_succeeds (statement : Statement) (reply : statement.Reply) :
    Acts (serverAnswers id {}) (executeStatement statement) (session, server) (.ok reply)
      ({ session with inTxn := true }, (if session.inTxn then server else server.start id).write
      statement.writes) := by
  refine acts_tryCatch.mpr (.inl ⟨reply, ?_, rfl⟩)
  refine acts_bind.mpr (.inl ⟨(), (session, server), ?_, ?_⟩)
  · exact acts_checkShutdown.mpr ⟨false, ⟨rfl, rfl⟩, rfl, rfl⟩
  refine acts_bind.mpr (.inl ⟨(), ({ session with inTxn := true },
    if session.inTxn then server else server.start id), ?_, ?_⟩)
  · refine acts_ensureTxn.mpr ?_
    split
    · rename_i inside
      refine ⟨rfl, ?_⟩
      cases session
      simp_all
    · exact ⟨rfl, rfl⟩
  · exact acts_ask_bind.mpr ⟨.ok reply, _, rfl, acts_orThrow.mpr ⟨rfl, rfl⟩⟩

/-- A commit that meets no fault commits the open transaction. -/
theorem sessionCommit_succeeds (inside : session.inTxn = true) :
    Acts (serverAnswers id {}) sessionCommit (session, server) (.ok ())
      (session.outsideTxn, server.commit) := by
  refine acts_tryCatch.mpr (.inl ⟨(), ?_, rfl⟩)
  refine acts_bind.mpr (.inl ⟨(), (session, server), ?_, ?_⟩)
  · exact acts_checkShutdown.mpr ⟨false, ⟨rfl, rfl⟩, rfl, rfl⟩
  rw [acts_get_bind]
  simp only [inside, ↓reduceIte]
  refine acts_ask_bind.mpr ⟨.ok (), server.commit, rfl, ?_⟩
  exact acts_bind.mpr (.inl ⟨(), (session, server.commit),
    acts_orThrow.mpr ⟨rfl, rfl⟩, acts_modify.mpr ⟨rfl, rfl⟩⟩)

end

end PortableTpcc.Ob
