import PortableTpcc.AdapterParts
import PortableTpcc.AtMostOnceRetry

namespace PortableTpcc.Pg

/-!
# The PostgreSQL adapter

`TPgTpccTransaction` turns each semantic operation into SQL statements that a
`PgSession` runs inside one lazily opened snapshot transaction of libpqxx.
The statements are kept as data, one constructor for each SQL text, and an
operation is a script of them, so that a driver that fails at will and a
database that executes them can both answer the same operations.

Continuations attached with `Then` run in sequence, and an exception skips
the rest until `CatchOp` or `CatchToValue` turns it into a result.
-/

/-- The columns read by the stock query. -/
structure StockColumns where
  quantity : Int
  ytd : TMoney
  orderCount : Int
  remoteCount : Int
  data : String
  dist : List String
deriving Repr, DecidableEq

/-- The columns read by the order status query. -/
structure OrderLineColumns where
  itemId : Int
  supplyWarehouseId : Int
  quantity : Int
  amount : TMoney
  deliveryDate : Option String
deriving Repr, DecidableEq

/-- The `SELECT` statements of the adapter. -/
inductive Query where
  | warehouseTax (w : Int)
  | districtNextOrderForUpdate (w d : Int)
  | customerById (w d c : Int)
  | itemById (id : Int)
  | districtNextOrder (w d : Int)
  | lowStockCount (w d nextOrderId firstOrderId threshold : Int)
  | oldestNewOrderForUpdate (w d : Int)
  | warehouseAddress (w : Int)
  | districtAddress (w d : Int)
  | customersByLastName (w d : Int) (lastName : String)
  | stockForUpdate (key : TStockKey)
  | customerData (w d c : Int)
  | latestOrder (w d c : Int)
  | orderStatusLines (w d o : Int)
  | orderCustomer (w d o : Int)
  | orderLineAmounts (w d o : Int)
deriving Repr, DecidableEq

/-- The type of one result row of each query. -/
abbrev Query.Row : Query → Type
  | .warehouseTax _ => TRate
  | .districtNextOrderForUpdate _ _ => Int × TRate
  | .customerById _ _ _ => TCustomerRow
  | .itemById _ => TItemRow
  | .districtNextOrder _ _ => Int
  | .lowStockCount _ _ _ _ _ => Int
  | .oldestNewOrderForUpdate _ _ => Int
  | .warehouseAddress _ => AddressColumns
  | .districtAddress _ _ => AddressColumns
  | .customersByLastName _ _ _ => TCustomerRow
  | .stockForUpdate _ => StockColumns
  | .customerData _ _ _ => String
  | .latestOrder _ _ _ => TOrderHeader
  | .orderStatusLines _ _ _ => OrderLineColumns
  | .orderCustomer _ _ _ => Int
  | .orderLineAmounts _ _ _ => TMoney

/-- The `INSERT`, `UPDATE` and `DELETE` statements of the adapter. -/
inductive Modify where
  | updateDistrictNextOrder (nextOrderId w d : Int)
  | insertOrder (request : TCreateOrder)
  | insertNewOrder (o d w : Int)
  | updateStock (quantity ordered remote w i : Int)
  | insertOrderLine (request : TInsertOrderLine)
  | addWarehouseYtd (amount : TMoney) (w : Int)
  | addDistrictYtd (amount : TMoney) (w d : Int)
  | insertHistory (request : TInsertPaymentHistory)
  | updateCustomerPayment (balance ytdPayment : TMoney) (paymentCount : Int)
      (data : Option String) (w d c : Int)
  | deleteNewOrder (w d o : Int)
  | updateOrderCarrier (carrier w d o : Int)
  | updateOrderLineDelivery (w d o : Int)
  | addCustomerDelivery (amount : TMoney) (w d c : Int)
deriving Repr, DecidableEq

/-- One SQL statement of the adapter. -/
inductive Statement where
  | query (text : Query)
  | modify (text : Modify)
deriving Repr, DecidableEq

/-- A query returns its rows, any other statement its affected rows. -/
abbrev Statement.Reply : Statement → Type
  | .query text => List text.Row
  | .modify _ => Nat

/-- The interface through which an operation issues its statements. -/
abbrev statementFace : Interface where
  Command := Statement
  Reply := Statement.Reply

/-- The statements of an operation, each depending on earlier replies. -/
abbrev Script := Prog statementFace

/-- `ExecuteQuery` as a step of an operation. -/
def executeQuery (text : Query) : Script (List text.Row) :=
  .call (Statement.query text) .done

/-- `ExecuteModify` as a step of an operation. -/
def executeModify (text : Modify) : Script Nat :=
  .call (Statement.modify text) .done

/-- What a session asks of libpqxx and of the pool's shutdown flag. -/
inductive Command where
  | shutdownFlag
  | beginSnapshot
  | exec (statement : Statement)
  | commit
  | abort
deriving Repr, DecidableEq

/-- The reply to each command; libpqxx reports failures by exceptions. -/
abbrev Reply : Command → Type
  | .shutdownFlag => Bool
  | .beginSnapshot => Except StdException Unit
  | .exec statement => Except StdException statement.Reply
  | .commit => Except StdException Unit
  | .abort => Except StdException Unit

/-- The interface between a session and libpqxx. -/
abbrev driverFace : Interface where
  Command := Command
  Reply := Reply

/-- `PgSession`: whether `txn_` is set, and `broken_`. -/
structure Session where
  txn : Bool
  broken : Bool
deriving Repr, DecidableEq

/-- A computation of the session that may throw. -/
abbrev SessionM := Action driverFace Session StdException

/-- Issue one command of the driver. -/
def ask (command : Command) : SessionM (Reply command) :=
  @Action.ask driverFace Session StdException command

/-- `IsBrokenConnectionException`. -/
def isBrokenConnectionException : StdException → Bool
  | .pqxxBrokenConnection _ => true
  | .pqxxSqlError _ sqlState _ => isConnectionState sqlState
  | _ => false

/-- `PgSession::MarkException`, before the exception is passed on. -/
def markException (computation : SessionM α) : SessionM α :=
  tryCatch computation fun ex => do
    if isBrokenConnectionException ex then
      modify fun session => { session with broken := true }
    throw ex

/-- `PgSession::CheckShutdown`. -/
def checkShutdown : SessionM Unit := do
  let flag : Bool ← ask .shutdownFlag
  if flag then
    throw (.other "session shutdown")

/-- Open the snapshot transaction unless one is open. -/
def ensureTxn : SessionM Unit := do
  let session ← get
  if !session.txn then
    Action.orThrow (← ask .beginSnapshot)
    modify fun session => { session with txn := true }

/-- `PgSession::ExecuteQuery` and `ExecuteModify`. -/
def executeStatement (statement : Statement) : SessionM statement.Reply :=
  markException do
    checkShutdown
    ensureTxn
    Action.orThrow (← ask (.exec statement))

/-- The `catch` blocks of `PgSession::Commit` and `Rollback`. -/
def resetOnException (computation : SessionM α) : SessionM α :=
  tryCatch computation fun ex => do
    modify fun session => { session with txn := false }
    if isBrokenConnectionException ex then
      modify fun session => { session with broken := true }
    throw ex

/-- `PgSession::Commit`. -/
def sessionCommit : SessionM Unit :=
  resetOnException do
    checkShutdown
    let session ← get
    if session.txn then
      Action.orThrow (← ask .commit)
      modify fun session => { session with txn := false }

/-- `PgSession::Rollback`. -/
def sessionRollback : SessionM Unit :=
  resetOnException do
    let session ← get
    if session.txn then
      Action.orThrow (← ask .abort)
      modify fun session => { session with txn := false }

/-! ## Semantic operations -/

/-- `CheckAffected`. -/
def checkAffected (actual : Nat) (expected : Int) (what : String) : TOperationResult :=
  if (actual : Int) ≠ expected then
    failOp .integrity (what ++ ": affected " ++ toString actual ++
      " rows, expected " ++ toString expected)
  else
    okOp expected.toNat actual

/-- `MapAffected`. -/
def mapAffected (statement : Modify) (what : String) : Script TOperationResult := do
  let actual ← executeModify statement
  return checkAffected actual 1 what

/-- A statement whose row count must match before the operation goes on. -/
def modifyThen (statement : Modify) (expected : Int) (what : String)
    (next : Script TOperationResult) : Script TOperationResult := do
  let actual ← executeModify statement
  if (checkAffected actual expected what).ok then
    next
  else
    return checkAffected actual expected what

/-- `ReadStock`. -/
def readStock (key : TStockKey) (districtId : Int) (columns : StockColumns) : TStockRow :=
  { warehouseId := key.warehouseId
    itemId := key.itemId
    quantity := columns.quantity
    ytd := columns.ytd
    orderCount := columns.orderCount
    remoteCount := columns.remoteCount
    data := columns.data
    distInfo :=
      if 1 ≤ districtId ∧ districtId ≤ 10 then
        columns.dist.getD (districtId - 1).toNat ""
      else
        "" }

/-- The fold of `TGetItems`: stop at the first missing item. -/
def readItems :
    List Int → List TItemRow → Script (Except TOperationResult (List TItemRow))
  | [], items => return .ok items
  | id :: rest, items => do
      let rows : List TItemRow ← executeQuery (.itemById id)
      match rows with
      | [] => return .error (failOp .integrity "item not found")
      | row :: _ => readItems rest (items ++ [row])

/-- The fold of `TGetStocksForUpdate`: stop at the first missing row. -/
def readStocks (districtId : Int) :
    List TStockKey → List TStockRow → Script (Except TOperationResult (List TStockRow))
  | [], stocks => return .ok stocks
  | key :: rest, stocks => do
      let rows : List StockColumns ← executeQuery (.stockForUpdate key)
      match rows with
      | [] => return .error (failOp .integrity "stock not found")
      | columns :: _ =>
        readStocks districtId rest (stocks ++ [readStock key districtId columns])

/-- `TGetWarehouseTax`. -/
def getWarehouseTax (w : Int) : Script TOperationResult := do
  let rows : List TRate ← executeQuery (.warehouseTax w)
  match rows with
  | [] => return failOp .integrity "warehouse not found"
  | tax :: _ => return okOp 1 1 (.rate tax)

/-- `TReserveDistrictOrderId`. -/
def reserveDistrictOrderId (w d : Int) : Script TOperationResult := do
  let rows : List (Int × TRate) ←
    executeQuery (.districtNextOrderForUpdate w d)
  match rows with
  | [] => return failOp .integrity "district not found"
  | (nextId, tax) :: _ =>
    modifyThen (.updateDistrictNextOrder (nextId + 1) w d) 1 "district next order update" <|
      return okOp 1 1 (.reservation { nextOrderId := nextId, districtTax := tax })

/-- `TGetCustomerById`. -/
def getCustomerById (w d c : Int) : Script TOperationResult := do
  let rows : List TCustomerRow ← executeQuery (.customerById w d c)
  match rows with
  | [] => return failOp .integrity "customer not found"
  | row :: _ => return okOp 1 1 (.customer row)

/-- `TGetItems`. -/
def getItems (itemIds : List Int) : Script TOperationResult := do
  match ← readItems itemIds [] with
  | .error failure => return failure
  | .ok items => return okOp itemIds.length items.length (.items items)

/-- `TCreateOrder`. -/
def createOrder (request : TCreateOrder) : Script TOperationResult :=
  modifyThen (.insertOrder request) 1 "oorder insert" <|
    modifyThen (.insertNewOrder request.orderId request.districtId
        request.warehouseId) 1 "new_order insert" <|
      return okOp 2 2

/-- `TCountRecentLowStock`. -/
def countRecentLowStock (w d threshold recentOrderCount : Int) : Script TOperationResult := do
  let districts : List Int ← executeQuery (.districtNextOrder w d)
  match districts with
  | [] => return failOp .integrity "district not found"
  | nextOrderId :: _ =>
    let counts : List Int ← executeQuery
      (.lowStockCount w d nextOrderId (nextOrderId - recentOrderCount) threshold)
    match counts with
    | [] => return okOp 1 1 (.int 0)
    | count :: _ => return okOp 1 1 (.int count)

/-- `TGetOldestNewOrder`. -/
def getOldestNewOrder (w d : Int) : Script TOperationResult := do
  let rows : List Int ← executeQuery (.oldestNewOrderForUpdate w d)
  match rows with
  | [] => return okOp 0 0 (.int 0)
  | orderId :: _ => return okOp 1 1 (.int orderId)

/-- Fill the warehouse half of `TWarehouseDistrictInfo`. -/
def warehouseInfo (rows : List AddressColumns) : TWarehouseDistrictInfo :=
  match rows with
  | [] => {}
  | row :: _ =>
    { warehouseName := row.name
      warehouseStreet1 := row.street1
      warehouseStreet2 := row.street2
      warehouseCity := row.city
      warehouseState := row.state
      warehouseZip := row.zip }

/-- Fill the district half of `TWarehouseDistrictInfo`. -/
def addDistrictInfo (info : TWarehouseDistrictInfo)
    (rows : List AddressColumns) : TWarehouseDistrictInfo :=
  match rows with
  | [] => info
  | row :: _ =>
    { info with
      districtName := row.name
      districtStreet1 := row.street1
      districtStreet2 := row.street2
      districtCity := row.city
      districtState := row.state
      districtZip := row.zip }

/-- `TApplyPaymentToLocation`. -/
def applyPaymentToLocation (request : TApplyPaymentToLocation) : Script TOperationResult :=
  modifyThen (.addWarehouseYtd request.amount request.warehouseId) 1 "warehouse payment update" <|
    modifyThen (.addDistrictYtd request.amount request.warehouseId
        request.districtId) 1 "district payment update" do
      let warehouses : List AddressColumns ←
        executeQuery (.warehouseAddress request.warehouseId)
      let districts : List AddressColumns ←
        executeQuery (.districtAddress request.warehouseId request.districtId)
      return okOp 2 2 (.location (addDistrictInfo (warehouseInfo warehouses) districts))

/-- `TGetCustomersByLastName`. -/
def getCustomersByLastName (w d : Int) (lastName : String) : Script TOperationResult := do
  let rows : List TCustomerRow ←
    executeQuery (.customersByLastName w d lastName)
  return okOp rows.length rows.length (.customers rows)

/-- `TGetStocksForUpdate`. -/
def getStocksForUpdate (districtId : Int) (keys : List TStockKey) :
    Script TOperationResult := do
  match ← readStocks districtId keys [] with
  | .error failure => return failure
  | .ok stocks => return okOp keys.length stocks.length (.stocks stocks)

/-- `TGetCustomerData`. -/
def getCustomerData (w d c : Int) : Script TOperationResult := do
  let rows : List String ← executeQuery (.customerData w d c)
  match rows with
  | [] => return failOp .integrity "customer not found"
  | data :: _ => return okOp 1 1 (.text data)

/-- `TGetLatestCustomerOrder`. -/
def getLatestCustomerOrder (w d c : Int) : Script TOperationResult := do
  let rows : List TOrderHeader ← executeQuery (.latestOrder w d c)
  match rows with
  | [] => return okOp 0 0
  | header :: _ => return okOp 1 1 (.orderHeader header)

/-- One line of the order status result. -/
def readOrderStatusLine (columns : OrderLineColumns) : TOrderStatusLine :=
  { itemId := columns.itemId
    supplyWarehouseId := columns.supplyWarehouseId
    quantity := columns.quantity
    amount := columns.amount
    deliveryDate := columns.deliveryDate.getD "" }

/-- `TGetOrderStatusLines`. -/
def getOrderStatusLines (w d o : Int) : Script TOperationResult := do
  let rows : List OrderLineColumns ← executeQuery (.orderStatusLines w d o)
  return okOp rows.length rows.length (.orderLines (rows.map readOrderStatusLine))

/-- `TGetDeliveryOrderInfo`. -/
def getDeliveryOrderInfo (w d o : Int) : Script TOperationResult := do
  let customers : List Int ← executeQuery (.orderCustomer w d o)
  match customers with
  | [] => return failOp .integrity "order not found"
  | customerId :: _ =>
    let amounts : List TMoney ← executeQuery (.orderLineAmounts w d o)
    return okOp 1 1 (.deliveryInfo
        { customerId
          totalAmount := amounts.sum
          lineCount := amounts.length })

/-- `TCompleteOrderDelivery`. -/
def completeOrderDelivery (request : TCompleteOrderDelivery) : Script TOperationResult := do
  let deleted ← executeModify
    (.deleteNewOrder request.warehouseId request.districtId request.orderId)
  if deleted = 0 then
    return failOp .retryableAbort "new_order row already claimed by concurrent delivery"
  else if deleted ≠ 1 then
    return checkAffected deleted 1 "new_order delivery delete"
  else
    modifyThen (.updateOrderCarrier request.carrierId request.warehouseId
        request.districtId request.orderId) 1 "order carrier update" <|
      modifyThen (.updateOrderLineDelivery request.warehouseId request.districtId request.orderId)
          request.lineCount "order_line delivery update" <|
        return okOp 3 3

/-- The body of `TPgTpccTransaction::Execute`, inside `CatchOp`. -/
def operation : TSemanticOp → Script TOperationResult
  | .getCustomerById w d c => getCustomerById w d c
  | .getCustomersByLastName w d lastName =>
    getCustomersByLastName w d lastName
  | .getWarehouseTax w => getWarehouseTax w
  | .reserveDistrictOrderId w d => reserveDistrictOrderId w d
  | .createOrder request => createOrder request
  | .getItems itemIds => getItems itemIds
  | .getStocksForUpdate districtId keys => getStocksForUpdate districtId keys
  | .updateStock request =>
    mapAffected (.updateStock request.newQuantity request.orderedQuantity
      request.remoteIncrement request.warehouseId request.itemId) "stock update"
  | .insertOrderLine request =>
    mapAffected (.insertOrderLine request) "order_line insert"
  | .applyPaymentToLocation request => applyPaymentToLocation request
  | .getCustomerData w d c => getCustomerData w d c
  | .updateCustomerPayment request =>
    mapAffected (.updateCustomerPayment request.newBalance request.newYtdPayment
      request.newPaymentCount (if request.updateData then some request.newData else none)
      request.warehouseId request.districtId request.customerId) "customer payment update"
  | .insertPaymentHistory request =>
    mapAffected (.insertHistory request) "history insert"
  | .getLatestCustomerOrder w d c => getLatestCustomerOrder w d c
  | .getOrderStatusLines w d o => getOrderStatusLines w d o
  | .getOldestNewOrder w d => getOldestNewOrder w d
  | .getDeliveryOrderInfo w d o => getDeliveryOrderInfo w d o
  | .completeOrderDelivery request => completeOrderDelivery request
  | .applyDeliveryToCustomer request =>
    mapAffected (.addCustomerDelivery request.amount request.warehouseId
      request.districtId request.customerId) "customer delivery update"
  | .countRecentLowStock w d threshold recentOrderCount =>
    countRecentLowStock w d threshold recentOrderCount

/-! ## The transaction -/

/-- `TPgTpccTransaction` with the session it works on. -/
structure Transaction where
  session : Session
  terminal : Bool
deriving Repr, DecidableEq

/-- A call on the transaction. -/
abbrev TransactionM := Action driverFace Transaction StdException

/-- Run a session computation and keep its exception as a value. -/
def onSession (computation : SessionM α) : TransactionM (Except StdException α) :=
  computation.attempt.zoom (·.session) (fun transaction session => { transaction with session })

/-- `TPgTpccTransaction::CatchOp`. -/
def catchOp :
    Except StdException TOperationResult → TOperationResult
  | .ok result => result
  | .error ex => failOp (classifyException ex) ex.what (sqlStateOf ex)

/-- `TPgTpccTransaction::Execute`. -/
def execute (op : TSemanticOp) : TransactionM TOperationResult := do
  if (← get).terminal then
    return failOp .permanent "Execute called in terminal state"
  else
    return catchOp (← onSession ((operation op).perform executeStatement))

/-- The result of a commit whose exception has been caught. -/
def commitResultOf : Except StdException Unit → TCommitResult
  | .ok () =>
    { outcome := .committed
      errorClass := .permanent
      nativeCode := ""
      message := "" }
  | .error ex =>
    { outcome :=
        if classifyCommitException ex = .ambiguousCommit then
          .outcomeUnknown
        else
          .rolledBack
      errorClass := classifyCommitException ex
      nativeCode := sqlStateOf ex
      message := ex.what }

/-- `TPgTpccTransaction::Commit`. -/
def commit : TransactionM TCommitResult := do
  if (← get).terminal then
    return {
      outcome := .outcomeUnknown
      errorClass := .permanent
      nativeCode := ""
      message := "Commit called in terminal state" }
  else
    let result ← onSession sessionCommit
    modify fun transaction => { transaction with terminal := true }
    return commitResultOf result

/-- The result of a rollback whose exception has been caught. -/
def rollbackResultOf : Except StdException Unit → TCommitResult
  | .ok () =>
    { outcome := .rolledBack
      errorClass := .permanent
      nativeCode := ""
      message := "" }
  | .error ex =>
    { outcome := .outcomeUnknown
      errorClass := classifyException ex
      nativeCode := sqlStateOf ex
      message := ex.what }

/-- `TPgTpccTransaction::Rollback`. -/
def rollback : TransactionM TCommitResult := do
  if (← get).terminal then
    return {
      outcome := .outcomeUnknown
      errorClass := .permanent
      nativeCode := ""
      message := "Rollback called in terminal state" }
  else
    let result ← onSession sessionRollback
    modify fun transaction => { transaction with terminal := true }
    return rollbackResultOf result

/-- `TPgTpccTransaction::ExecuteBatch`. -/
def executeBatch (ops : List TSemanticOp) : TransactionM TBatchResult :=
  executeInOrder execute ops { ok := true }

/-- `TPgTpccTransaction::ExecuteFinalAndCommit`. -/
def executeFinalAndCommit (op : TSemanticOp) : TransactionM TFinalCommitResult := do
  let operation ← execute op
  if operation.ok then
    return { operation, commit := ← commit }
  else
    return { operation, commit := ← rollback }

/-- The transaction interface as the adapter implements it. -/
def implementation : Implementation workflowFace driverFace Transaction :=
  fun transaction command =>
    match command with
    | .execute op => (execute op).start transaction
    | .executeBatch ops => (executeBatch ops).start transaction
    | .executeFinalAndCommit op =>
      (executeFinalAndCommit op).start transaction
    | .commit => commit.start transaction
    | .rollback => rollback.start transaction
    | .requestStopWithError => .done ((), transaction)

end PortableTpcc.Pg
