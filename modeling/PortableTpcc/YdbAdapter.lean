import PortableTpcc.AdapterParts
import PortableTpcc.AtMostOnceRetry

namespace PortableTpcc.Ydb

/-!
# The YDB adapter

`TYdbTpccTransaction` sends each semantic operation as one or two queries of
the Query Service.  A transaction is opened by the first query, and a query
may carry `CommitTx`.  Payment keeps its location and customer writes back
until the history row is written; Delivery reads all ten districts at once.

The queries are kept as data.  Where a single operation and its batch form
differ only in how the YQL text lists its keys, they share a constructor.
-/

/-- `TYdbStockBatchItem`. -/
structure TYdbStockBatchItem where
  warehouseId : Int
  itemId : Int
  newQuantity : Int
  newYtd : TMoney
  newOrderCount : Int
  newRemoteCount : Int
deriving Repr, DecidableEq

/-- `TPendingPaymentLocation`. -/
structure TPendingPaymentLocation where
  warehouseId : Int
  districtId : Int
  amount : TMoney
deriving Repr, DecidableEq

/-- The YQL texts of the adapter. -/
inductive Query where
  | warehouseTax (w : Int)
  | reserveDistrictOrder (w d : Int)
  | customerById (w d c : Int)
  | customersByLastName (w d : Int) (lastName : String)
  | items (ids : List Int)
  | createOrder (request : TCreateOrder)
  | stocks (districtId : Int) (keys : List TStockKey)
  | updateStock (quantity ordered remote w i : Int)
  | updateStocks (rows : List TYdbStockBatchItem)
  | upsertOrderLines (lines : List TInsertOrderLine)
  | locationNames (w d : Int)
  | customerData (w d c : Int)
  | insertHistory (histId : Int) (request : TInsertPaymentHistory)
  | finishPayment (location : TPendingPaymentLocation) (update : TUpdateCustomerPayment)
      (histId : Int) (history : TInsertPaymentHistory)
  | latestOrder (w d c : Int)
  | orderStatusLines (w d o : Int)
  | oldestNewOrders (w : Int)
  | deliveryInfos (w : Int) (keys : List (Int × Int))
  | deliveryInfo (w d o : Int)
  | completeDeliveries (carrier : Int) (keys : List (Int × Int × Int))
  | addCustomerDelivery (amount : TMoney) (w d c : Int)
  | addCustomerDeliveryAndRead (amount : TMoney) (w d c : Int)
  | addCustomerDeliveries (rows : List TApplyDeliveryToCustomer)
  | districtNextOrder (w d : Int)
  | lowStockCount (w d maxOrderId minOrderId threshold : Int)
deriving Repr, DecidableEq

/-- The parsed result sets of each query. -/
abbrev Query.Reply : Query → Type
  | .warehouseTax _ => List TRate
  | .reserveDistrictOrder _ _ => List (Int × TRate)
  | .customerById _ _ _ => List TCustomerRow
  | .customersByLastName _ _ _ => List TCustomerRow
  | .items _ => List TItemRow
  | .stocks _ _ => List TStockRow
  | .locationNames _ _ => List AddressColumns × List AddressColumns
  | .customerData _ _ _ => List String
  | .latestOrder _ _ _ => List TOrderHeader
  | .orderStatusLines _ _ _ => List TOrderStatusLine
  | .oldestNewOrders _ => List (List Int)
  | .deliveryInfos _ _ =>
    Option (List (Int × Int) × List (Int × TMoney))
  | .deliveryInfo _ _ _ => List Int × List TMoney
  | .completeDeliveries _ _ => Nat × Nat × Nat
  | .addCustomerDeliveryAndRead _ _ _ _ => List Int
  | .addCustomerDeliveries _ => Nat
  | .districtNextOrder _ _ => List Int
  | .lowStockCount _ _ _ _ _ => List Int
  | _ => Unit

/-- How a call that returns only a status ends. -/
inductive SdkStatus where
  | success
  | failure (status : EStatus) (issues : String)
  | raised (ex : StdException)
deriving Repr, DecidableEq

/-- What the adapter asks of the SDK and of its process. -/
inductive Command where
  | executeQuery (query : Query) (inTx commitTx : Bool)
  | commit
  | rollback
  | nextHistoryId
deriving Repr, DecidableEq

/--
The reply to each command.  A query returns its result sets and whether the
result carries a transaction; a status that is not a success is raised.
-/
abbrev Reply : Command → Type
  | .executeQuery query _ _ => Except StdException (query.Reply × Bool)
  | .commit => SdkStatus
  | .rollback => SdkStatus
  | .nextHistoryId => Int

/-- The interface between a transaction and the SDK. -/
abbrev sdkFace : Interface where
  Command := Command
  Reply := Reply

/-- The fields of `TYdbTpccTransaction` that change. -/
structure Transaction where
  tx : Bool := false
  terminal : Bool := false
  finalCommitMode : Bool := false
  pendingPaymentUpdate : Option TUpdateCustomerPayment := none
  pendingPaymentLocation : Option TPendingPaymentLocation := none
  deliveryPrefetch : TDeliveryPrefetch := {}
deriving Repr, DecidableEq

/-- A call on the transaction. -/
abbrev TransactionM := Action sdkFace Transaction StdException

/-- Issue one command of the SDK. -/
def ask (command : Command) : TransactionM (Reply command) :=
  @Action.ask sdkFace Transaction StdException command

/-- `ResetTxnState`. -/
def resetTxnState (transaction : Transaction) : Transaction :=
  { transaction with
    pendingPaymentUpdate := none
    pendingPaymentLocation := none
    deliveryPrefetch := {} }

/-- The transaction after a commit or a rollback. -/
def endTxn (transaction : Transaction) : Transaction :=
  resetTxnState { transaction with terminal := true, tx := false }

/-- `ExecQuery`. -/
def execQuery (query : Query) (commit : Bool) : TransactionM query.Reply := do
  let transaction ← get
  let (reply, hasTx) ← Action.orThrow (← ask (.executeQuery query transaction.tx commit))
  if commit then
    modify endTxn
  else if hasTx then
    modify fun transaction => { transaction with tx := true }
  return reply

/-- The result of a failed operation. -/
def failureOf : StdException → TOperationResult
  | .ydbError status issues =>
    failOp (classifyStatus status false) (ydbIssuesToString status issues)
      (ydbStatusCodeOf status)
  | ex =>
    failOp (classifyException ex false) ex.what

/-- `CatchOp`. -/
def catchOp (computation : TransactionM TOperationResult) :
    TransactionM TOperationResult := do
  match ← computation.attempt with
  | .ok result => return result
  | .error ex => return failureOf ex

/-- `CatchBatch`. -/
def catchBatch (computation : TransactionM TBatchResult) : TransactionM TBatchResult := do
  match ← computation.attempt with
  | .ok result => return result
  | .error ex =>
    let failure := failureOf ex
    return failBatch failure.errorClass failure.message failure.nativeCode

/-! ## Commit and rollback -/

/-- The report of a commit. -/
def commitResultOf : SdkStatus → TCommitResult
  | .success =>
    { outcome := .committed
      errorClass := .permanent
      nativeCode := ""
      message := "" }
  | .failure status issues =>
    failedCommit (classifyStatus status true) (ydbStatusCodeOf status)
      (ydbIssuesToString status issues)
  | .raised ex =>
    failedCommit (classifyException ex true) "" ex.what

/-- A commit or rollback that the SDK is not asked for. -/
def withoutSdk (outcome : ECommitOutcome) (message : String) : TCommitResult :=
  { outcome, errorClass := .permanent, nativeCode := "", message }

/-- `TYdbTpccTransaction::Commit`. -/
def commit : TransactionM TCommitResult := do
  let transaction ← get
  if transaction.terminal then
    return withoutSdk .outcomeUnknown "Commit called in terminal state"
  else if !transaction.tx then
    modify endTxn
    return withoutSdk .committed ""
  else
    let status : SdkStatus ← ask .commit
    modify endTxn
    return commitResultOf status

/-- The report of a rollback. -/
def rollbackResultOf : SdkStatus → TCommitResult
  | .success =>
    { outcome := .rolledBack
      errorClass := .permanent
      nativeCode := ""
      message := "" }
  | .failure status issues =>
    { outcome := .outcomeUnknown
      errorClass := classifyStatus status false
      nativeCode := ydbStatusCodeOf status
      message := ydbIssuesToString status issues }
  | .raised ex =>
    { outcome := .outcomeUnknown
      errorClass := classifyException ex false
      nativeCode := ""
      message := ex.what }

/-- `TYdbTpccTransaction::Rollback`. -/
def rollback : TransactionM TCommitResult := do
  let transaction ← get
  if transaction.terminal then
    return withoutSdk .outcomeUnknown "Rollback called in terminal state"
  else if !transaction.tx then
    modify endTxn
    return withoutSdk .rolledBack ""
  else
    let status : SdkStatus ← ask .rollback
    modify endTxn
    return rollbackResultOf status

/-- `RollbackThenFailOp`. -/
def rollbackThenFailOp (errorClass : EErrorClass)
    (message : String) : TransactionM TOperationResult := do
  let _ ← rollback
  return failOp errorClass message

/-- `RollbackThenFailBatch`. -/
def rollbackThenFailBatch (errorClass : EErrorClass)
    (message : String) : TransactionM TBatchResult := do
  let _ ← rollback
  return failBatch errorClass message

/-! ## Semantic operations -/

/-- One query whose result sets alone decide the operation. -/
def queryOp (query : Query) (commit : Bool) (read : query.Reply → TOperationResult) :
    TransactionM TOperationResult := do
  let reply ← execQuery query commit
  return read reply

/-- `TReserveDistrictOrderId`. -/
def reserveDistrictOrderId (w d : Int) : TransactionM TOperationResult := do
  let rows : List (Int × TRate) ←
    execQuery (.reserveDistrictOrder w d) false
  match rows with
  | [] => rollbackThenFailOp .integrity "district not found"
  | (nextOrderId, districtTax) :: _ =>
    return okOp 1 1 (.reservation { nextOrderId, districtTax })

/-- The names that `TApplyPaymentToLocation` reads. -/
def locationInfo (wh dist : AddressColumns) : TWarehouseDistrictInfo :=
  { warehouseName := wh.name
    warehouseStreet1 := wh.street1
    warehouseStreet2 := wh.street2
    warehouseCity := wh.city
    warehouseState := wh.state
    warehouseZip := wh.zip
    districtName := dist.name
    districtStreet1 := dist.street1
    districtStreet2 := dist.street2
    districtCity := dist.city
    districtState := dist.state
    districtZip := dist.zip }

/-- `TApplyPaymentToLocation`, which only reads and remembers the amount. -/
def applyPaymentToLocation (request : TApplyPaymentToLocation) :
    TransactionM TOperationResult := do
  let sets : List AddressColumns × List AddressColumns ←
    execQuery (.locationNames request.warehouseId request.districtId) false
  match sets with
  | (wh :: _, dist :: _) =>
    modify fun transaction =>
      { transaction with
        pendingPaymentLocation := some
          { warehouseId := request.warehouseId
            districtId := request.districtId
            amount := request.amount } }
    return okOp 2 2 (.location (locationInfo wh dist))
  | _ =>
    return failOp .integrity "warehouse or district not found"

/-- `TUpdateCustomerPayment`, which is applied with the history insert. -/
def updateCustomerPayment (request : TUpdateCustomerPayment) : TransactionM TOperationResult := do
  modify fun transaction => { transaction with pendingPaymentUpdate := some request }
  return okOp 1 1

/-- `TInsertPaymentHistory` outside a pending payment. -/
def insertPaymentHistory (finalCommit : Bool)
    (request : TInsertPaymentHistory) : TransactionM TOperationResult := do
  let histId : Int ← ask .nextHistoryId
  queryOp (.insertHistory histId request) finalCommit fun _ => okOp 1 1

/-- `TGetLatestCustomerOrder`. -/
def readLatestOrder (rows : List TOrderHeader) : TOperationResult :=
  match rows with
  | [] => okOp 0 0
  | header :: _ => okOp 1 1 (.orderHeader header)

/-- `DeliveryCardinalityError`. -/
def deliveryCardinalityError (newOrders orders lines n expectedLines : Nat) :
    Option (EErrorClass × String) :=
  if newOrders < n then
    some (.retryableAbort, "new_order row already claimed by concurrent delivery")
  else if newOrders ≠ n then
    some (.integrity, "new_order delivery delete")
  else if orders ≠ n then
    some (.integrity, "order carrier update")
  else if lines ≠ expectedLines then
    some (.integrity, "order_line delivery update")
  else
    none

/-- `TCompleteOrderDelivery`. -/
def completeOrderDelivery (request : TCompleteOrderDelivery) :
    TransactionM TOperationResult := do
  let counts : Nat × Nat × Nat ← execQuery (.completeDeliveries request.carrierId
    [(request.warehouseId, request.districtId, request.orderId)]) false
  match deliveryCardinalityError counts.1 counts.2.1 counts.2.2 1 request.lineCount.toNat with
  | some (errorClass, message) => rollbackThenFailOp errorClass message
  | none => return okOp 3 3

/-- `TCountRecentLowStock`. -/
def countRecentLowStock (finalCommit : Bool) (w d threshold recentOrderCount : Int) :
    TransactionM TOperationResult := do
  let districts : List Int ← execQuery (.districtNextOrder w d) false
  match districts with
  | [] => return failOp .integrity "district not found"
  | nextOid :: _ =>
    queryOp (.lowStockCount w d nextOid (nextOid - recentOrderCount) threshold)
      finalCommit fun counts => okOp 1 1 (.int (counts.headD 0))

/-! ## The delivery prefetch -/

/-- The two queries of `EnsureDeliveryPrefetch`. -/
def loadDeliveryPrefetch (w : Int) : TransactionM TOperationResult := do
  let sets : List (List Int) ← execQuery (.oldestNewOrders w) false
  if sets.length ≠ 10 then
    rollbackThenFailOp .integrity "delivery oldest prefetch size mismatch"
  else
    let oldest := sets.map List.head?
    modify fun transaction =>
      { transaction with
        deliveryPrefetch := { transaction.deliveryPrefetch with oldestOrderId := oldest } }
    if foundOrders oldest = [] then
      modify fun transaction =>
        { transaction with
          deliveryPrefetch := { transaction.deliveryPrefetch with loaded := true } }
      return okOp 0 0
    else
      let infos : Option (List (Int × Int) × List (Int × TMoney)) ←
        execQuery (.deliveryInfos w (foundOrders oldest)) false
      match infos with
      | none =>
        rollbackThenFailOp .integrity "delivery info prefetch size mismatch"
      | some (orders, lines) =>
        let info := addLines lines (addOrders orders (List.replicate 10 none))
        modify fun transaction =>
          { transaction with deliveryPrefetch := { transaction.deliveryPrefetch with info } }
        if missingInfo oldest info then
          rollbackThenFailOp .integrity "order not found"
        else
          modify fun transaction =>
            { transaction with
              deliveryPrefetch := { transaction.deliveryPrefetch with loaded := true } }
          return okOp (foundOrders oldest).length (foundOrders oldest).length

/-- `EnsureDeliveryPrefetch`. -/
def ensureDeliveryPrefetch (w : Int) : TransactionM TOperationResult := do
  let prefetch := (← get).deliveryPrefetch
  if prefetch.loaded && prefetch.warehouseId = w then
    return okOp 1 1
  else
    modify fun transaction => { transaction with deliveryPrefetch := { warehouseId := w } }
    let result ← catchOp (loadDeliveryPrefetch w)
    let transaction ← get
    if !result.ok && !transaction.terminal then
      let _ ← rollback
      return result
    else
      return result

/-- `TGetOldestNewOrder`. -/
def getOldestNewOrder (w d : Int) : TransactionM TOperationResult := do
  let prefetched ← ensureDeliveryPrefetch w
  if !prefetched.ok then
    return prefetched
  else
    return oldestFromCache (← get).deliveryPrefetch d

/-- One order and its lines, read without the prefetch. -/
def readDeliveryInfo (sets : List Int × List TMoney) : TOperationResult :=
  match sets.1 with
  | [] => failOp .integrity "order not found"
  | customerId :: _ =>
    okOp 1 1 (.deliveryInfo
        { customerId
          totalAmount := sets.2.sum
          lineCount := sets.2.length })

/-- `TGetDeliveryOrderInfo`. -/
def getDeliveryOrderInfo (w d o : Int) : TransactionM TOperationResult := do
  let prefetch := (← get).deliveryPrefetch
  if prefetch.loaded && prefetch.warehouseId = w then
    return deliveryInfoFromCache prefetch d o
  else
    queryOp (.deliveryInfo w d o) false readDeliveryInfo

/-- The body of `TYdbTpccTransaction::Execute`, inside `CatchOp`. -/
def operation (finalCommit : Bool) : TSemanticOp → TransactionM TOperationResult
  | .getWarehouseTax w =>
    queryOp (.warehouseTax w) false fun rows => firstRow rows "warehouse not found" .rate
  | .reserveDistrictOrderId w d => reserveDistrictOrderId w d
  | .getCustomerById w d c =>
    queryOp (.customerById w d c) false fun rows => firstRow rows "customer not found" .customer
  | .getCustomersByLastName w d lastName =>
    queryOp (.customersByLastName w d lastName) false fun rows =>
      okOp rows.length rows.length (.customers rows)
  | .getItems itemIds =>
    queryOp (.items itemIds.dedup) false fun rows =>
      expectedRows rows itemIds.dedup.length "item not found" (.items rows)
  | .createOrder request =>
    queryOp (.createOrder request) false fun _ => okOp 2 2
  | .getStocksForUpdate districtId keys =>
    queryOp (.stocks districtId keys) false fun rows =>
      expectedRows rows keys.length "stock not found" (.stocks rows)
  | .updateStock request =>
    queryOp (.updateStock request.newQuantity request.orderedQuantity
      request.remoteIncrement request.warehouseId request.itemId) false fun _ => okOp 1 1
  | .insertOrderLine request =>
    queryOp (.upsertOrderLines [request]) finalCommit fun _ => okOp 1 1
  | .applyPaymentToLocation request => applyPaymentToLocation request
  | .getCustomerData w d c =>
    queryOp (.customerData w d c) false fun rows => firstRow rows "customer not found" .text
  | .updateCustomerPayment request => updateCustomerPayment request
  | .insertPaymentHistory request =>
    insertPaymentHistory finalCommit request
  | .getLatestCustomerOrder w d c =>
    queryOp (.latestOrder w d c) false readLatestOrder
  | .getOrderStatusLines w d o =>
    queryOp (.orderStatusLines w d o) finalCommit fun lines =>
      okOp lines.length lines.length (.orderLines lines)
  | .getOldestNewOrder w d => getOldestNewOrder w d
  | .getDeliveryOrderInfo w d o => getDeliveryOrderInfo w d o
  | .completeOrderDelivery request => completeOrderDelivery request
  | .applyDeliveryToCustomer request =>
    queryOp (.addCustomerDelivery request.amount request.warehouseId
      request.districtId request.customerId) finalCommit fun _ => okOp 1 1
  | .countRecentLowStock w d threshold recentOrderCount =>
    countRecentLowStock finalCommit w d threshold recentOrderCount

/-- `TYdbTpccTransaction::Execute`. -/
def execute (op : TSemanticOp) : TransactionM TOperationResult := do
  let transaction ← get
  if transaction.terminal then
    return failOp .permanent "Execute called in terminal state"
  else
    catchOp (operation transaction.finalCommitMode op)

/-! ## Batches -/

/-- The row that `AggregateYdbStockUpdates` writes for one update. -/
def stockBatchItem (update : TUpdateStock) : TYdbStockBatchItem :=
  { warehouseId := update.warehouseId
    itemId := update.itemId
    newQuantity := update.newQuantity
    newYtd := update.newYtd
    newOrderCount := update.newOrderCount
    newRemoteCount := update.newRemoteCount }

/-- The primary key of an aggregated row. -/
def TYdbStockBatchItem.key (row : TYdbStockBatchItem) : TStockKey :=
  { warehouseId := row.warehouseId, itemId := row.itemId }

/-- Overwrite the row of the same key, or append a new one. -/
def putStockRow (row : TYdbStockBatchItem) :
    List TYdbStockBatchItem → List TYdbStockBatchItem
  | [] => [row]
  | first :: rest =>
    if first.key = row.key then
      row :: rest
    else
      first :: putStockRow row rest

/-- `AggregateYdbStockUpdates`: the last update of each key, in order. -/
def aggregateYdbStockUpdates (updates : List TUpdateStock) : List TYdbStockBatchItem :=
  updates.foldl (fun rows update => putStockRow (stockBatchItem update) rows) []

/-- `ExecuteStockBatch`. -/
def executeStockBatch (updates : List TUpdateStock) : TransactionM TBatchResult :=
  catchBatch do
    let _ ← execQuery (.updateStocks (aggregateYdbStockUpdates updates)) false
    return okBatch updates.length

/-- `ExecuteOrderLineBatch`. -/
def executeOrderLineBatch (lines : List TInsertOrderLine) : TransactionM TBatchResult :=
  catchBatch do
    let _ ← execQuery (.upsertOrderLines lines) false
    return okBatch lines.length

/-- `ExecuteCompleteDeliveryBatch`. -/
def executeCompleteDeliveryBatch (rows : List TCompleteOrderDelivery) : TransactionM TBatchResult :=
  catchBatch do
    let counts : Nat × Nat × Nat ← execQuery
      (.completeDeliveries ((rows.head?.map (·.carrierId)).getD 0) (rows.map fun row =>
          (row.warehouseId, row.districtId, row.orderId))) false
    match deliveryCardinalityError counts.1 counts.2.1 counts.2.2
        rows.length (rows.map fun row => row.lineCount.toNat).sum with
    | some (errorClass, message) =>
      rollbackThenFailBatch errorClass message
    | none => return okBatch rows.length

/-- `ExecuteApplyDeliveryBatch`. -/
def executeApplyDeliveryBatch (rows : List TApplyDeliveryToCustomer) : TransactionM TBatchResult :=
  catchBatch do
    let count : Nat ← execQuery (.addCustomerDeliveries rows) false
    if count ≠ rows.length then
      rollbackThenFailBatch .integrity "customer delivery update"
    else
      return okBatch rows.length

/-- `TYdbTpccTransaction::ExecuteBatch`, by the kind all operations share. -/
def executeBatch (ops : List TSemanticOp) : TransactionM TBatchResult := do
  let transaction ← get
  if transaction.terminal then
    return failBatch .permanent "ExecuteBatch called in terminal state"
  else if ops = [] then
    return { ok := true }
  else
    match ops.mapM asUpdateStock?, ops.mapM asInsertOrderLine?, ops.mapM asCompleteOrderDelivery?,
        ops.mapM asApplyDeliveryToCustomer? with
    | some updates, _, _, _ => executeStockBatch updates
    | none, some lines, _, _ => executeOrderLineBatch lines
    | none, none, some rows, _ => executeCompleteDeliveryBatch rows
    | none, none, none, some rows => executeApplyDeliveryBatch rows
    | none, none, none, none => executeInOrder execute ops { ok := true }

/-! ## The final operation -/

/-- `FailFinal`. -/
def failFinal (errorClass : EErrorClass) (message : String) : TFinalCommitResult :=
  { operation := failOp errorClass message
    commit := failedCommit errorClass "" message }

/-- `CommitAfterOperation`. -/
def commitAfterOperation (operation : TOperationResult) : TransactionM TFinalCommitResult := do
  let transaction ← get
  if !operation.ok then
    return { operation, commit := ← rollback }
  else if transaction.terminal then
    return { operation, commit := withoutSdk .committed "" }
  else
    return { operation, commit := ← commit }

/-- `FinishPayment`: all writes of a payment in one query that commits. -/
def finishPayment (update : TUpdateCustomerPayment) (history : TInsertPaymentHistory) :
    TransactionM TFinalCommitResult := do
  match (← get).pendingPaymentLocation with
  | none => return failFinal .permanent "payment location was not applied"
  | some location =>
    modify fun transaction => { transaction with pendingPaymentLocation := none }
    let histId : Int ← ask .nextHistoryId
    let operation ← catchOp <|
      queryOp (.finishPayment location update histId history) true
        fun _ => okOp 1 1
    commitAfterOperation operation

/-- The row that `FinishApplyDelivery` reads back. -/
def readAppliedDelivery (rows : List Int) : TOperationResult :=
  match rows with
  | [] => failOp .integrity "customer delivery update"
  | _ :: _ => okOp 1 1

/-- `FinishApplyDelivery`. -/
def finishApplyDelivery (apply : TApplyDeliveryToCustomer) :
    TransactionM TFinalCommitResult := do
  let operation ← catchOp <|
    queryOp (.addCustomerDeliveryAndRead apply.amount apply.warehouseId
      apply.districtId apply.customerId) false readAppliedDelivery
  commitAfterOperation operation

/-- The last operation of any other workflow, in `FinalCommitMode_`. -/
def executeFinal (op : TSemanticOp) : TransactionM TFinalCommitResult := do
  modify fun transaction => { transaction with finalCommitMode := true }
  let operation ← execute op
  modify fun transaction => { transaction with finalCommitMode := false }
  commitAfterOperation operation

/-- `TYdbTpccTransaction::ExecuteFinalAndCommit`. -/
def executeFinalAndCommit (op : TSemanticOp) : TransactionM TFinalCommitResult := do
  let transaction ← get
  if transaction.terminal then
    return failFinal .permanent "ExecuteFinalAndCommit called in terminal state"
  else
    match transaction.pendingPaymentUpdate, op with
    | some update, .insertPaymentHistory history =>
      modify fun transaction => { transaction with pendingPaymentUpdate := none }
      finishPayment update history
    | _, .applyDeliveryToCustomer apply => finishApplyDelivery apply
    | _, op => executeFinal op

/-- The transaction interface as the adapter implements it. -/
def implementation : Implementation workflowFace sdkFace Transaction :=
  fun transaction command =>
    match command with
    | .execute op => (execute op).start transaction
    | .executeBatch ops => (executeBatch ops).start transaction
    | .executeFinalAndCommit op =>
      (executeFinalAndCommit op).start transaction
    | .commit => commit.start transaction
    | .rollback => rollback.start transaction
    | .requestStopWithError => .done ((), transaction)

end PortableTpcc.Ydb
