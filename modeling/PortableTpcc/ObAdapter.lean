import Mathlib.Data.List.Sort
import PortableTpcc.ObSession
import PortableTpcc.Workflows

namespace PortableTpcc.Ob

/-!
# The OceanBase adapter

`TObTpccTransaction` maps the semantic operations to statements of one
session.  The customer update of a Payment is kept back and sent together
with the history row; a Delivery reads its ten districts in two scripts; and
a batch of like operations becomes one statement.
-/

/-- `ObBatchMaxRows`. -/
def obBatchMaxRows : Nat := 15

/-- `DISTRICT_COUNT`. -/
def districtCount : Nat := 10

/-- The conversion of an `int` to `uint64_t`. -/
def toUint64 (value : Int) : Nat :=
  (value % 2 ^ 64).toNat

/-- `TObStockBatchItem`. -/
structure TObStockBatchItem where
  warehouseId : Int
  itemId : Int
  newQuantity : Int
  orderedQuantity : Int
  remoteIncrement : Int
  lineCount : Int
deriving Repr, DecidableEq

/-- The primary key of an aggregated row. -/
def TObStockBatchItem.key (row : TObStockBatchItem) : TStockKey :=
  { warehouseId := row.warehouseId, itemId := row.itemId }

/-- The row that the first update of a key starts. -/
def stockBatchItem (update : TUpdateStock) : TObStockBatchItem :=
  { warehouseId := update.warehouseId
    itemId := update.itemId
    newQuantity := update.newQuantity
    orderedQuantity := update.orderedQuantity
    remoteIncrement := update.remoteIncrement
    lineCount := 1 }

/-- One more update of a key: the last quantity counts, the rest adds up. -/
def TObStockBatchItem.add (row : TObStockBatchItem) (update : TUpdateStock) : TObStockBatchItem :=
  { row with
    newQuantity := update.newQuantity
    orderedQuantity := row.orderedQuantity + update.orderedQuantity
    remoteIncrement := row.remoteIncrement + update.remoteIncrement
    lineCount := row.lineCount + 1 }

/-- Add an update to the row of its key, or append a new row. -/
def addStockUpdate (update : TUpdateStock) :
    List TObStockBatchItem → List TObStockBatchItem
  | [] => [stockBatchItem update]
  | row :: rest =>
    if row.key = (stockBatchItem update).key then
      row.add update :: rest
    else
      row :: addStockUpdate update rest

/-- `AggregateObStockUpdates`. -/
def aggregateObStockUpdates (updates : List TUpdateStock) : List TObStockBatchItem :=
  updates.foldl (fun rows update => addStockUpdate update rows) []

/-- `UniqueItemIds`. -/
def uniqueItemIds (ids : List Int) : List Int :=
  ids.dedup.insertionSort (· ≤ ·)

/-- The order of `UniqueSortedStockKeys`. -/
def stockKeyLe (left right : TStockKey) : Bool :=
  left.warehouseId < right.warehouseId ∨
    left.warehouseId = right.warehouseId ∧ left.itemId ≤ right.itemId

/-- `UniqueSortedStockKeys`. -/
def uniqueSortedStockKeys (keys : List TStockKey) : List TStockKey :=
  keys.dedup.insertionSort (stockKeyLe · ·)

/-- `QuoteSqlString`: the literal, or the message of the exception. -/
def quoteSqlString (value : String) : Except String String :=
  if value = "" then
    .error "empty SQL string literal"
  else if value.toList.any
      fun ch => ch.toNat = 39 ∨ ch.toNat = 92 ∨ ch.toNat = 0 then
    .error ("invalid SQL string literal '" ++ value ++ "'")
  else
    .ok ("'" ++ value ++ "'")

/-! ## The transaction -/

/-- `TObTpccTransaction` with the session it works on. -/
structure Transaction where
  session : Session
  terminal : Bool := false
  paymentLocationApplied : Bool := false
  pendingPaymentUpdate : Option TUpdateCustomerPayment := none
  deliveryPrefetch : TDeliveryPrefetch := {}
deriving Repr, DecidableEq

/-- A call on the transaction. -/
abbrev TransactionM := Action driverFace Transaction StdException

/-- Run a session computation as part of the transaction. -/
def onSession (computation : SessionM α) : TransactionM α :=
  computation.zoom (·.session) (fun transaction session => { transaction with session })

/-- Send one statement. -/
def send (statement : Statement) : TransactionM statement.Reply :=
  onSession (executeStatement statement)

/-- `ResetTxnState`, once the transaction has come to its end. -/
def endTxn (transaction : Transaction) : Transaction :=
  { session := transaction.session, terminal := true }

/-- `CatchOp`. -/
def catchOp (computation : TransactionM TOperationResult) :
    TransactionM TOperationResult := do
  match ← computation.attempt with
  | .ok result => return result
  | .error ex =>
    return failOp (classifyException ex) ex.what (nativeCodeOf ex)

/-- `CatchBatch`. -/
def catchBatch (computation : TransactionM TBatchResult) : TransactionM TBatchResult := do
  match ← computation.attempt with
  | .ok result => return result
  | .error ex =>
    return failBatch (classifyException ex) ex.what (nativeCodeOf ex)

/-- `FailFinal`. -/
def failFinal (errorClass : EErrorClass) (message : String)
    (code : String := "") : TFinalCommitResult :=
  { operation := failOp errorClass message code
    commit := failedCommit errorClass code message }

/-- `CatchFinal`, before any commit was attempted. -/
def catchFinal (computation : TransactionM TFinalCommitResult) :
    TransactionM TFinalCommitResult := do
  match ← computation.attempt with
  | .ok result => return result
  | .error ex =>
    modify endTxn
    return failFinal (classifyException ex) ex.what (nativeCodeOf ex)

/-- The report of a call in the terminal state. -/
def inTerminalState (message : String) : TCommitResult :=
  { outcome := .outcomeUnknown
    errorClass := .permanent
    nativeCode := ""
    message }

/-- The report of a commit whose exception has been caught. -/
def commitResultOf : Except StdException Unit → TCommitResult
  | .ok () =>
    { outcome := .committed
      errorClass := .permanent
      nativeCode := ""
      message := "" }
  | .error ex =>
    failedCommit (classifyCommitException ex) (nativeCodeOf ex) ex.what

/-- `TObTpccTransaction::Commit`. -/
def commit : TransactionM TCommitResult := do
  let transaction ← get
  if transaction.terminal then
    return inTerminalState "Commit called in terminal state"
  else
    let result ← (onSession sessionCommit).attempt
    modify endTxn
    return commitResultOf result

/-- The report of a rollback whose exception has been caught. -/
def rollbackResultOf : Except StdException Unit → TCommitResult
  | .ok () =>
    { outcome := .rolledBack
      errorClass := .permanent
      nativeCode := ""
      message := "" }
  | .error ex =>
    { outcome := .outcomeUnknown
      errorClass := classifyException ex
      nativeCode := nativeCodeOf ex
      message := ex.what }

/-- `TObTpccTransaction::Rollback`. -/
def rollback : TransactionM TCommitResult := do
  let transaction ← get
  if transaction.terminal then
    return inTerminalState "Rollback called in terminal state"
  else
    let result ← (onSession sessionRollback).attempt
    modify endTxn
    return rollbackResultOf result

/-! ## Semantic operations -/

/-- `CheckAffected`. -/
def checkAffected (actual expected : Nat) (what : String) : TOperationResult :=
  if actual ≠ expected then
    failOp .integrity (what ++ ": affected " ++ toString actual ++
      " rows, expected " ++ toString expected)
  else
    okOp expected actual

/-- One query whose rows alone decide the operation. -/
def queryOp (text : Query) (read : List text.Row → TOperationResult) :
    TransactionM TOperationResult := do
  let rows : List text.Row ← send (.query text)
  return read rows

/-- `MapAffected`. -/
def mapAffected (text : Modify) (what : String) : TransactionM TOperationResult := do
  let actual : Nat ← send (.modify text)
  return checkAffected actual 1 what

/-- A statement whose row count must match before the operation goes on. -/
def modifyThen (text : Modify) (expected : Nat) (what : String)
    (next : TransactionM TOperationResult) :
    TransactionM TOperationResult := do
  let actual : Nat ← send (.modify text)
  if (checkAffected actual expected what).ok then
    next
  else
    return checkAffected actual expected what

/-- `TReserveDistrictOrderId`. -/
def reserveDistrictOrderId (w d : Int) : TransactionM TOperationResult := do
  let rows : List (Int × TRate) ←
    send (.query (.districtNextOrderForUpdate w d))
  match rows with
  | [] => return failOp .integrity "district not found"
  | (nextId, tax) :: _ =>
    modifyThen (.updateDistrictNextOrder (nextId + 1) w d) 1 "district next order update" <|
      return okOp 1 1 (.reservation { nextOrderId := nextId, districtTax := tax })

/-- `TGetCustomerById`, which locks the row inside a Payment. -/
def getCustomerById (w d c : Int) : TransactionM TOperationResult := do
  let transaction ← get
  queryOp (.customerById transaction.paymentLocationApplied w d c)
    fun rows => firstRow rows "customer not found" .customer

/-- `TGetCustomersByLastName`, which locks the rows inside a Payment. -/
def getCustomersByLastName (w d : Int) (lastName : String) : TransactionM TOperationResult := do
  let transaction ← get
  queryOp (.customersByLastName transaction.paymentLocationApplied w d lastName)
    fun rows => okOp rows.length rows.length (.customers rows)

/-- `TGetItems`. -/
def getItems (itemIds : List Int) : TransactionM TOperationResult :=
  let ids := uniqueItemIds itemIds
  if ids = [] then
    return okOp 0 0 (.items [])
  else if ids.length > obBatchMaxRows then
    return failOp .permanent "too many items in TGetItems"
  else
    queryOp (.items ids) fun rows => expectedRows rows ids.length "item not found" (.items rows)

/-- `TGetStocksForUpdate`. -/
def getStocksForUpdate (districtId : Int) (stocks : List TStockKey) :
    TransactionM TOperationResult :=
  let keys := uniqueSortedStockKeys stocks
  if keys = [] then
    return okOp 0 0 (.stocks [])
  else if keys.length > obBatchMaxRows then
    return failOp .permanent "too many stock keys in TGetStocksForUpdate"
  else
    queryOp (.stocksForUpdate districtId keys) fun rows =>
      expectedRows rows keys.length "stock not found" (.stocks rows)

/-- `TCreateOrder`. -/
def createOrder (request : TCreateOrder) : TransactionM TOperationResult :=
  modifyThen (.insertOrder request) 1 "oorder insert" <|
    modifyThen (.insertNewOrder request) 1 "new_order insert" <|
      return okOp 2 2

/-- `TCountRecentLowStock`. -/
def countRecentLowStock (w d threshold recentOrderCount : Int) :
    TransactionM TOperationResult := do
  let districts : List Int ← send (.query (.districtNextOrder w d))
  match districts with
  | [] => return failOp .integrity "district not found"
  | nextOid :: _ =>
    queryOp (.lowStockCount w d nextOid (nextOid - recentOrderCount) threshold)
      fun counts => okOp 1 1 (.int (counts.headD 0))

/-- `TApplyPaymentToLocation`. -/
def applyPaymentToLocation (request : TApplyPaymentToLocation) :
    TransactionM TOperationResult := do
  let reply : List Nat × List (List TWarehouseDistrictInfo) ←
    send (.multi (.paymentLocation request))
  if reply.1.headD 0 = 0 then
    return failOp .integrity "warehouse or district payment update"
  else
    match (reply.2.headD []).head? with
    | none =>
      return failOp .integrity "warehouse or district not found"
    | some info =>
      modify fun transaction => { transaction with paymentLocationApplied := true }
      return okOp 2 2 (.location info)

/-- `TUpdateCustomerPayment`, which is only remembered. -/
def updateCustomerPayment (request : TUpdateCustomerPayment) : TransactionM TOperationResult := do
  modify fun transaction => { transaction with pendingPaymentUpdate := some request }
  return okOp 1 1

/-- The row of `TGetLatestCustomerOrder`. -/
def readLatestOrder (rows : List TOrderHeader) : TOperationResult :=
  match rows with
  | [] => okOp 0 0
  | header :: _ => okOp 1 1 (.orderHeader header)

/-- `TCompleteOrderDelivery`. -/
def completeOrderDelivery (request : TCompleteOrderDelivery) :
    TransactionM TOperationResult := do
  let deleted : Nat ← send (.modify (.deleteNewOrder request))
  if deleted = 0 then
    return failOp .retryableAbort "new_order row already claimed by concurrent delivery"
  else if deleted ≠ 1 then
    return checkAffected deleted 1 "new_order delivery delete"
  else
    modifyThen (.updateOrderCarrier request) 1 "order carrier update" <|
      modifyThen (.updateOrderLineDelivery request)
          (toUint64 request.lineCount) "order_line delivery update" <|
        return okOp 3 3

/-- The two scripts of `EnsureDeliveryPrefetch`. -/
def loadDeliveryPrefetch (w : Int) : TransactionM TOperationResult := do
  let sets : List (List Int) ← send (.multi (.oldestNewOrders w))
  if sets.length ≠ districtCount then
    return failOp .integrity "delivery oldest prefetch size mismatch"
  else
    let oldest := sets.map List.head?
    modify fun transaction =>
      { transaction with
        deliveryPrefetch := { transaction.deliveryPrefetch with oldestOrderId := oldest } }
    if foundOrders oldest = [] then
      modify fun transaction =>
        { transaction with
          deliveryPrefetch := { transaction.deliveryPrefetch with loaded := true } }
      return okOp 0 0
    else
      let infos : Option (List (Int × Int) × List (Int × TMoney)) ←
        send (.multi (.deliveryOrderInfo w (foundOrders oldest)))
      match infos with
      | none =>
        return failOp .integrity "delivery info prefetch size mismatch"
      | some (orders, lines) =>
        let info := addLines lines (addOrders orders (List.replicate districtCount none))
        modify fun transaction =>
          { transaction with deliveryPrefetch := { transaction.deliveryPrefetch with info } }
        if missingInfo oldest info then
          return failOp .integrity "order not found"
        else
          modify fun transaction =>
            { transaction with
              deliveryPrefetch := { transaction.deliveryPrefetch with loaded := true } }
          return okOp (foundOrders oldest).length (foundOrders oldest).length

/-- `EnsureDeliveryPrefetch`. -/
def ensureDeliveryPrefetch (w : Int) : TransactionM TOperationResult := do
  let transaction ← get
  if transaction.deliveryPrefetch.loaded && transaction.deliveryPrefetch.warehouseId = w then
    return okOp 1 1
  else
    modify fun transaction => { transaction with deliveryPrefetch := { warehouseId := w } }
    loadDeliveryPrefetch w

/-- `TGetOldestNewOrder`. -/
def getOldestNewOrder (w d : Int) : TransactionM TOperationResult := do
  let prefetched ← ensureDeliveryPrefetch w
  if !prefetched.ok then
    return prefetched
  else
    let transaction ← get
    return oldestFromCache transaction.deliveryPrefetch d

/-- `TGetDeliveryOrderInfo`. -/
def getDeliveryOrderInfo (w d o : Int) : TransactionM TOperationResult := do
  let transaction ← get
  if transaction.deliveryPrefetch.loaded && transaction.deliveryPrefetch.warehouseId = w then
    return deliveryInfoFromCache transaction.deliveryPrefetch d o
  else
    let customers : List Int ← send (.query (.orderCustomer w d o))
    match customers with
    | [] => return failOp .integrity "order not found"
    | customerId :: _ =>
      queryOp (.orderLineAmounts w d o) fun amounts =>
        okOp 1 1 (.deliveryInfo
            { customerId
              totalAmount := amounts.sum
              lineCount := amounts.length })

/-- The body of `TObTpccTransaction::Execute`, inside `CatchOp`. -/
def operation : TSemanticOp → TransactionM TOperationResult
  | .getWarehouseTax w =>
    queryOp (.warehouseTax w) fun rows => firstRow rows "warehouse not found" .rate
  | .reserveDistrictOrderId w d => reserveDistrictOrderId w d
  | .getCustomerById w d c => getCustomerById w d c
  | .getCustomersByLastName w d lastName =>
    getCustomersByLastName w d lastName
  | .getItems itemIds => getItems itemIds
  | .createOrder request => createOrder request
  | .getStocksForUpdate districtId stocks =>
    getStocksForUpdate districtId stocks
  | .updateStock request => mapAffected (.updateStock request) "stock update"
  | .insertOrderLine request =>
    mapAffected (.insertOrderLine request) "order_line insert"
  | .applyPaymentToLocation request => applyPaymentToLocation request
  | .getCustomerData w d c =>
    queryOp (.customerData w d c) fun rows => firstRow rows "customer not found" .text
  | .updateCustomerPayment request => updateCustomerPayment request
  | .insertPaymentHistory request =>
    mapAffected (.insertHistory request) "history insert"
  | .getLatestCustomerOrder w d c =>
    queryOp (.latestOrder w d c) readLatestOrder
  | .getOrderStatusLines w d o =>
    queryOp (.orderStatusLines w d o) fun lines =>
      okOp lines.length lines.length (.orderLines lines)
  | .getOldestNewOrder w d => getOldestNewOrder w d
  | .getDeliveryOrderInfo w d o => getDeliveryOrderInfo w d o
  | .completeOrderDelivery request => completeOrderDelivery request
  | .applyDeliveryToCustomer request =>
    mapAffected (.addCustomerDelivery request) "customer delivery update"
  | .countRecentLowStock w d threshold recentOrderCount =>
    countRecentLowStock w d threshold recentOrderCount

/-- `TObTpccTransaction::Execute`. -/
def execute (op : TSemanticOp) : TransactionM TOperationResult := do
  let transaction ← get
  if transaction.terminal then
    return failOp .permanent "Execute called in terminal state"
  else
    catchOp (operation op)

/-! ## Batches -/

/-- A batch whose one check decides it. -/
def batchOf (check : TOperationResult) (count : Nat) : TBatchResult :=
  if check.ok then
    okBatch count
  else
    failBatch check.errorClass check.message check.nativeCode

/-- `ExecuteBatchSequentially`. -/
def executeBatchSequentially (ops : List TSemanticOp) : TransactionM TBatchResult :=
  executeInOrder execute ops { ok := true }

/-- `ExecuteStockBatch`. -/
def executeStockBatch (updates : List TUpdateStock) : TransactionM TBatchResult :=
  let rows := aggregateObStockUpdates updates
  if rows = [] ∨ rows.length > obBatchMaxRows then
    executeBatchSequentially (updates.map .updateStock)
  else
    catchBatch do
      let affected : Nat ← send (.modify (.updateStocks updates))
      return batchOf (checkAffected affected rows.length "stock update batch") updates.length

/-- `ExecuteOrderLineBatch`. -/
def executeOrderLineBatch (lines : List TInsertOrderLine) : TransactionM TBatchResult :=
  if lines.length > obBatchMaxRows then
    executeBatchSequentially (lines.map .insertOrderLine)
  else
    catchBatch do
      let affected : Nat ← send (.modify (.insertOrderLines lines))
      return batchOf (checkAffected affected lines.length "order_line insert batch") lines.length

/-- The counts of the script that completes the deliveries. -/
def readCompleteDelivery (affected : List Nat) (count expectedLines : Nat) : TBatchResult :=
  match affected with
  | deleted :: orders :: lines :: _ =>
    if deleted = 0 ∨ deleted < count then
      failBatch .retryableAbort "new_order row already claimed by concurrent delivery"
    else if !(checkAffected deleted count "new_order delivery delete").ok then
      batchOf (checkAffected deleted count "new_order delivery delete") count
    else if !(checkAffected orders count "order carrier update").ok then
      batchOf (checkAffected orders count "order carrier update") count
    else
      batchOf (checkAffected lines expectedLines "order_line delivery update") count
  | _ => failBatch .integrity "delivery complete: missing affected counts"

/--
`ExecuteCompleteDeliveryBatch`.  `BuildObDeliveryCompleteSql` throws before
anything is sent when there are more rows than districts.
-/
def executeCompleteDeliveryBatch (rows : List TCompleteOrderDelivery) : TransactionM TBatchResult :=
  if rows.length > districtCount then
    throw (.other "BuildObDeliveryCompleteSql: n must be in 1..10")
  else
    catchBatch do
      let affected : List Nat ← send (.multi (.completeDeliveries rows))
      return readCompleteDelivery affected rows.length
        ((rows.map fun row => toUint64 row.lineCount).sum % 2 ^ 64)

/-- `ExecuteApplyDeliveryBatch`. -/
def executeApplyDeliveryBatch (rows : List TApplyDeliveryToCustomer) : TransactionM TBatchResult :=
  if rows.length > districtCount then
    executeBatchSequentially (rows.map .applyDeliveryToCustomer)
  else
    catchBatch do
      let affected : Nat ← send (.modify (.addCustomerDeliveries rows))
      return batchOf (checkAffected affected rows.length "customer delivery update") rows.length

/-- `TObTpccTransaction::ExecuteBatch`, by the kind all operations share. -/
def executeBatch (ops : List TSemanticOp) : TransactionM TBatchResult := do
  let transaction ← get
  if transaction.terminal then
    return failBatch .permanent "ExecuteBatch called in terminal state"
  else if ops = [] then
    return { ok := true }
  else
    match ops.mapM asUpdateStock?, ops.mapM asInsertOrderLine?, ops.mapM asCompleteOrderDelivery?,
        ops.mapM asApplyDeliveryToCustomer? with
    | some updates, _, _, _ => executeStockBatch updates
    | none, some lines, _, _ => executeOrderLineBatch lines
    | none, none, some rows, _ => executeCompleteDeliveryBatch rows
    | none, none, none, some rows => executeApplyDeliveryBatch rows
    | none, none, none, none => executeBatchSequentially ops

/-! ## The final operation -/

/-- `CommitAfterOperation`. -/
def commitAfterOperation (operation : TOperationResult) : TransactionM TFinalCommitResult := do
  if !operation.ok then
    return { operation, commit := ← rollback }
  else
    return { operation, commit := ← commit }

/-- The string literals that `FinishPayment` needs, or why it has none. -/
def paymentLiterals (update : TUpdateCustomerPayment)
    (history : TInsertPaymentHistory) : Except String Unit := do
  if update.updateData then
    let _ ← quoteSqlString update.newData
  let _ ← quoteSqlString history.data

/-- The counts of the script that finishes a payment. -/
def readFinishPayment (affected : List Nat) : TOperationResult :=
  match affected with
  | customer :: history :: _ =>
    if !(checkAffected customer 1 "customer payment update").ok then
      checkAffected customer 1 "customer payment update"
    else if !(checkAffected history 1 "history insert").ok then
      checkAffected history 1 "history insert"
    else
      okOp 1 1
  | _ => failOp .integrity "payment finish: missing affected counts"

/-- `FinishPayment`. -/
def finishPayment (update : TUpdateCustomerPayment) (history : TInsertPaymentHistory) :
    TransactionM TFinalCommitResult :=
  match paymentLiterals update history with
  | .error message => commitAfterOperation (failOp .permanent message)
  | .ok () =>
    catchFinal do
      let affected : List Nat ←
        send (.multi (.finishPayment update history))
      commitAfterOperation (readFinishPayment affected)

/-- The count of the script that finishes a delivery. -/
def readFinishDelivery (affected : List Nat) : TOperationResult :=
  match affected with
  | [] => failOp .integrity "customer delivery update: missing affected count"
  | customer :: _ => checkAffected customer 1 "customer delivery update"

/-- `FinishApplyDelivery`. -/
def finishApplyDelivery (apply : TApplyDeliveryToCustomer) : TransactionM TFinalCommitResult :=
  catchFinal do
    let affected : List Nat ← send (.multi (.finishDelivery apply))
    commitAfterOperation (readFinishDelivery affected)

/-- The last operation of any other workflow. -/
def executeFinal (op : TSemanticOp) : TransactionM TFinalCommitResult := do
  let operation ← execute op
  commitAfterOperation operation

/-- `TObTpccTransaction::ExecuteFinalAndCommit`. -/
def executeFinalAndCommit (op : TSemanticOp) : TransactionM TFinalCommitResult := do
  let transaction ← get
  if transaction.terminal then
    return failFinal .permanent "ExecuteFinalAndCommit called in terminal state"
  else
    match transaction.pendingPaymentUpdate, op with
    | some update, .insertPaymentHistory history =>
      modify fun transaction => { transaction with pendingPaymentUpdate := none }
      finishPayment update history
    | _, .applyDeliveryToCustomer apply => finishApplyDelivery apply
    | _, op => executeFinal op

/-- The transaction interface as the adapter implements it. -/
def implementation : Implementation workflowFace driverFace Transaction :=
  fun transaction command =>
    match command with
    | .execute op => (execute op).start transaction
    | .executeBatch ops => (executeBatch ops).start transaction
    | .executeFinalAndCommit op =>
      (executeFinalAndCommit op).start transaction
    | .commit => commit.start transaction
    | .rollback => rollback.start transaction
    | .requestStopWithError => .done ((), transaction)

end PortableTpcc.Ob
