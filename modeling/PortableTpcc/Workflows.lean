import PortableTpcc.ErrorClassifiers

namespace PortableTpcc

/-!
# The five workflows

The transaction workflows are coroutines over `ITpccTransaction`.  Awaiting a
future is issuing a command, so each workflow is an interaction program that
ends with a Boolean or with an exception.

The inputs of an attempt are a parameter: the generators run once for each
business transaction and their result is reused by every retry.  Logging and
latency measurement are left out.
-/

/-- What a workflow may ask for: `ITpccTransaction` and the run's stop flag. -/
inductive WorkflowCommand where
  | execute (op : TSemanticOp)
  | executeBatch (ops : List TSemanticOp)
  | executeFinalAndCommit (op : TSemanticOp)
  | commit
  | rollback
  | requestStopWithError

/-- The reply to each workflow command; a failed future rethrows. -/
abbrev WorkflowReply : WorkflowCommand → Type
  | .execute _ => Except StdException TOperationResult
  | .executeBatch _ => Except StdException TBatchResult
  | .executeFinalAndCommit _ => Except StdException TFinalCommitResult
  | .commit => Except StdException TCommitResult
  | .rollback => Except StdException TCommitResult
  | .requestStopWithError => Unit

/-- The interface between the workflows and an adapter. -/
abbrev workflowFace : Interface where
  Command := WorkflowCommand
  Reply := WorkflowReply

/-- An exception that leaves a workflow. -/
inductive Thrown where
  | userAborted
  | classified (errorClass : EErrorClass) (nativeCode what : String)
  | exception (ex : StdException)
deriving Repr, DecidableEq

/-- A workflow in progress. -/
abbrev Task := Prog workflowFace (Except Thrown Bool)

/-- `co_return`. -/
def finish (result : Bool) : Task :=
  .done (.ok result)

/-- Throw out of the coroutine. -/
def raise (thrown : Thrown) : Task :=
  .done (.error thrown)

/-- `TClassifiedError`: an empty message gets a default text. -/
def classifiedError (errorClass : EErrorClass) (nativeCode message : String) : Thrown :=
  .classified errorClass nativeCode (if message = "" then "classified error" else message)

/-- `FailPermanent`: only an integrity failure stops the run. -/
def failPermanent (errorClass : EErrorClass) : Task :=
  if abortsRun errorClass then
    .call WorkflowCommand.requestStopWithError fun _ => finish false
  else
    finish false

/--
`ThrowIfRetryable` followed by `FailPermanent`, for an operation or a batch
that is not `Ok`.
-/
def failOperation (errorClass : EErrorClass) (nativeCode message : String) : Task :=
  if mayBlindRetry errorClass ∨ errorClass = .ambiguousCommit then
    raise (classifiedError errorClass nativeCode message)
  else
    failPermanent errorClass

/-- Await one operation and stop unless it is `Ok`. -/
def executeThen (op : TSemanticOp) (next : TOperationResult → Task) : Task :=
  .call (WorkflowCommand.execute op) fun reply =>
    match reply with
    | .error ex => raise (.exception ex)
    | .ok result =>
      if result.ok then
        next result
      else
        failOperation result.errorClass result.nativeCode result.message

/-- Await one batch and stop unless it is `Ok`. -/
def executeBatchThen (ops : List TSemanticOp) (next : Task) : Task :=
  .call (WorkflowCommand.executeBatch ops) fun reply =>
    match reply with
    | .error ex => raise (.exception ex)
    | .ok batch =>
      if batch.ok then
        next
      else
        failOperation batch.errorClass batch.nativeCode batch.message

/-- A batch that the workflow skips when it is empty. -/
def executeNonemptyBatchThen (ops : List TSemanticOp) (next : Task) : Task :=
  if ops = [] then next else executeBatchThen ops next

/-- `ThrowIfCommitFailed`, then `co_return true`. -/
def finishCommit (result : TCommitResult) : Task :=
  if result.outcome = .committed then
    finish true
  else
    raise (classifiedError result.errorClass result.nativeCode
      (if result.message = "" then "commit failed" else result.message))

/-- Await `Commit` and finish. -/
def commitAndFinish : Task :=
  .call WorkflowCommand.commit fun reply =>
    match reply with
    | .error ex => raise (.exception ex)
    | .ok result => finishCommit result

/-- The common ending of a workflow whose last operation also commits. -/
def finishFinal (result : TFinalCommitResult) : Task :=
  if result.operation.ok then
    finishCommit result.commit
  else
    failOperation result.operation.errorClass result.operation.nativeCode result.operation.message

/-- Await `ExecuteFinalAndCommit` and finish. -/
def executeFinalAndFinish (op : TSemanticOp) : Task :=
  .call (WorkflowCommand.executeFinalAndCommit op) fun reply =>
    match reply with
    | .error ex => raise (.exception ex)
    | .ok result => finishFinal result

/-- `std::get` on a payload. -/
def withPayload (payload : Option α) (next : α → Task) : Task :=
  match payload with
  | some value => next value
  | none => raise (.exception badVariantAccess)

namespace TOperationPayload

def asCustomer? : TOperationPayload → Option TCustomerRow
  | .customer row => some row
  | _ => none

def asCustomers? : TOperationPayload → Option (List TCustomerRow)
  | .customers rows => some rows
  | _ => none

def asReservation? : TOperationPayload → Option TDistrictOrderReservation
  | .reservation value => some value
  | _ => none

def asItems? : TOperationPayload → Option (List TItemRow)
  | .items rows => some rows
  | _ => none

def asStocks? : TOperationPayload → Option (List TStockRow)
  | .stocks rows => some rows
  | _ => none

def asLocation? : TOperationPayload → Option TWarehouseDistrictInfo
  | .location info => some info
  | _ => none

def asText? : TOperationPayload → Option String
  | .text value => some value
  | _ => none

def asOrderHeader? : TOperationPayload → Option TOrderHeader
  | .orderHeader header => some header
  | _ => none

def asInt? : TOperationPayload → Option Int
  | .int value => some value
  | _ => none

def asDeliveryInfo? : TOperationPayload → Option TDeliveryOrderInfo
  | .deliveryInfo info => some info
  | _ => none

end TOperationPayload

/-! ## New-Order -/

/-- One entry of the parallel input vectors of New-Order. -/
structure NewOrderLine where
  itemId : Int
  supplyWarehouseId : Int
  quantity : Int
deriving Repr, DecidableEq

/-- `TInputs` of `GetNewOrderTask`; `NumItems` is the number of lines. -/
structure NewOrderInputs where
  warehouseId : Int
  districtId : Int
  customerId : Int
  lines : List NewOrderLine
  allLocal : Int
deriving Repr, DecidableEq

/-- The item ids that are looked up: every one but the unused item. -/
def validItemIds (lines : List NewOrderLine) : List Int :=
  (lines.map (·.itemId)).filter (· ≠ invalidItemId)

/-- The key of the stock row that supplies a line. -/
def NewOrderLine.stockKey (line : NewOrderLine) : TStockKey :=
  ⟨line.supplyWarehouseId, line.itemId⟩

/-- The stock keys to read, each once, in the order of first use. -/
def stockKeysOf : List NewOrderLine → List TStockKey → List TStockKey
  | [], _ => []
  | line :: rest, seen =>
    if line.itemId = invalidItemId then
      stockKeysOf rest seen
    else if line.stockKey ∈ seen then
      stockKeysOf rest seen
    else
      line.stockKey :: stockKeysOf rest (line.stockKey :: seen)

/-- `itemPrices`: the price of the last row read for an item. -/
def priceOf (items : List TItemRow) (itemId : Int) : Option TMoney :=
  (items.reverse.find? (·.itemId = itemId)).map (·.price)

/-- The key of a stock row. -/
def TStockRow.key (row : TStockRow) : TStockKey :=
  ⟨row.warehouseId, row.itemId⟩

/-- `stocks.find`. -/
def findStock (stocks : List TStockRow) (key : TStockKey) : Option TStockRow :=
  stocks.find? (·.key = key)

/-- `stocks[key] = row`. -/
def setStock (stocks : List TStockRow) (row : TStockRow) : List TStockRow :=
  row :: stocks.filter (·.key ≠ row.key)

/-- The local stock map, filled from the rows in the order they were read. -/
def stockMap (rows : List TStockRow) : List TStockRow :=
  rows.foldl setStock []

/-- The stock arithmetic of one order line. -/
def sellStock (homeWarehouseId : Int) (line : NewOrderLine) (stock : TStockRow) : TStockRow :=
  { stock with
    quantity :=
      if stock.quantity - line.quantity ≥ 10 then
        stock.quantity - line.quantity
      else
        stock.quantity + (-line.quantity + 91)
    ytd := stock.ytd + line.quantity * moneyScale
    orderCount := stock.orderCount + 1
    remoteCount :=
      stock.remoteCount +
        if line.supplyWarehouseId = homeWarehouseId then 0 else 1 }

/-- The operations collected by the line loop of New-Order. -/
structure LineWork where
  stockOps : List TUpdateStock
  lineOps : List TInsertOrderLine
  hasUnusedItem : Bool
deriving Repr, DecidableEq

/-- The `TUpdateStock` of one line, from the stock row after its sale. -/
def stockOpOf (homeWarehouseId : Int) (line : NewOrderLine) (sold : TStockRow) : TUpdateStock :=
  { warehouseId := line.supplyWarehouseId
    itemId := line.itemId
    newQuantity := sold.quantity
    orderedQuantity := line.quantity
    remoteIncrement := if line.supplyWarehouseId = homeWarehouseId then 0 else 1
    newYtd := sold.ytd
    newOrderCount := sold.orderCount
    newRemoteCount := sold.remoteCount }

/-- The `TInsertOrderLine` of one line. -/
def lineOpOf (inputs : NewOrderInputs) (orderId lineNumber : Int) (line : NewOrderLine)
    (price : TMoney) (sold : TStockRow) : TInsertOrderLine :=
  { warehouseId := inputs.warehouseId
    districtId := inputs.districtId
    orderId
    lineNumber
    itemId := line.itemId
    supplyWarehouseId := line.supplyWarehouseId
    quantity := line.quantity
    amount := line.quantity * price
    distInfo := sold.distInfo }

/--
The line loop of New-Order.  It returns nothing when a price or a stock row is
missing, and threads the local stock map so that repeated keys accumulate.
-/
def collectLines (inputs : NewOrderInputs) (orderId : Int) (items : List TItemRow) :
    List NewOrderLine → Int → List TStockRow → Option LineWork
  | [], _, _ =>
    some { stockOps := [], lineOps := [], hasUnusedItem := false }
  | line :: rest, lineNumber, stocks =>
    if line.itemId = invalidItemId then
      (collectLines inputs orderId items rest (lineNumber + 1) stocks).map
        fun work => { work with hasUnusedItem := true }
    else
      match priceOf items line.itemId, findStock stocks line.stockKey with
      | some price, some stock =>
        let sold := sellStock inputs.warehouseId line stock
        (collectLines inputs orderId items rest (lineNumber + 1) (setStock stocks sold)).map
          fun work =>
            { work with
              stockOps := stockOpOf inputs.warehouseId line sold :: work.stockOps
              lineOps := lineOpOf inputs orderId lineNumber line price sold :: work.lineOps }
      | _, _ => none

/-- `IsExpectedItemNotFound`. -/
def isExpectedItemNotFound (result : TOperationResult) : Bool :=
  !result.ok && result.errorClass = .integrity

/-- `ThrowIfRollbackFailed`, then the intended user abort. -/
def finishRollback (result : TCommitResult) : Task :=
  if result.outcome = .rolledBack then
    raise .userAborted
  else
    raise (classifiedError result.errorClass result.nativeCode
      (if result.message = "" then "rollback failed" else result.message))

/-- The unused-item ending: the lookup must miss, then roll back. -/
def abortUnusedItem : Task :=
  .call (WorkflowCommand.execute (.getItems [invalidItemId])) fun reply =>
    match reply with
    | .error ex => raise (.exception ex)
    | .ok result =>
      if result.ok then
        failPermanent .integrity
      else if mayBlindRetry result.errorClass ∨ result.errorClass = .ambiguousCommit then
        raise (classifiedError result.errorClass result.nativeCode result.message)
      else if isExpectedItemNotFound result then
        .call WorkflowCommand.rollback fun rollback =>
          match rollback with
          | .error ex => raise (.exception ex)
          | .ok outcome => finishRollback outcome
      else
        raise (classifiedError result.errorClass result.nativeCode (if result.message = "" then
            "NewOrder unused item lookup failed"
          else
            result.message))

/-- The part of New-Order after all rows have been read. -/
def newOrderWrites (work : LineWork) : Task :=
  executeNonemptyBatchThen (work.stockOps.map .updateStock) <|
    executeNonemptyBatchThen (work.lineOps.map .insertOrderLine) <|
      if work.hasUnusedItem then abortUnusedItem else commitAndFinish

/-- Read the items of an order, or nothing when no line has a valid item. -/
def readItemsThen (itemIds : List Int) (next : List TItemRow → Task) : Task :=
  if itemIds = [] then
    next []
  else
    executeThen (.getItems itemIds) fun result => withPayload result.payload.asItems? next

/-- Read the stock rows of an order into the local map. -/
def readStocksThen (districtId : Int) (keys : List TStockKey)
    (next : List TStockRow → Task) : Task :=
  if keys = [] then
    next []
  else
    executeThen (.getStocksForUpdate districtId keys) fun result =>
      withPayload result.payload.asStocks? fun rows => next (stockMap rows)

/-- `GetNewOrderTask`. -/
def newOrderTask (inputs : NewOrderInputs) : Task :=
  executeThen (.getCustomerById inputs.warehouseId inputs.districtId inputs.customerId) fun _ =>
  executeThen (.getWarehouseTax inputs.warehouseId) fun _ =>
  executeThen (.reserveDistrictOrderId inputs.warehouseId inputs.districtId) fun reserved =>
  withPayload reserved.payload.asReservation? fun reservation =>
  executeThen (.createOrder
        { warehouseId := inputs.warehouseId
          districtId := inputs.districtId
          orderId := reservation.nextOrderId
          customerId := inputs.customerId
          lineCount := inputs.lines.length
          allLocal := inputs.allLocal }) fun _ =>
  readItemsThen (validItemIds inputs.lines) fun items =>
  readStocksThen inputs.districtId (stockKeysOf inputs.lines []) fun stocks =>
  match collectLines inputs reservation.nextOrderId items inputs.lines 1 stocks with
  | none => failPermanent .integrity
  | some work => newOrderWrites work

/-! ## Payment -/

/-- `SelectCustomerByLastNameMedian`. -/
def selectCustomerByLastNameMedian (customers : List TCustomerRow) : Option TCustomerRow :=
  let middle := customers.length / 2
  let index := if customers.length % 2 = 0 ∧ middle > 0 then middle - 1 else middle
  customers[index]?

/-- Customer selection shared by Payment and Order-Status. -/
structure CustomerLookup where
  lookupByName : Bool
  lastName : String
  customerId : Int
deriving Repr, DecidableEq

/-- Find the customer by name or by id. -/
def lookupCustomerThen (warehouseId districtId : Int) (lookup : CustomerLookup)
    (next : TCustomerRow → Task) : Task :=
  if lookup.lookupByName then
    executeThen (.getCustomersByLastName warehouseId districtId lookup.lastName) fun result =>
      withPayload result.payload.asCustomers? fun customers =>
        match selectCustomerByLastNameMedian customers with
        | some customer => next customer
        | none => failPermanent .integrity
  else
    executeThen (.getCustomerById warehouseId districtId lookup.customerId) fun result =>
      withPayload result.payload.asCustomer? next

/-- `TInputs` of `GetPaymentTask`. -/
structure PaymentInputs where
  warehouseId : Int
  districtId : Int
  paymentAmount : TMoney
  customerDistrictId : Int
  customerWarehouseId : Int
  lookup : CustomerLookup
deriving Repr, DecidableEq

/-- The new `C_DATA` of a customer with bad credit, at most 500 bytes. -/
def badCreditData (inputs : PaymentInputs) (customerId : Int) (data : String) : String :=
  truncateText 500 (toString customerId ++ " " ++ toString inputs.customerDistrictId ++ " " ++
    toString inputs.customerWarehouseId ++ " " ++ toString inputs.districtId ++ " " ++
    toString inputs.warehouseId ++ " " ++ TMoney.toText inputs.paymentAmount ++ " | " ++ data)

/-- `H_DATA`: the names of warehouse and district, at most 24 bytes. -/
def paymentHistoryData (location : TWarehouseDistrictInfo) : String :=
  truncateText 24 (location.warehouseName ++ "    " ++ location.districtName)

/-- The customer row of Payment after the payment is applied locally. -/
def payCustomer (amount : TMoney) (customer : TCustomerRow) : TCustomerRow :=
  { customer with
    balance := customer.balance - amount
    ytdPayment := customer.ytdPayment + amount
    paymentCount := customer.paymentCount + 1 }

/-- The `TUpdateCustomerPayment` of a paid customer. -/
def customerPaymentOp (inputs : PaymentInputs) (paid : TCustomerRow)
    (newData : Option String) : TSemanticOp :=
  .updateCustomerPayment
    { warehouseId := inputs.customerWarehouseId
      districtId := inputs.customerDistrictId
      customerId := paid.customerId
      newBalance := paid.balance
      newYtdPayment := paid.ytdPayment
      newPaymentCount := paid.paymentCount
      updateData := newData.isSome
      newData := newData.getD "" }

/-- Write the paid customer, with new `C_DATA` only for bad credit. -/
def updateCustomerThen (inputs : PaymentInputs) (paid : TCustomerRow) (next : Task) : Task :=
  if paid.credit = "BC" then
    executeThen (.getCustomerData inputs.customerWarehouseId
        inputs.customerDistrictId paid.customerId) fun result =>
      withPayload result.payload.asText? fun data =>
        executeThen (customerPaymentOp inputs paid
          (some (badCreditData inputs paid.customerId data)))
          fun _ => next
  else
    executeThen (customerPaymentOp inputs paid none) fun _ => next

/-- `GetPaymentTask`. -/
def paymentTask (inputs : PaymentInputs) : Task :=
  executeThen (.applyPaymentToLocation
        { warehouseId := inputs.warehouseId
          districtId := inputs.districtId
          amount := inputs.paymentAmount }) fun located =>
  withPayload located.payload.asLocation? fun location =>
  lookupCustomerThen inputs.customerWarehouseId inputs.customerDistrictId
      inputs.lookup fun customer =>
  updateCustomerThen inputs (payCustomer inputs.paymentAmount customer) <|
  executeFinalAndFinish (.insertPaymentHistory
      { customerWarehouseId := inputs.customerWarehouseId
        customerDistrictId := inputs.customerDistrictId
        customerId := customer.customerId
        paymentWarehouseId := inputs.warehouseId
        paymentDistrictId := inputs.districtId
        amount := inputs.paymentAmount
        data := paymentHistoryData location })

/-! ## Delivery -/

/-- `TInputs` of `GetDeliveryTask`. -/
structure DeliveryInputs where
  warehouseId : Int
  carrierId : Int
deriving Repr, DecidableEq

/-- `TOrderData` of `delivery.cpp`, with the district it belongs to. -/
structure DeliveryOrder where
  districtId : Int
  orderId : Int
  customerId : Int
  totalAmount : TMoney
  lineCount : Int
deriving Repr, DecidableEq

/-- The district loop that finds the oldest undelivered orders. -/
def collectOrdersThen (warehouseId : Int) :
    List Int → (List DeliveryOrder → Task) → Task
  | [], next => next []
  | districtId :: rest, next =>
    executeThen (.getOldestNewOrder warehouseId districtId) fun oldest =>
      if oldest.actualRows = 0 then
        collectOrdersThen warehouseId rest next
      else
        withPayload oldest.payload.asInt? fun orderId =>
        executeThen (.getDeliveryOrderInfo warehouseId districtId orderId) fun result =>
        withPayload result.payload.asDeliveryInfo? fun info =>
          if info.lineCount = 0 then
            failPermanent .integrity
          else
            collectOrdersThen warehouseId rest fun orders =>
              next
                ({ districtId
                   orderId
                   customerId := info.customerId
                   totalAmount := info.totalAmount
                   lineCount := info.lineCount } :: orders)

/-- The `TCompleteOrderDelivery` of an order. -/
def completeOpOf (inputs : DeliveryInputs) (order : DeliveryOrder) : TCompleteOrderDelivery :=
  { warehouseId := inputs.warehouseId
    districtId := order.districtId
    orderId := order.orderId
    carrierId := inputs.carrierId
    lineCount := order.lineCount }

/-- The `TApplyDeliveryToCustomer` of an order. -/
def applyOpOf (inputs : DeliveryInputs) (order : DeliveryOrder) : TApplyDeliveryToCustomer :=
  { warehouseId := inputs.warehouseId
    districtId := order.districtId
    customerId := order.customerId
    amount := order.totalAmount }

/-- Apply the deliveries; the last one is fused with the commit. -/
def applyDeliveries (ops : List TSemanticOp) : Task :=
  match ops.getLast? with
  | none => commitAndFinish
  | some last =>
    executeNonemptyBatchThen ops.dropLast (executeFinalAndFinish last)

/-- `GetDeliveryTask`. -/
def deliveryTask (inputs : DeliveryInputs) : Task :=
  collectOrdersThen inputs.warehouseId districtIds fun orders =>
  executeNonemptyBatchThen (orders.map fun order =>
        .completeOrderDelivery (completeOpOf inputs order)) <|
  applyDeliveries (orders.map fun order => .applyDeliveryToCustomer (applyOpOf inputs order))

/-! ## Order-Status and Stock-Level -/

/-- `TInputs` of `GetOrderStatusTask`. -/
structure OrderStatusInputs where
  warehouseId : Int
  districtId : Int
  lookup : CustomerLookup
deriving Repr, DecidableEq

/-- `GetOrderStatusTask`. -/
def orderStatusTask (inputs : OrderStatusInputs) : Task :=
  lookupCustomerThen inputs.warehouseId inputs.districtId inputs.lookup fun customer =>
  executeThen (.getLatestCustomerOrder inputs.warehouseId inputs.districtId
      customer.customerId) fun latest =>
    if latest.actualRows = 0 then
      commitAndFinish
    else
      withPayload latest.payload.asOrderHeader? fun header =>
      executeFinalAndFinish (.getOrderStatusLines inputs.warehouseId inputs.districtId
        header.orderId)

/-- `TInputs` of `GetStockLevelTask`. -/
structure StockLevelInputs where
  warehouseId : Int
  districtId : Int
  threshold : Int
deriving Repr, DecidableEq

/-- `GetStockLevelTask`. -/
def stockLevelTask (inputs : StockLevelInputs) : Task :=
  executeFinalAndFinish (.countRecentLowStock inputs.warehouseId inputs.districtId
    inputs.threshold 20)

/-- The inputs of one business transaction, with its `ETransactionType`. -/
inductive TxInputs where
  | newOrder (inputs : NewOrderInputs)
  | delivery (inputs : DeliveryInputs)
  | orderStatus (inputs : OrderStatusInputs)
  | payment (inputs : PaymentInputs)
  | stockLevel (inputs : StockLevelInputs)
deriving Repr, DecidableEq

/-- `transactions[txIndex].TaskFunc`. -/
def TxInputs.task : TxInputs → Task
  | .newOrder inputs => newOrderTask inputs
  | .delivery inputs => deliveryTask inputs
  | .orderStatus inputs => orderStatusTask inputs
  | .payment inputs => paymentTask inputs
  | .stockLevel inputs => stockLevelTask inputs

/-! ## A payment -/

/-- A payment of 50.00 by the first customer of the first district. -/
def examplePayment : PaymentInputs where
  warehouseId := 1
  districtId := 1
  paymentAmount := 5000
  customerDistrictId := 1
  customerWarehouseId := 1
  lookup := { lookupByName := false, lastName := "", customerId := 1 }

/-- That customer, with good credit. -/
def exampleCustomer : TCustomerRow where
  customerId := 1
  first := ""
  middle := "OE"
  last := "BARBARBAR"
  street1 := ""
  street2 := ""
  city := ""
  state := ""
  zip := ""
  phone := ""
  since := ""
  credit := "GC"
  creditLimit := 5000000
  discount := 0
  balance := -1000
  ytdPayment := 1000
  paymentCount := 1
  deliveryCount := 0
  data := ""

/-- An address without text. -/
def exampleAddress : AddressColumns := ⟨"", "", "", "", "", ""⟩

/-- The history row of the payment. -/
def exampleHistory : TInsertPaymentHistory where
  customerWarehouseId := 1
  customerDistrictId := 1
  customerId := 1
  paymentWarehouseId := 1
  paymentDistrictId := 1
  amount := 5000
  data := "    "

end PortableTpcc
