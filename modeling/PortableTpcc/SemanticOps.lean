import Mathlib.Algebra.Order.Ring.Int
import PortableTpcc.InteractionPrograms

namespace PortableTpcc

/-!
# The adapter interface

The workflows see a database only through the semantic operations of `ops.h`
and the transaction interface of `session.h`.  This module fixes those types:
the operations with their parameters, the payloads they return, the error
classes and commit outcomes, and the commands a workflow may issue.

Money is a number of cents and a rate a number of ten-thousandths, as in the
fixed-point types of `money.h`.  A character of a text stands for one byte.
-/

/-- `TMoney`: an amount in cents. -/
abbrev TMoney := Int

/-- `TRate`: a rate in units of 0.0001. -/
abbrev TRate := Int

/-- `TMoney::Scale`. -/
def moneyScale : Int := 100

/-- `TMoney::ToString`. -/
def TMoney.toText (amount : TMoney) : String :=
  let magnitude := amount.natAbs
  let minor := magnitude % 100
  (if amount < 0 then "-" else "") ++ toString (magnitude / 100) ++ "." ++
    (if minor < 10 then "0" else "") ++ toString minor

/-- `std::string::resize` to a length the text exceeds. -/
def truncateText (limit : Nat) (text : String) : String :=
  String.ofList (text.toList.take limit)

/-- `DISTRICT_LOW_ID .. DISTRICT_HIGH_ID`. -/
def districtIds : List Int :=
  [1, 2, 3, 4, 5, 6, 7, 8, 9, 10]

/-- `INVALID_ITEM_ID`: the unused item number of the rollback profile. -/
def invalidItemId : Int := -12345

/-- `TCustomerRow` of `ops.h`. -/
structure TCustomerRow where
  customerId : Int
  first : String
  middle : String
  last : String
  street1 : String
  street2 : String
  city : String
  state : String
  zip : String
  phone : String
  since : String
  credit : String
  creditLimit : TMoney
  discount : TRate
  balance : TMoney
  ytdPayment : TMoney
  paymentCount : Int
  deliveryCount : Int
  data : String
deriving Repr, DecidableEq

/-- `TItemRow` of `ops.h`. -/
structure TItemRow where
  itemId : Int
  price : TMoney
  name : String
  data : String
deriving Repr, DecidableEq

/-- `TStockKey`. -/
structure TStockKey where
  warehouseId : Int
  itemId : Int
deriving Repr, DecidableEq

/-- `TStockRow` of `ops.h`. -/
structure TStockRow where
  warehouseId : Int
  itemId : Int
  quantity : Int
  ytd : TMoney
  orderCount : Int
  remoteCount : Int
  data : String
  distInfo : String
deriving Repr, DecidableEq

/-- `TOrderHeader`. -/
structure TOrderHeader where
  orderId : Int
  customerId : Int
  carrierId : Option Int
  entryDate : String
deriving Repr, DecidableEq

/-- `TOrderStatusLine`. -/
structure TOrderStatusLine where
  itemId : Int
  supplyWarehouseId : Int
  quantity : Int
  amount : TMoney
  deliveryDate : String
deriving Repr, DecidableEq

/-- The name and address columns of a warehouse or a district. -/
structure AddressColumns where
  name : String
  street1 : String
  street2 : String
  city : String
  state : String
  zip : String
deriving Repr, DecidableEq

/-- `TWarehouseDistrictInfo`. -/
structure TWarehouseDistrictInfo where
  warehouseName : String := ""
  warehouseStreet1 : String := ""
  warehouseStreet2 : String := ""
  warehouseCity : String := ""
  warehouseState : String := ""
  warehouseZip : String := ""
  districtName : String := ""
  districtStreet1 : String := ""
  districtStreet2 : String := ""
  districtCity : String := ""
  districtState : String := ""
  districtZip : String := ""
deriving Repr, DecidableEq

/-- `TDeliveryOrderInfo`. -/
structure TDeliveryOrderInfo where
  customerId : Int
  totalAmount : TMoney
  lineCount : Int
deriving Repr, DecidableEq

/-- `TDistrictOrderReservation`. -/
structure TDistrictOrderReservation where
  nextOrderId : Int
  districtTax : TRate
deriving Repr, DecidableEq

/-- `TCreateOrder`. -/
structure TCreateOrder where
  warehouseId : Int
  districtId : Int
  orderId : Int
  customerId : Int
  lineCount : Int
  allLocal : Int
deriving Repr, DecidableEq

/-- `TUpdateStock`. -/
structure TUpdateStock where
  warehouseId : Int
  itemId : Int
  newQuantity : Int
  orderedQuantity : Int
  remoteIncrement : Int
  newYtd : TMoney
  newOrderCount : Int
  newRemoteCount : Int
deriving Repr, DecidableEq

/-- `TInsertOrderLine`. -/
structure TInsertOrderLine where
  warehouseId : Int
  districtId : Int
  orderId : Int
  lineNumber : Int
  itemId : Int
  supplyWarehouseId : Int
  quantity : Int
  amount : TMoney
  distInfo : String
deriving Repr, DecidableEq

/-- `TApplyPaymentToLocation`. -/
structure TApplyPaymentToLocation where
  warehouseId : Int
  districtId : Int
  amount : TMoney
deriving Repr, DecidableEq

/-- `TUpdateCustomerPayment`. -/
structure TUpdateCustomerPayment where
  warehouseId : Int
  districtId : Int
  customerId : Int
  newBalance : TMoney
  newYtdPayment : TMoney
  newPaymentCount : Int
  updateData : Bool
  newData : String
deriving Repr, DecidableEq

/-- `TInsertPaymentHistory`. -/
structure TInsertPaymentHistory where
  customerWarehouseId : Int
  customerDistrictId : Int
  customerId : Int
  paymentWarehouseId : Int
  paymentDistrictId : Int
  amount : TMoney
  data : String
deriving Repr, DecidableEq

/-- `TCompleteOrderDelivery`. -/
structure TCompleteOrderDelivery where
  warehouseId : Int
  districtId : Int
  orderId : Int
  carrierId : Int
  lineCount : Int
deriving Repr, DecidableEq

/-- `TApplyDeliveryToCustomer`. -/
structure TApplyDeliveryToCustomer where
  warehouseId : Int
  districtId : Int
  customerId : Int
  amount : TMoney
deriving Repr, DecidableEq

/-- `TSemanticOp`: the closed set of operations a workflow may request. -/
inductive TSemanticOp where
  | getCustomerById (warehouseId districtId customerId : Int)
  | getCustomersByLastName (warehouseId districtId : Int) (lastName : String)
  | getWarehouseTax (warehouseId : Int)
  | reserveDistrictOrderId (warehouseId districtId : Int)
  | createOrder (request : TCreateOrder)
  | getItems (itemIds : List Int)
  | getStocksForUpdate (districtId : Int) (stocks : List TStockKey)
  | updateStock (request : TUpdateStock)
  | insertOrderLine (request : TInsertOrderLine)
  | applyPaymentToLocation (request : TApplyPaymentToLocation)
  | getCustomerData (warehouseId districtId customerId : Int)
  | updateCustomerPayment (request : TUpdateCustomerPayment)
  | insertPaymentHistory (request : TInsertPaymentHistory)
  | getLatestCustomerOrder (warehouseId districtId customerId : Int)
  | getOrderStatusLines (warehouseId districtId orderId : Int)
  | getOldestNewOrder (warehouseId districtId : Int)
  | getDeliveryOrderInfo (warehouseId districtId orderId : Int)
  | completeOrderDelivery (request : TCompleteOrderDelivery)
  | applyDeliveryToCustomer (request : TApplyDeliveryToCustomer)
  | countRecentLowStock (warehouseId districtId threshold recentOrderCount : Int)
deriving Repr, DecidableEq

/-- `TOperationPayload`. -/
inductive TOperationPayload where
  | monostate
  | customer (row : TCustomerRow)
  | customers (rows : List TCustomerRow)
  | money (amount : TMoney)
  | rate (value : TRate)
  | reservation (value : TDistrictOrderReservation)
  | items (rows : List TItemRow)
  | stocks (rows : List TStockRow)
  | location (info : TWarehouseDistrictInfo)
  | text (value : String)
  | orderHeader (header : TOrderHeader)
  | orderLines (lines : List TOrderStatusLine)
  | int (value : Int)
  | deliveryInfo (info : TDeliveryOrderInfo)
deriving Repr, DecidableEq

/-- `EErrorClass`. -/
inductive EErrorClass where
  | retryableAbort
  | notCommitted
  | ambiguousCommit
  | permanent
  | integrity
  | cancelled
deriving Repr, DecidableEq

/-- `ECommitOutcome`. -/
inductive ECommitOutcome where
  | committed
  | rolledBack
  | outcomeUnknown
deriving Repr, DecidableEq

/-- `TCommitResult`. -/
structure TCommitResult where
  outcome : ECommitOutcome
  errorClass : EErrorClass
  nativeCode : String
  message : String
deriving Repr, DecidableEq

/-- `TOperationResult`. -/
structure TOperationResult where
  ok : Bool
  expectedRows : Nat := 0
  actualRows : Nat := 0
  errorClass : EErrorClass := .permanent
  nativeCode : String := ""
  message : String := ""
  payload : TOperationPayload := .monostate
deriving Repr, DecidableEq

/-- `TBatchResult`. -/
structure TBatchResult where
  ok : Bool
  errorClass : EErrorClass := .permanent
  nativeCode : String := ""
  message : String := ""
  results : List TOperationResult := []
deriving Repr, DecidableEq

/-- `TFinalCommitResult`. -/
structure TFinalCommitResult where
  operation : TOperationResult
  commit : TCommitResult
deriving Repr, DecidableEq

/-- `FailOp`, shared by the adapters. -/
def failOp (errorClass : EErrorClass) (message : String) (code : String := "") : TOperationResult :=
  { ok := false, errorClass, message, nativeCode := code }

/-- `OkOp`, shared by the adapters. -/
def okOp (expected actual : Nat) (payload : TOperationPayload := .monostate) : TOperationResult :=
  { ok := true, expectedRows := expected, actualRows := actual, payload }

@[simp] theorem failOp_ok (errorClass : EErrorClass) (message code : String) :
    (failOp errorClass message code).ok = false :=
  rfl

end PortableTpcc
