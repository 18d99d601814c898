/-
Orders, the requests that change them, and the fills reported for them.

Prices, order ids, user ids and tickers are 64-bit words that the engine only
compares. Quantities are 32-bit words; a fill records its quantity in 16 bits.
-/

import Mathlib.Init

namespace SpotExchange

abbrev Price := UInt64

abbrev OrderId := UInt64

abbrev UserId := UInt64

abbrev Ticker := UInt64

/-- A pointer to an order entry connection. The engine stores it and sends
through it, and never looks behind it. -/
abbrev ConnectionRef := Nat

/-- Why a call does not return normally. An engine exception is thrown by the
source; the other faults are accesses to which the language gives no meaning,
and a loop that did not stop within its fuel. -/
inductive Fault where
  | engineException (message : String)
  | nullLimit
  | deadLimit (orderId : OrderId)
  | nullLevel
  | deadLevel (price : Price)
  | uninitialisedRead
  | noOrderBook (index : UInt16)
  | outOfFuel
  deriving DecidableEq, Repr

namespace Info

structure OrderCommon where
  orderId : OrderId
  userId : UserId
  ticker : Ticker
  deriving DecidableEq, Repr

structure ModifyOrder extends OrderCommon where
  price : Price
  connection : ConnectionRef
  quantity : UInt32
  isBuySide : UInt8
  deriving DecidableEq, Repr

structure CancelOrder extends OrderCommon where
  connection : ConnectionRef
  deriving DecidableEq, Repr

/-- The conversion that hands a modify request to the cancel operation. -/
def CancelOrder.ofModify (mod : ModifyOrder) : CancelOrder :=
  { mod.toOrderCommon with connection := mod.connection }

structure Fill where
  timestamp : Int64
  ticker : Ticker
  orderId : OrderId
  price : Price
  userId : UserId
  connection : ConnectionRef
  fillQty : UInt16
  fullFill : UInt8
  deriving DecidableEq, Repr

end Info

structure Order where
  connection : ConnectionRef
  price : Price
  orderId : OrderId
  userId : UserId
  ticker : Ticker
  initialQuantity : UInt32
  currentQuantity : UInt32
  isBuySide : UInt8
  deriving DecidableEq, Repr

namespace Order

def create (isBuySide : UInt8) (connection : ConnectionRef) (price : Price)
    (quantity : UInt32) (common : Info.OrderCommon) : Order :=
  { connection := connection
    price := price
    orderId := common.orderId
    userId := common.userId
    ticker := common.ticker
    initialQuantity := quantity
    currentQuantity := quantity
    isBuySide := isBuySide }

def ofModify (mod : Info.ModifyOrder) : Order :=
  create mod.isBuySide mod.connection mod.price mod.quantity mod.toOrderCommon

def common (order : Order) : Info.OrderCommon :=
  { orderId := order.orderId
    userId := order.userId
    ticker := order.ticker }

def withQuantity (order : Order) (quantity : UInt32) : Order :=
  { order with currentQuantity := quantity }

/-- The sum wraps at 32 bits. -/
def increaseQty (order : Order) (qtyDelta : UInt32) : Order :=
  order.withQuantity (order.currentQuantity + qtyDelta)

def decreaseQty (order : Order) (qtyDelta : UInt32) : Except Fault Order :=
  if order.currentQuantity < qtyDelta then
    .error (.engineException
      ("Quantity delta > current quantity, Order ID: " ++ toString order.orderId.toNat))
  else .ok (order.withQuantity (order.currentQuantity - qtyDelta))

@[simp]
theorem withQuantity_orderId (order : Order) (quantity : UInt32) :
    (order.withQuantity quantity).orderId = order.orderId := rfl

@[simp]
theorem withQuantity_price (order : Order) (quantity : UInt32) :
    (order.withQuantity quantity).price = order.price := rfl

@[simp]
theorem withQuantity_currentQuantity (order : Order) (quantity : UInt32) :
    (order.withQuantity quantity).currentQuantity = quantity := rfl

@[simp]
theorem withQuantity_withQuantity (order : Order) (old new : UInt32) :
    (order.withQuantity old).withQuantity new = order.withQuantity new := rfl

@[simp]
theorem withQuantity_self (order : Order) :
    order.withQuantity order.currentQuantity = order := rfl

theorem decreaseQty_of_le {order : Order} {qtyDelta : UInt32}
    (covered : qtyDelta ≤ order.currentQuantity) :
    order.decreaseQty qtyDelta =
      .ok (order.withQuantity (order.currentQuantity - qtyDelta)) := by
  unfold decreaseQty
  rw [if_neg (UInt32.not_lt.mpr covered)]

end Order

end SpotExchange
