/-
The order book: adding, modifying and cancelling orders, and what each call sends.

Locking is left to the module on concurrent calls: a call is modelled from its
entry to its return. Log lines are left out. `clock` gives the successive readings
of the wall clock during one call.
-/

import SpotExchange.Engine.FifoMatching
import SpotExchange.Info.Messages

namespace SpotExchange
namespace Engine

open Collections Wire

structure OrderBook where
  ticker : Ticker
  asks : SideBook .asks
  bids : SideBook .bids
  limitOrders : LimitBook

/-- What a call leaves behind: the book, the executions it performed and what it
handed to the writers. -/
structure CallResult where
  book : OrderBook
  executions : List Execution
  emitted : List Emission

namespace OrderBook

def empty (ticker : Ticker) : OrderBook :=
  { ticker := ticker
    asks := OrderedMap.empty
    bids := OrderedMap.empty
    limitOrders := ∅ }

def levels (book : OrderBook) : (side : BookSide) → SideBook side
  | .asks => book.asks
  | .bids => book.bids

def setLevels (book : OrderBook) : (side : BookSide) → SideBook side → OrderBook
  | .asks, levels => { book with asks := levels }
  | .bids, levels => { book with bids := levels }

def numOrders (book : OrderBook) : Nat := book.limitOrders.size

def numLevels (book : OrderBook) : Nat := book.asks.size + book.bids.size

section Levels

variable (book : OrderBook)

@[simp]
theorem levels_setLevels_self (side : BookSide) (levels : SideBook side) :
    (book.setLevels side levels).levels side = levels := by
  cases side <;> rfl

theorem levels_setLevels_of_ne {written side : BookSide} (different : side ≠ written)
    (levels : SideBook written) :
    (book.setLevels written levels).levels side = book.levels side := by
  cases written <;> cases side <;> first | rfl | exact absurd rfl different

@[simp]
theorem limitOrders_setLevels (side : BookSide) (levels : SideBook side) :
    (book.setLevels side levels).limitOrders = book.limitOrders := by
  cases side <;> rfl

@[simp]
theorem ticker_setLevels (side : BookSide) (levels : SideBook side) :
    (book.setLevels side levels).ticker = book.ticker := by
  cases side <;> rfl

end Levels

/-- A write through a `Level*`. -/
def writeLevel (book : OrderBook) (ptr : Option LevelPtr) (change : Level → Level) :
    Except Fault OrderBook :=
  match ptr with
  | none => .error .nullLevel
  | some level =>
      match (book.levels level.side).find? level.price with
      | none => .error (.deadLevel level.price)
      | some _ => .ok (book.setLevels level.side ((book.levels level.side).update level.price change))

/-- Makes sure that a price has a level. -/
def getSideLevel (price : Price) {side : BookSide} (sidebook : SideBook side) :
    Except Fault (SideBook side) :=
  match sidebook.find? price with
  | some _ => .ok sidebook
  | none =>
      let (placed, inserted) := sidebook.emplace price (Level.ofPrice price)
      if inserted then .ok placed
      else .error (.engineException "Unable to emplace price level in orderbook")

/-- A read through a `Level*`. -/
def readLevel (book : OrderBook) (ptr : LevelPtr) : Except Fault Level :=
  match (book.levels ptr.side).find? ptr.price with
  | none => .error (.deadLevel ptr.price)
  | some level => .ok level

def placeLimitInBookLevel (book : OrderBook) (ptr : LevelPtr) (order : Order) :
    Except Fault OrderBook :=
  match book.limitOrders.lookup order.orderId with
  | some _ =>
      .error (.engineException
        ("Unable to emplace new order in limitorder book, Book ID: " ++
          toString book.ticker.toNat ++ " Order ID: " ++ toString order.orderId.toNat))
  | none => do
      let limit : Limit := { Limit.ofOrder order with currentLevel := some ptr }
      let level ← book.readLevel ptr
      if level.head.isNone then
        ({ book with limitOrders := book.limitOrders.insert order.orderId limit }).writeLevel
          (some ptr)
          (fun level => { level with head := some order.orderId, tail := some order.orderId })
      else
        let limitTemp := level.tail
        let placed := book.limitOrders.insert order.orderId { limit with prevLimit := limitTemp }
        let linked ← LimitBook.modify placed limitTemp
          (fun last => { last with nextLimit := some order.orderId })
        ({ book with limitOrders := linked }).writeLevel (some ptr)
          (fun level => { level with tail := some order.orderId })

def placeOrderInBook (book : OrderBook) (side : BookSide) (order : Order) (isBuySide : UInt8) :
    Except Fault OrderBook := do
  let sidebook ← getSideLevel order.price (book.levels side)
  let flagged := sidebook.update order.price (fun level => { level with isBuySide := isBuySide })
  placeLimitInBookLevel (book.setLevels side flagged) { side := side, price := order.price } order

/-- The best price is compared first and the test for an empty map comes second;
what the first read finds in an empty map does not matter. -/
def possibleMatches (side : BookSide) (sidebook : SideBook side) (order : Order) : Bool :=
  match sidebook.begin? with
  | none => false
  | some best =>
      match side with
      | .asks => decide (best ≤ order.price)
      | .bids => decide (best ≥ order.price)

def rejection (connection : ConnectionRef) (common : Info.OrderCommon)
    (reason : RejectionReason) : Emission :=
  .toClient connection
    (.rejection { orderCommon := common, rejectionResponse := reason })

/-- The ids in the acknowledgement are those of the incoming order; time, quantity,
flag and connection are those of the fill. -/
def fillAck (fill : Info.Fill) (order : Order) : OrderEntryFill :=
  { timestamp := fill.timestamp
    statusCommon := order.common
    completeFill := fill.fullFill != 0
    fillQuantity := fill.fillQty.toUInt32
    fillId := 0
    allocAlgo := .unknown }

def communicateMatchResults (result : MatchResult) (order : Order) : List Emission :=
  result.fills.flatMap (fun fill =>
    [.toClient fill.connection (.fill (fillAck fill order)),
      .marketData (.fill (fillAck fill order))])

section Calls

variable (clock : Nat → Int64)

def sendOrderAddedToDispatcher (reading : Nat) (order : Order) : Emission :=
  .marketData (.add
    { timestamp := (clock reading).toUInt64
      orderId := order.orderId
      ticker := order.ticker
      price := order.price
      quantity := order.currentQuantity
      isBuySide := order.isBuySide != 0 })

def sendOrderCancelledToDispatcher (reading : Nat) (cancelOrder : Info.CancelOrder) : Emission :=
  .marketData (.cancel
    { timestamp := (clock reading).toUInt64
      orderId := cancelOrder.orderId })

/-- The message has a timestamp field, which is not set. -/
def sendOrderModifiedToDispatcher (modifyOrder : Info.ModifyOrder) : Emission :=
  .marketData (.mod
    { timestamp := 0
      orderId := modifyOrder.orderId
      quantity := modifyOrder.quantity })

/-- Places what is left of an order and announces it. -/
def restOrder (book : OrderBook) (addSide : BookSide) (order : Order) (reading : Nat)
    (executions : List Execution) (emitted : List Emission) :
    Except Fault (Order × CallResult) := do
  let placed ← book.placeOrderInBook addSide order order.isBuySide
  return (order,
    { book := placed
      executions := executions
      emitted := emitted ++ [sendOrderAddedToDispatcher clock reading order] })

def addOrderTo (book : OrderBook) (order : Order) (matchSide addSide : BookSide) :
    Except Fault (Order × CallResult) :=
  if possibleMatches matchSide (book.levels matchSide) order then do
    let matched ← FifoMatcher.fifoMatch clock order (book.levels matchSide) book.limitOrders
    let afterMatch :=
      { book.setLevels matchSide matched.book with limitOrders := matched.limitbook }
    let emitted := communicateMatchResults matched.matchResult matched.order
    if matched.order.currentQuantity == 0 then
      return (matched.order,
        { book := afterMatch
          executions := matched.executions
          emitted := emitted })
    else
      restOrder clock afterMatch addSide matched.order matched.matchResult.fills.length
        matched.executions emitted
  else restOrder clock book addSide order 0 [] []

/-- The order that was passed by reference comes back with what is left of it. A
side that is neither zero nor one takes neither branch of the switch. -/
def addOrder (book : OrderBook) (order : Order) : Except Fault (Order × CallResult) :=
  if (book.limitOrders.lookup order.orderId).isSome then
    .ok (order,
      { book := book
        executions := []
        emitted := [rejection order.connection order.common .orderIdAlreadyPresent] })
  else if order.isBuySide = 1 then addOrderTo clock book order .asks .bids
  else if order.isBuySide = 0 then addOrderTo clock book order .bids .asks
  else .ok (order, { book := book, executions := [], emitted := [] })

def isTailOrder (lim : Limit) : Bool := lim.nextLimit.isNone && lim.prevLimit.isSome

def isHeadOrder (lim : Limit) : Bool := lim.prevLimit.isNone && lim.nextLimit.isSome

def isHeadAndTail (lim : Limit) : Bool := lim.nextLimit.isNone && lim.prevLimit.isNone

def isInMiddleOfLevel (lim : Limit) : Bool := lim.nextLimit.isSome && lim.prevLimit.isSome

/-- The pointer surgery of a cancel, before the limit is erased. -/
def unlinkLimit (book : OrderBook) (limit : Limit) : Except Fault OrderBook :=
  if isInMiddleOfLevel limit then do
    let limits ← book.limitOrders.modify limit.nextLimit
      (fun next => { next with prevLimit := limit.prevLimit })
    let limits ← limits.modify limit.prevLimit
      (fun prev => { prev with nextLimit := limit.nextLimit })
    return { book with limitOrders := limits }
  else if isHeadOrder limit then do
    let book ← book.writeLevel limit.currentLevel
      (fun level => { level with head := limit.nextLimit })
    let limits ← book.limitOrders.modify limit.nextLimit
      (fun next => { next with prevLimit := none })
    return { book with limitOrders := limits }
  else if isTailOrder limit then do
    let book ← book.writeLevel limit.currentLevel
      (fun level => { level with tail := limit.prevLimit })
    let limits ← book.limitOrders.modify limit.prevLimit
      (fun prev => { prev with nextLimit := none })
    return { book with limitOrders := limits }
  else if isHeadAndTail limit then
    if limit.order.isBuySide ≠ 0 then
      .ok { book with bids := book.bids.erase limit.order.price }
    else .ok { book with asks := book.asks.erase limit.order.price }
  else .ok book

def cancelOrder (book : OrderBook) (cancel : Info.CancelOrder) : Except Fault CallResult :=
  match book.limitOrders.lookup cancel.orderId with
  | none =>
      .ok { book := book
            executions := []
            emitted := [rejection cancel.connection cancel.toOrderCommon .orderNotFound] }
  | some limit =>
      if limit.order.userId ≠ cancel.userId then
        .ok { book := book
              executions := []
              emitted := [rejection cancel.connection cancel.toOrderCommon .wrongUserId] }
      else do
        let unlinked ← book.unlinkLimit limit
        return { book := { unlinked with limitOrders := unlinked.limitOrders.erase cancel.orderId }
                 executions := []
                 emitted := [sendOrderCancelledToDispatcher clock 0 cancel] }

def modifyOrderTrivial (modify : Info.ModifyOrder) (order : Order) : Bool :=
  modify.price == order.price && modify.quantity == order.currentQuantity

/-- The rejections of a modify, in the order of their flags. -/
def processModifyError (wrongSide wrongUserId trivialModify : Bool)
    (modify : Info.ModifyOrder) : List Emission :=
  let reject := rejection modify.connection modify.toOrderCommon
  (if wrongSide then [reject .modifyWrongSide] else []) ++
    (if wrongUserId then [reject .wrongUserId] else []) ++
    (if trivialModify then [reject .modificationTrivial] else [])

/-- A quantity change at the same price. The increase branch adds the requested
and the current quantity to the current one. -/
def modifyInPlace (modify : Info.ModifyOrder) (order : Order) : Except Fault Order :=
  if order.currentQuantity < modify.quantity then
    .ok (order.increaseQty (modify.quantity + order.currentQuantity))
  else order.decreaseQty (order.currentQuantity - modify.quantity)

def modifyOrder (book : OrderBook) (modify : Info.ModifyOrder) : Except Fault CallResult :=
  match book.limitOrders.lookup modify.orderId with
  | none =>
      .ok { book := book
            executions := []
            emitted := [rejection modify.connection modify.toOrderCommon .orderNotFound] }
  | some limit =>
      let wrongSide := limit.order.isBuySide != modify.isBuySide
      let wrongUserId := limit.order.userId != modify.userId
      let trivialModify := modifyOrderTrivial modify limit.order
      if wrongSide || wrongUserId || trivialModify then
        .ok { book := book
              executions := []
              emitted := processModifyError wrongSide wrongUserId trivialModify modify }
      else if modify.price = limit.order.price then do
        let order ← modifyInPlace modify limit.order
        return { book :=
                   { book with
                     limitOrders :=
                       book.limitOrders.insert modify.orderId { limit with order := order } }
                 executions := []
                 emitted := [sendOrderModifiedToDispatcher modify] }
      else do
        let cancelled ← cancelOrder clock book (Info.CancelOrder.ofModify modify)
        let (_, added) ← addOrder (fun reading => clock (reading + 1)) cancelled.book
          (Order.ofModify modify)
        return { added with emitted := cancelled.emitted ++ added.emitted }

end Calls

end OrderBook

/-- The three calls a book receives, with the readings of the clock during each. -/
inductive Request where
  | add (clock : Nat → Int64) (order : Order)
  | modify (clock : Nat → Int64) (modify : Info.ModifyOrder)
  | cancel (clock : Nat → Int64) (cancel : Info.CancelOrder)

namespace Request

def common : Request → Info.OrderCommon
  | .add _ order => order.common
  | .modify _ changes => changes.toOrderCommon
  | .cancel _ cancels => cancels.toOrderCommon

def connection : Request → ConnectionRef
  | .add _ order => order.connection
  | .modify _ changes => changes.connection
  | .cancel _ cancels => cancels.connection

end Request

namespace OrderBook

def call (book : OrderBook) : Request → Except Fault CallResult
  | .add clock order => (book.addOrder clock order).map Prod.snd
  | .modify clock modify => book.modifyOrder clock modify
  | .cancel clock cancel => book.cancelOrder clock cancel

def step (book : OrderBook) (request : Request) : Except Fault OrderBook :=
  (book.call request).map CallResult.book

end OrderBook

end Engine
end SpotExchange
