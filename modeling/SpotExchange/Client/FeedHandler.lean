/-
The client's copy of the books, kept from the market data. A displayed size is a signed
64-bit sum of signed 32-bit quantities.
-/

import Mathlib.Data.List.AList
import SpotExchange.Engine.Book
import SpotExchange.Info.Messages

namespace SpotExchange
namespace Client

open Engine Wire

/-! ### The client's order book -/

abbrev Sizes := AList (fun _ : Price => Int64)

structure ClientOrderBook where
  ticker : Ticker
  asks : Sizes
  bids : Sizes

namespace ClientOrderBook

def ofTicker (ticker : Ticker) : ClientOrderBook :=
  { ticker := ticker
    asks := ∅
    bids := ∅ }

def sizes (book : ClientOrderBook) : BookSide → Sizes
  | .asks => book.asks
  | .bids => book.bids

def setSizes (book : ClientOrderBook) : BookSide → Sizes → ClientOrderBook
  | .asks, sizes => { book with asks := sizes }
  | .bids, sizes => { book with bids := sizes }

/-- Any value but zero means the buy side. -/
def sideOf (isBuySide : UInt8) : BookSide := if isBuySide ≠ 0 then .bids else .asks

/-- A price without an entry gets one of zero first. -/
def addToBook (book : ClientOrderBook) (isBuySide : UInt8) (shares : Int32) (price : Price) :
    ClientOrderBook :=
  let bookSide := book.sizes (sideOf isBuySide)
  book.setSizes (sideOf isBuySide)
    (bookSide.insert price ((bookSide.lookup price).getD 0 + shares.toInt64))

def removeFromBook (book : ClientOrderBook) (isBuySide : UInt8) (shares : Int32) (price : Price) :
    ClientOrderBook :=
  let bookSide := book.sizes (sideOf isBuySide)
  match bookSide.lookup price with
  | none => book
  | some size =>
      if size - shares.toInt64 ≤ 0 then book.setSizes (sideOf isBuySide) (bookSide.erase price)
      else book.setSizes (sideOf isBuySide) (bookSide.insert price (size - shares.toInt64))

@[simp]
theorem sizes_setSizes_self (book : ClientOrderBook) (side : BookSide) (sizes : Sizes) :
    (book.setSizes side sizes).sizes side = sizes := by
  cases side <;> rfl

theorem sizes_setSizes_of_ne (book : ClientOrderBook) {written side : BookSide}
    (different : side ≠ written) (sizes : Sizes) :
    (book.setSizes written sizes).sizes side = book.sizes side := by
  cases written <;> cases side <;> first | rfl | exact absurd rfl different

theorem lookup_addToBook (book : ClientOrderBook) (isBuySide : UInt8) (shares : Int32)
    (written : Price) (side : BookSide) (price : Price) :
    ((book.addToBook isBuySide shares written).sizes side).lookup price =
      if side = sideOf isBuySide ∧ price = written then
        some (((book.sizes side).lookup price).getD 0 + shares.toInt64)
      else (book.sizes side).lookup price := by
  unfold addToBook
  by_cases same : side = sideOf isBuySide
  · subst same
    rw [sizes_setSizes_self]
    by_cases here : price = written
    · subst here
      rw [if_pos ⟨rfl, rfl⟩, AList.lookup_insert]
    · rw [if_neg (fun both => here both.2), AList.lookup_insert_ne here]
  · rw [sizes_setSizes_of_ne book same, if_neg (fun both => same both.1)]

theorem lookup_removeFromBook (book : ClientOrderBook) (isBuySide : UInt8) (shares : Int32)
    (written : Price) (side : BookSide) (price : Price) :
    ((book.removeFromBook isBuySide shares written).sizes side).lookup price =
      if side = sideOf isBuySide ∧ price = written then
        ((book.sizes side).lookup price).bind (fun size =>
          if size - shares.toInt64 ≤ 0 then none else some (size - shares.toInt64))
      else (book.sizes side).lookup price := by
  cases found : (book.sizes (sideOf isBuySide)).lookup written with
  | none =>
      have unchanged : book.removeFromBook isBuySide shares written = book := by
        simp only [removeFromBook, found]
      rw [unchanged]
      by_cases here : side = sideOf isBuySide ∧ price = written
      · rw [if_pos here, here.1, here.2, found]
        rfl
      · rw [if_neg here]
  | some size =>
      have written' : book.removeFromBook isBuySide shares written =
          book.setSizes (sideOf isBuySide) (if size - shares.toInt64 ≤ 0 then
            (book.sizes (sideOf isBuySide)).erase written
          else
            (book.sizes (sideOf isBuySide)).insert written (size - shares.toInt64)) := by
        simp only [removeFromBook, found]
        split <;> rfl
      have left : ((if size - shares.toInt64 ≤ 0 then
            (book.sizes (sideOf isBuySide)).erase written
          else (book.sizes (sideOf isBuySide)).insert written
            (size - shares.toInt64)) : Sizes).lookup price =
          if price = written then
            if size - shares.toInt64 ≤ 0 then none else some (size - shares.toInt64)
          else (book.sizes (sideOf isBuySide)).lookup price := by
        by_cases here : price = written
        · subst here
          by_cases emptied : size - shares.toInt64 ≤ 0
          · rw [if_pos emptied, if_pos rfl, if_pos emptied, AList.lookup_erase]
          · rw [if_neg emptied, if_pos rfl, if_neg emptied, AList.lookup_insert]
        · by_cases emptied : size - shares.toInt64 ≤ 0
          · rw [if_pos emptied, if_neg here, AList.lookup_erase_ne here]
          · rw [if_neg emptied, if_neg here, AList.lookup_insert_ne here]
      rw [written']
      by_cases same : side = sideOf isBuySide
      · subst same
        rw [sizes_setSizes_self, left]
        by_cases here : price = written
        · have both : sideOf isBuySide = sideOf isBuySide ∧ price = written := ⟨rfl, here⟩
          rw [if_pos here, if_pos both, here, found, Option.bind_some]
        · have apart : ¬(sideOf isBuySide = sideOf isBuySide ∧ price = written) :=
            fun both => here both.2
          rw [if_neg here, if_neg apart]
      · have apart : ¬(side = sideOf isBuySide ∧ price = written) := fun both => same both.1
        rw [sizes_setSizes_of_ne book same, if_neg apart]

end ClientOrderBook

/-! ### The feed handler -/

structure AddOrderData where
  timestamp : Int64
  orderId : OrderId
  ticker : Ticker
  price : Price
  quantity : Int32
  isBuySide : UInt8
  bookIndex : UInt16
  deriving DecidableEq, Repr

structure ModOrderData where
  timestamp : Int64
  orderId : OrderId
  quantity : Int32
  deriving DecidableEq, Repr

structure CancelOrderData where
  timestamp : Int64
  orderId : OrderId
  deriving DecidableEq, Repr

structure FillOrderData where
  timestamp : Int64
  orderId : OrderId
  ticker : Ticker
  fillId : UInt64
  quantity : Int32
  deriving DecidableEq, Repr

/-- What a packet is decoded to, where it is one that the handler is given. -/
inductive FeedMessage where
  | add (newOrder : AddOrderData)
  | modify (modifyOrder : ModOrderData)
  | cancel (cancelOrder : CancelOrderData)
  | fill (fill : FillOrderData)
  deriving DecidableEq, Repr

structure ClientFeedHandler where
  orderbooks : List ClientOrderBook
  tickers : AList (fun _ : Ticker => UInt16)
  orders : AList (fun _ : OrderId => AddOrderData)

namespace ClientFeedHandler

def fresh : ClientFeedHandler :=
  { orderbooks := []
    tickers := ∅
    orders := ∅ }

/-- A change to the book under an index. -/
def changeBook (handler : ClientFeedHandler) (index : UInt16)
    (change : ClientOrderBook → ClientOrderBook) : Except Fault ClientFeedHandler :=
  match handler.orderbooks[index.toNat]? with
  | none => .error (.noOrderBook index)
  | some book => .ok { handler with orderbooks := handler.orderbooks.set index.toNat (change book) }

/-- The index of a ticker's book, which is opened first where there is none. The index
is kept in 16 bits. -/
def openBook (handler : ClientFeedHandler) (ticker : Ticker) : ClientFeedHandler × UInt16 :=
  match handler.tickers.lookup ticker with
  | some index => (handler, index)
  | none =>
      let orderbooks := handler.orderbooks ++ [ClientOrderBook.ofTicker ticker]
      let index := UInt16.ofNat (orderbooks.length - 1)
      ({ handler with
          orderbooks := orderbooks
          tickers := handler.tickers.insert ticker index }, index)

/-- An id that is already known keeps its old data. -/
def addOrder (handler : ClientFeedHandler) (newOrder : AddOrderData) :
    Except Fault ClientFeedHandler := do
  let (opened, bookId) := handler.openBook newOrder.ticker
  let changed ← opened.changeBook bookId
    (fun book => book.addToBook newOrder.isBuySide newOrder.quantity newOrder.price)
  return { changed with
            orders :=
              if (changed.orders.lookup newOrder.orderId).isSome then changed.orders
              else changed.orders.insert newOrder.orderId { newOrder with bookIndex := bookId } }

def cancelOrder (handler : ClientFeedHandler) (cancelOrder : CancelOrderData) :
    Except Fault ClientFeedHandler :=
  match handler.orders.lookup cancelOrder.orderId with
  | none => .ok handler
  | some order => do
      let changed ← handler.changeBook order.bookIndex
        (fun book => book.removeFromBook order.isBuySide order.quantity order.price)
      return { changed with orders := changed.orders.erase cancelOrder.orderId }

def modifyOrder (handler : ClientFeedHandler) (modifyOrder : ModOrderData) :
    Except Fault ClientFeedHandler :=
  match handler.orders.lookup modifyOrder.orderId with
  | none => .ok handler
  | some order => do
      let changed ← handler.changeBook order.bookIndex (fun book =>
        if modifyOrder.quantity > order.quantity then
          book.addToBook order.isBuySide (modifyOrder.quantity - order.quantity) order.price
        else
          book.removeFromBook order.isBuySide (order.quantity - modifyOrder.quantity) order.price)
      return { changed with
                orders := changed.orders.insert modifyOrder.orderId
                  { order with quantity := modifyOrder.quantity } }

def fillOrder (handler : ClientFeedHandler) (fill : FillOrderData) :
    Except Fault ClientFeedHandler :=
  match handler.orders.lookup fill.orderId with
  | none => .ok handler
  | some order => do
      let changed ← handler.changeBook order.bookIndex
        (fun book => book.removeFromBook order.isBuySide fill.quantity order.price)
      return { changed with
                orders :=
                  if order.quantity - fill.quantity ≤ 0 then changed.orders.erase fill.orderId
                  else changed.orders.insert fill.orderId
                    { order with quantity := order.quantity - fill.quantity } }

def process (handler : ClientFeedHandler) : FeedMessage → Except Fault ClientFeedHandler
  | .add newOrder => handler.addOrder newOrder
  | .modify modifyOrder => handler.modifyOrder modifyOrder
  | .cancel cancelOrder => handler.cancelOrder cancelOrder
  | .fill fill => handler.fillOrder fill

/-- The null pointer where the id is not known. -/
def getOrder (handler : ClientFeedHandler) (id : OrderId) : Option AddOrderData :=
  handler.orders.lookup id

/-- The book of a ticker, where there is one. -/
def subscribe (handler : ClientFeedHandler) (ticker : Ticker) : Option ClientOrderBook :=
  match handler.tickers.lookup ticker with
  | none => none
  | some index => handler.orderbooks[index.toNat]?

/-- A message of the feed, as the handler receives it: unsigned quantities are read as
signed ones. The padding of an added order holds no index yet. -/
def receive (handler : ClientFeedHandler) : MarketDataResponse → Except Fault ClientFeedHandler
  | .add data =>
      handler.addOrder
        { timestamp := data.timestamp.toInt64
          orderId := data.orderId
          ticker := data.ticker
          price := data.price
          quantity := data.quantity.toInt32
          isBuySide := data.isBuySide.toUInt8
          bookIndex := 0 }
  | .mod data =>
      handler.modifyOrder
        { timestamp := data.timestamp.toInt64
          orderId := data.orderId
          quantity := data.quantity.toInt32 }
  | .cancel data =>
      handler.cancelOrder
        { timestamp := data.timestamp.toInt64
          orderId := data.orderId }
  | .fill data =>
      handler.fillOrder
        { timestamp := data.timestamp
          orderId := data.statusCommon.orderId
          ticker := data.statusCommon.ticker
          fillId := data.fillId
          quantity := data.fillQuantity.toInt32 }
  | .notification _ => .ok handler
  | .notSet => .ok handler

/-- The size displayed for a ticker at a side and price, where there is one. -/
def displayed (handler : ClientFeedHandler) (ticker : Ticker) (side : BookSide) (price : Price) :
    Option Int64 :=
  match handler.subscribe ticker with
  | none => none
  | some book => (book.sizes side).lookup price

end ClientFeedHandler

end Client
end SpotExchange
