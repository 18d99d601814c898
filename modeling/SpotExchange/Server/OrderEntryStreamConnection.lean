/-
Order entry connections: the registration of a user id with the first message, the
check of the user id in each message, and the conversion of messages into requests.

A connection that is terminated is not told apart from one that may still read, so
that the runs of this model contain those of the server.
-/

import SpotExchange.Server.OrderBookManager

namespace SpotExchange
namespace Server

open Engine Wire

/-- The books, the connection of each registered user id, the user id of each connection
that has been verified, and the last order id given out. -/
structure Exchange where
  orderbooks : OrderBooks
  clientStreams : AList (fun _ : UserId => ConnectionRef)
  userIds : AList (fun _ : ConnectionRef => UserId)
  orderidGenerator : OrderId

/-- What reading a message leaves behind. -/
structure Reaction where
  exchange : Exchange
  executions : List (Ticker × Execution)
  emitted : List Emission

namespace Exchange

/-- The books that the server creates before it handles calls. -/
def start (tickers : List Ticker) : Exchange :=
  { orderbooks :=
      tickers.foldl (fun books ticker => (OrderBookManager.createOrderBook books ticker).1) ∅
    clientStreams := ∅
    userIds := ∅
    orderidGenerator := 1 }

def orderCommon : OrderEntryRequest → Option Info.OrderCommon
  | .newOrder request => some request.orderCommon
  | .modifyOrder request => some request.orderCommon
  | .cancelOrder request => some request.orderCommon
  | .notSet => none

/-! ### The requests that a connection makes of its messages -/

section Conversions

variable (connection : ConnectionRef)

/-- A signed price is read as an unsigned one. -/
def newOrderOf (request : NewOrder) : Order :=
  Order.create request.isBuySide.toUInt8 connection request.price.toUInt64 request.quantity
    request.orderCommon

def modifyOrderOf (request : ModifyOrder) : Info.ModifyOrder :=
  { request.orderCommon with
    price := request.price.toUInt64
    connection := connection
    quantity := request.quantity
    isBuySide := request.isBuySide.toUInt8 }

def cancelOrderOf (request : CancelOrder) : Info.CancelOrder :=
  { request.orderCommon with connection := connection }

end Conversions

/-- The message of a new order once it has been given its order id. -/
def withOrderId (request : NewOrder) (orderId : OrderId) : NewOrder :=
  { request with
    orderCommon := { request.orderCommon with orderId := orderId } }

/-! ### Reading messages -/

section Reading

variable (clock : Nat → Int64) (exchange : Exchange) (connection : ConnectionRef)

/-- A message under another user id is rejected; any other one is acknowledged and
processed. -/
def handleOrderType (userid : UserId) (common : Info.OrderCommon)
    (acknowledgement : OrderEntryResponse)
    (processOrderEntry : OrderBooks → Except Fault Handled) : Except Fault Reaction :=
  if common.userId ≠ userid then
    .ok { exchange := exchange
          executions := []
          emitted := [OrderBook.rejection connection common .wrongUserId] }
  else do
    let handled ← processOrderEntry exchange.orderbooks
    return { exchange := { exchange with orderbooks := handled.books }
             executions := handled.executions
             emitted := .toClient connection acknowledgement :: handled.emitted }

/-- The generator moves on with every new order, also with one that is rejected. -/
def processEntry (userid : UserId) : OrderEntryRequest → Except Fault Reaction
  | .newOrder request =>
      let orderId := exchange.orderidGenerator + 1
      let numbered := withOrderId request orderId
      handleOrderType { exchange with orderidGenerator := orderId } connection userid
        numbered.orderCommon (.newOrderAck (clock 0) numbered)
        (fun books => OrderBookManager.addOrder (fun reading => clock (reading + 1)) books
          (newOrderOf connection numbered))
  | .modifyOrder request =>
      handleOrderType exchange connection userid request.orderCommon
        (.modifyOrderAck (clock 0) request)
        (fun books => OrderBookManager.modifyOrder (fun reading => clock (reading + 1)) books
          (modifyOrderOf connection request))
  | .cancelOrder request =>
      handleOrderType exchange connection userid request.orderCommon
        (.cancelOrderAck (clock 0) request.orderCommon)
        (fun books => OrderBookManager.cancelOrder (fun reading => clock (reading + 1)) books
          (cancelOrderOf connection request))
  | .notSet =>
      .ok { exchange := exchange
            executions := []
            emitted := [] }

/-- The first message of a connection. A message without an order leaves the pointer to
the common fields unset. -/
def verifyID (request : OrderEntryRequest) : Except Fault Reaction :=
  match orderCommon request with
  | none => .error .uninitialisedRead
  | some common =>
      if (exchange.clientStreams.lookup common.userId).isSome then
        .ok { exchange := exchange
              executions := []
              emitted := [OrderBook.rejection connection common .wrongUserId] }
      else
        processEntry clock
          { exchange with
            clientStreams := exchange.clientStreams.insert common.userId connection
            userIds := exchange.userIds.insert connection common.userId }
          connection common.userId request

/-- A later message. The user id of a connection that has not been verified is unset. -/
def readOrderEntry (request : OrderEntryRequest) : Except Fault Reaction :=
  match exchange.userIds.lookup connection with
  | none => .error .uninitialisedRead
  | some userid => processEntry clock exchange connection userid request

/-- `unset` is what the user id of a connection reads as that was never verified. -/
def terminateConnection (unset : UserId) : Reaction :=
  { exchange :=
      { exchange with
        clientStreams := exchange.clientStreams.erase
          ((exchange.userIds.lookup connection).getD unset) }
    executions := []
    emitted := [] }

end Reading

end Exchange

/-- What may happen at the connections, in any order. -/
inductive Event where
  | verifyID (clock : Nat → Int64) (connection : ConnectionRef) (request : OrderEntryRequest)
  | readOrderEntry (clock : Nat → Int64) (connection : ConnectionRef) (request : OrderEntryRequest)
  | terminateConnection (connection : ConnectionRef) (unset : UserId)

namespace Exchange

def react (exchange : Exchange) : Event → Except Fault Reaction
  | .verifyID clock connection request => exchange.verifyID clock connection request
  | .readOrderEntry clock connection request => exchange.readOrderEntry clock connection request
  | .terminateConnection connection unset => .ok (exchange.terminateConnection connection unset)

def step (exchange : Exchange) (event : Event) : Except Fault Exchange :=
  (exchange.react event).map Reaction.exchange

end Exchange

end Server
end SpotExchange
