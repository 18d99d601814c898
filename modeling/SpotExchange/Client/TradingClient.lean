/-
The trading client: the copy of the books that it keeps from the datagrams, the book that it
displays, the lines about the server's responses, and what is printed again when. A response and
a datagram are each dealt with as a whole.
-/

import SpotExchange.Client.Drawing
import SpotExchange.Info.Messages

namespace SpotExchange
namespace Client

open Bytes Engine Machine Util Wire

/-! ### The client -/

/-- A part of a line of the info feed. The eight bytes of a name are read when the line is made,
and where they have no end it is unknown what was read behind them. Timestamps stand for the
times that they are written as. -/
inductive Piece where
  | text (text : String)
  | time (timestamp : Int64)
  | name (read : Option Text)
  | number (value : Int)
  deriving DecidableEq, Repr

abbrev InfoLine := List Piece

/-- A pointer into the vector of the books, taken when the vector had so many of them. -/
structure Subscription where
  index : Nat
  among : Nat
  deriving DecidableEq, Repr

/-- What the client does not decide: at which sizes the vector of the books moves when one more
is put behind so many, and how wide the terminal is. -/
structure Surroundings where
  moves : Nat → Bool
  width : UInt16

/-- The last field records whether a name was ever read behind its eight bytes for a line of the
info feed. -/
structure TradingClient where
  feedhandler : ClientFeedHandler
  subscription : Option Subscription
  infoFeed : List InfoLine
  userID : UserId
  overread : Bool

inductive ClientEvent where
  | datagram (message : FeedMessage)
  | response (response : OrderEntryResponse)
  deriving DecidableEq, Repr

def TradingClient.start (userID : UserId) : TradingClient :=
  { feedhandler := ClientFeedHandler.fresh
    subscription := none
    infoFeed := List.replicate 5 [.text " "]
    userID := userID
    overread := false }

/-- A terminal of the usual width, and a vector that never moves. -/
def eightyColumns : Surroundings :=
  { moves := fun _ => false
    width := 80 }

/-! ### The subscribed book -/

/-- The vector has not moved its elements since the pointer was taken. -/
def Subscription.Live (moves : Nat → Bool) (subscription : Subscription) (count : Nat) : Prop :=
  ∀ size < count, subscription.among ≤ size → moves size = false

instance (moves : Nat → Bool) (subscription : Subscription) (count : Nat) :
    Decidable (subscription.Live moves count) :=
  inferInstanceAs (Decidable (∀ size < count, subscription.among ≤ size → moves size = false))

namespace ClientFeedHandler

/-- A pointer to the book of a ticker, or the null pointer. -/
def subscription (handler : ClientFeedHandler) (ticker : Ticker) :
    Except Fault (Option Subscription) :=
  match handler.tickers.lookup ticker with
  | none => .ok none
  | some index =>
      if index.toNat < handler.orderbooks.length then
        .ok (some
          { index := index.toNat
            among := handler.orderbooks.length })
      else .error (.noOrderBook index)

def getOrderIDTicker (handler : ClientFeedHandler) (orderId : OrderId) : Ticker :=
  match handler.orders.lookup orderId with
  | none => 0
  | some order => order.ticker

/-- The book behind a pointer. -/
def bookAt (moves : Nat → Bool) (handler : ClientFeedHandler) (subscription : Subscription) :
    Except ClientFault ClientOrderBook :=
  if subscription.Live moves handler.orderbooks.length then
    match handler.orderbooks[subscription.index]? with
    | none => .error (.staleBook subscription.index)
    | some book => .ok book
  else .error (.staleBook subscription.index)

def getTicker (moves : Nat → Bool) (handler : ClientFeedHandler) (subscription : Subscription) :
    Except ClientFault Ticker :=
  (handler.bookAt moves subscription).map ClientOrderBook.ticker

end ClientFeedHandler

namespace TradingClient

/-! ### Printing -/

/-- Printing leaves the last twenty lines. -/
def printInfoBox (client : TradingClient) : TradingClient :=
  { client with infoFeed := client.infoFeed.drop (client.infoFeed.length - 20) }

/-- The client and what is printed of the subscribed book, above the info box. -/
def reprintInterface (surroundings : Surroundings) (client : TradingClient) :
    Except ClientFault (TradingClient × List Text) :=
  match client.subscription with
  | none => .ok (client.printInfoBox, [])
  | some subscription => do
      let book ← client.feedhandler.bookAt surroundings.moves subscription
      let lines ← book.draw surroundings.width.toNat
      return (client.printInfoBox, lines)

/-! ### Datagrams -/

/-- The feed handler has taken a message; the interface is reprinted last where the subscribed
book has a ticker. -/
def afterData (moves : Nat → Bool) (client : TradingClient)
    (taken : Except Fault ClientFeedHandler) (ticker : ClientFeedHandler → Ticker) :
    Except ClientFault (TradingClient × Bool) :=
  match taken with
  | .error fault => .error (.feed fault)
  | .ok handler =>
      match client.subscription with
      | none => .ok ({ client with feedhandler := handler }, false)
      | some subscription => do
          let subscribed ← handler.getTicker moves subscription
          return ({ client with feedhandler := handler }, subscribed == ticker handler)

def processAddOrderData (moves : Nat → Bool) (client : TradingClient) (addOrder : AddOrderData) :
    Except ClientFault (TradingClient × Bool) :=
  client.afterData moves (client.feedhandler.addOrder addOrder) (fun _ => addOrder.ticker)

def processModifyOrderData (moves : Nat → Bool) (client : TradingClient)
    (modOrder : ModOrderData) : Except ClientFault (TradingClient × Bool) :=
  client.afterData moves (client.feedhandler.modifyOrder modOrder)
    (fun handler => handler.getOrderIDTicker modOrder.orderId)

def processCancelOrderData (moves : Nat → Bool) (client : TradingClient)
    (cancelOrder : CancelOrderData) : Except ClientFault (TradingClient × Bool) :=
  client.afterData moves (client.feedhandler.cancelOrder cancelOrder)
    (fun handler => handler.getOrderIDTicker cancelOrder.orderId)

def processFillOrderData (moves : Nat → Bool) (client : TradingClient) (fill : FillOrderData) :
    Except ClientFault (TradingClient × Bool) :=
  client.afterData moves (client.feedhandler.fillOrder fill) (fun _ => fill.ticker)

/-- A datagram; whether the interface is reprinted in the end. -/
def processMarketData (moves : Nat → Bool) (client : TradingClient) :
    FeedMessage → Except ClientFault (TradingClient × Bool)
  | .add addOrder => client.processAddOrderData moves addOrder
  | .modify modOrder => client.processModifyOrderData moves modOrder
  | .cancel cancelOrder => client.processCancelOrderData moves cancelOrder
  | .fill fill => client.processFillOrderData moves fill

/-- The ticker that is compared when a message has been processed. -/
def comparedAfter (message : FeedMessage) (handler : ClientFeedHandler) : Ticker :=
  match message with
  | .add newOrder => newOrder.ticker
  | .modify modifyOrder => handler.getOrderIDTicker modifyOrder.orderId
  | .cancel cancelOrder => handler.getOrderIDTicker cancelOrder.orderId
  | .fill fill => fill.ticker

theorem processMarketData_eq (moves : Nat → Bool) (client : TradingClient)
    (message : FeedMessage) :
    client.processMarketData moves message =
      client.afterData moves (client.feedhandler.process message) (comparedAfter message) := by
  cases message <;> rfl

/-- A datagram with the reprint that it asks for. -/
def readMarketData (surroundings : Surroundings) (client : TradingClient)
    (message : FeedMessage) : Except ClientFault TradingClient := do
  let (next, reprints) ← client.processMarketData surroundings.moves message
  if reprints then
    let (reprinted, _) ← next.reprintInterface surroundings
    return reprinted
  else return next

end TradingClient

/-! ### Responses -/

def rejectionToString : RejectionReason → String
  | .unknown => "UNKNOWN"
  | .orderNotFound => "ORDER NOT FOUND"
  | .orderIdAlreadyPresent => "ORDER ID ALREADY PRESENT"
  | .orderbookNotFound => "ORDERBOOK NOT FOUND"
  | .tickerNotFound => "TICKER NOT FOUND"
  | .modifyWrongSide => "MODIFY WRONG SIDE"
  | .modificationTrivial => "MODIFICATION TRIVIAL"
  | .wrongUserId => "WRONG USER ID"

def timestampStr (timestamp : Int64) : InfoLine :=
  [.text "[", .time timestamp, .text "] "]

def sideText (isBuySide : Bool) : Piece := .text (if isBuySide then "BID" else "ASK")

/-- The order behind a pointer that is dereferenced. -/
def dereference (id : OrderId) : Option AddOrderData → Except ClientFault AddOrderData
  | none => .error (.nullOrder id)
  | some order => .ok order

/-- Whether a part is a name that was read behind its eight bytes. -/
def Piece.overread : Piece → Bool
  | .name read => read.isNone
  | _ => false

namespace TradingClient

def pushInfo (client : TradingClient) (line : InfoLine) : TradingClient :=
  printInfoBox
    { client with
      infoFeed := client.infoFeed ++ [line]
      overread := client.overread || line.any Piece.overread }

def interpretNewOrderAck (client : TradingClient) (timestamp : Int64) (ord : NewOrder) :
    TradingClient :=
  let tkr := convertEightBytesToString ord.orderCommon.ticker
  client.pushInfo
    (timestampStr timestamp ++
      [.text "ADD ", sideText ord.isBuySide, .text " TO ", .name tkr, .text " ",
        .number ord.quantity.toNat, .text " SHARES @ ", .text "£",
        .number ord.price.toInt, .text " ACKNOWLEDGED ", .text "WITH ID ",
        .number ord.orderCommon.orderId.toNat])

def interpretModifyOrderAck (client : TradingClient) (timestamp : Int64) (ord : ModifyOrder) :
    Except ClientFault TradingClient := do
  let tkr := convertEightBytesToString ord.orderCommon.ticker
  let currOrd ← dereference ord.orderCommon.orderId
    (client.feedhandler.getOrder ord.orderCommon.orderId)
  return client.pushInfo
    (timestampStr timestamp ++
      [.text "MODIFY ", sideText ord.isBuySide, .text " IN ", .name tkr, .text " ", .text "FROM",
        .number currOrd.quantity.toInt, .text " SHARES ", .text "TO",
        .number ord.quantity.toNat, .text " SHARES @ £", .number ord.price.toInt,
        .text " ACKNOWLEDGED WITH ID ", .number ord.orderCommon.orderId.toNat])

def interpretCancelOrderAck (client : TradingClient) (timestamp : Int64)
    (ord : Info.OrderCommon) : Except ClientFault TradingClient := do
  let currOrd ← dereference ord.orderId (client.feedhandler.getOrder ord.orderId)
  let tkr := convertEightBytesToString ord.ticker
  return client.pushInfo
    (timestampStr timestamp ++
      [.text "CANCEL ", sideText (currOrd.isBuySide == 1), .text " IN ", .name tkr, .text " ",
        .text "ACKNOWLEDGED WITH ID ", .number ord.orderId.toNat])

/-- The pointer is tested for the side only. -/
def interpretFill (client : TradingClient) (fillAck : OrderEntryFill) :
    Except ClientFault TradingClient :=
  let ord := fillAck.statusCommon
  if ord.userId = client.userID then do
    let currOrd := client.feedhandler.getOrder ord.orderId
    let side :=
      match currOrd with
      | none => .text ""
      | some order => sideText (order.isBuySide == 1)
    let tkr := convertEightBytesToString ord.ticker
    let order ← dereference ord.orderId currOrd
    return client.pushInfo
      (timestampStr fillAck.timestamp ++
        [side, .text " ORDER ", .number ord.orderId.toNat, .text " IN ", .name tkr,
          .text " FILLED: ", .number fillAck.fillQuantity.toNat, .text " / ",
          .number order.quantity.toInt])
  else .ok client

def interpretRejection (client : TradingClient) (rejectAck : OrderEntryRejection) :
    TradingClient :=
  client.pushInfo
    [.text "ORDER ENTRY REJECTED! REASON: ",
      .text (rejectionToString rejectAck.rejectionResponse)]

def interpretResponseType (client : TradingClient) :
    OrderEntryResponse → Except ClientFault TradingClient
  | .newOrderAck timestamp newOrder => .ok (client.interpretNewOrderAck timestamp newOrder)
  | .modifyOrderAck timestamp modifyOrder => client.interpretModifyOrderAck timestamp modifyOrder
  | .cancelOrderAck timestamp common => client.interpretCancelOrderAck timestamp common
  | .fill fill => client.interpretFill fill
  | .rejection rejection => .ok (client.interpretRejection rejection)

def step (surroundings : Surroundings) (client : TradingClient) :
    ClientEvent → Except ClientFault TradingClient
  | .datagram message => client.readMarketData surroundings message
  | .response response => client.interpretResponseType response

end TradingClient
end Client
end SpotExchange
