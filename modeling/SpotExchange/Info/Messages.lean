/-
The order entry and market data messages, as the wire schema declares them. A
message with alternatives is one constructor for each alternative that a sender
sets, and one for a message in which none is set.
-/

import SpotExchange.Info.Order

namespace SpotExchange
namespace Wire

/-- Client requests. Prices are signed here and become unsigned in an order. -/
structure NewOrder where
  orderCommon : Info.OrderCommon
  quantity : UInt32
  isBuySide : Bool
  price : Int64
  deriving DecidableEq, Repr

structure ModifyOrder where
  orderCommon : Info.OrderCommon
  quantity : UInt32
  isBuySide : Bool
  price : Int64
  deriving DecidableEq, Repr

structure CancelOrder where
  orderCommon : Info.OrderCommon
  deriving DecidableEq, Repr

inductive OrderEntryRequest where
  | newOrder (request : NewOrder)
  | modifyOrder (request : ModifyOrder)
  | cancelOrder (request : CancelOrder)
  | notSet
  deriving DecidableEq, Repr

inductive RejectionReason where
  | unknown
  | orderNotFound
  | orderIdAlreadyPresent
  | orderbookNotFound
  | tickerNotFound
  | modifyWrongSide
  | modificationTrivial
  | wrongUserId
  deriving DecidableEq, Repr

structure OrderEntryRejection where
  orderCommon : Info.OrderCommon
  rejectionResponse : RejectionReason
  deriving DecidableEq, Repr

inductive FillAllocationAlgo where
  | unknown
  | fifo
  | lifo
  | prorata
  deriving DecidableEq, Repr

structure OrderEntryFill where
  timestamp : Int64
  statusCommon : Info.OrderCommon
  completeFill : Bool
  fillQuantity : UInt32
  fillId : UInt64
  allocAlgo : FillAllocationAlgo
  deriving DecidableEq, Repr

inductive OrderEntryResponse where
  | newOrderAck (timestamp : Int64) (newOrder : NewOrder)
  | modifyOrderAck (timestamp : Int64) (modifyOrder : ModifyOrder)
  | cancelOrderAck (timestamp : Int64) (statusCommon : Info.OrderCommon)
  | fill (fill : OrderEntryFill)
  | rejection (rejection : OrderEntryRejection)
  deriving DecidableEq, Repr

structure OrderAdded where
  timestamp : UInt64
  orderId : OrderId
  ticker : Ticker
  price : Price
  quantity : UInt32
  isBuySide : Bool
  deriving DecidableEq, Repr

structure OrderModified where
  timestamp : UInt64
  orderId : OrderId
  quantity : UInt32
  deriving DecidableEq, Repr

structure OrderCancelled where
  timestamp : UInt64
  orderId : OrderId
  deriving DecidableEq, Repr

structure Notification where
  timestamp : UInt64
  flag : UInt32
  deriving DecidableEq, Repr

inductive MarketDataResponse where
  | add (data : OrderAdded)
  | mod (data : OrderModified)
  | cancel (data : OrderCancelled)
  | fill (data : OrderEntryFill)
  | notification (data : Notification)
  | notSet
  deriving DecidableEq, Repr

/-- What the engine hands to its writers, in the order it does so: responses to
the queue of one connection, market data to the dispatcher. -/
inductive Emission where
  | toClient (connection : ConnectionRef) (response : OrderEntryResponse)
  | marketData (message : MarketDataResponse)
  deriving DecidableEq, Repr

/-- The market data among the emissions. -/
def marketDataOf : List Emission → List MarketDataResponse
  | [] => []
  | .toClient _ _ :: rest => marketDataOf rest
  | .marketData message :: rest => message :: marketDataOf rest

/-- The fill responses among the emissions, with the connection each goes to. -/
def fillResponsesOf : List Emission → List (ConnectionRef × OrderEntryFill)
  | [] => []
  | .toClient connection (.fill fill) :: rest => (connection, fill) :: fillResponsesOf rest
  | _ :: rest => fillResponsesOf rest

end Wire
end SpotExchange
