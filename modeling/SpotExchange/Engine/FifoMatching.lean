/-
The matching loops, as the source runs them.

`bookLvl` is a reference to the storage of the level that was best when matching
began. `entry` is the price of the map entry that storage belongs to, until the
entry is erased; the storage is then dead, and the loop goes on reading and
writing it. No map node is allocated before matching returns, so the dead storage
keeps what is written to it; `touchedErased` records that it was used. Reading
through the end iterator is recorded in `readEnd`; what is read there is copied
into the dead storage and not looked at again.

`executions` is not in the source: it lists every decrement at full width.
-/

import SpotExchange.Engine.Book
import SpotExchange.Machine.Run

namespace SpotExchange
namespace Engine

open Collections

structure MatchResult where
  fills : List Info.Fill
  orderFilled : Bool
  deriving DecidableEq, Repr

namespace MatchResult

def empty : MatchResult :=
  { fills := []
    orderFilled := false }

/-- The quantity is narrowed to 16 bits on the way into the fill. -/
def addFill (result : MatchResult) (timestamp : Int64) (ticker : Ticker) (orderId : OrderId)
    (price : Price) (fillQty : UInt32) (fullFill : Bool) (userId : UserId)
    (connection : ConnectionRef) : MatchResult :=
  { result with
    fills := result.fills ++
      [{ timestamp := timestamp
         ticker := ticker
         orderId := orderId
         price := price
         userId := userId
         connection := connection
         fillQty := fillQty.toUInt16
         fullFill := fullFill.toUInt8 }] }

def setOrderFilled (result : MatchResult) : MatchResult :=
  { result with orderFilled := true }

end MatchResult

/-- One decrement of an incoming order and of a resting order. -/
structure Execution where
  restingId : OrderId
  incomingId : OrderId
  price : Price
  quantity : UInt32
  deriving DecidableEq, Repr

/-- The map iterator and the level reference of the matching loop. -/
structure LevelCursor (side : BookSide) where
  book : SideBook side
  bookItr : Option Price
  bookLvl : Level
  entry : Option Price
  touchedErased : Bool
  readEnd : Bool

namespace LevelCursor

variable {side : BookSide}

/-- Any use of the level reference. -/
def access (cursor : LevelCursor side) : LevelCursor side :=
  { cursor with touchedErased := cursor.touchedErased || cursor.entry.isNone }

/-- A write through the level reference: it reaches the map while the entry lives. -/
def write (cursor : LevelCursor side) (change : Level → Level) : LevelCursor side :=
  { cursor.access with
    bookLvl := change cursor.bookLvl
    book :=
      match cursor.entry with
      | some price => cursor.book.update price change
      | none => cursor.book }

/-- `book.erase(book_itr++)` -/
def eraseAtIterator (cursor : LevelCursor side) : LevelCursor side :=
  match cursor.bookItr with
  | none => { cursor with readEnd := true }
  | some price =>
      { cursor with
        book := cursor.book.erase price
        bookItr := cursor.book.next? price
        entry := if cursor.entry = some price then none else cursor.entry }

/-- `++book_itr` -/
def advance (cursor : LevelCursor side) : LevelCursor side :=
  match cursor.bookItr with
  | none => { cursor with readEnd := true }
  | some price => { cursor with bookItr := cursor.book.next? price }

/-- `book_lvl = book_itr->second` -/
def assignFromIterator (cursor : LevelCursor side) : LevelCursor side :=
  match cursor.bookItr.bind cursor.book.find? with
  | none => { cursor.access with readEnd := true }
  | some level => cursor.write (fun _ => level)

end LevelCursor

/-- The variables of the two loops. -/
structure Matching (side : BookSide) where
  orderToMatch : Order
  cursor : LevelCursor side
  bookOrder : Option OrderId
  limitbook : LimitBook
  matchResult : MatchResult
  executions : List Execution

namespace FifoMatcher

def noMatchingLevel : BookSide → Price → Price → Bool
  | .bids, orderPrice, bidPrice => decide (orderPrice > bidPrice)
  | .asks, orderPrice, askPrice => decide (orderPrice < askPrice)

def ordersInLevel (order : Option OrderId) : Bool := order.isSome

def orderIsFullyMatched (orderToMatch : Order) : Bool :=
  orderToMatch.currentQuantity == 0

variable {side : BookSide}

/-- Both fills carry the connection of the incoming order and the user of the
resting order. -/
def addFills (result : MatchResult) (filltime : Int64) (order : Order) (bookLim : Order)
    (fillQty : UInt32) : MatchResult :=
  let orderFilled := order.currentQuantity == 0
  let bookLimFilled := bookLim.currentQuantity == 0
  (result.addFill filltime order.ticker bookLim.orderId bookLim.price fillQty bookLimFilled
      bookLim.userId order.connection).addFill
    filltime order.ticker order.orderId bookLim.price fillQty orderFilled
      bookLim.userId order.connection

def removeOrderFromBook (state : Matching side) : Except Fault (Matching side) := do
  let bookLim ← state.limitbook.read state.bookOrder
  let limitbook ←
    match bookLim.nextLimit with
    | none => .ok state.limitbook
    | some next =>
        state.limitbook.modify (some next) (fun limit => { limit with prevLimit := none })
  return { state with
    cursor := state.cursor.write (Level.withHead bookLim.nextLimit)
    bookOrder := bookLim.nextLimit
    limitbook := limitbook.erase bookLim.order.orderId }

variable (clock : Nat → Int64)

/-- The incoming order trades with the order at `bookOrder`: the smaller of the
two quantities leaves both. The clock is read once for each pair of fills. -/
def tradeWithBookOrder (state : Matching side) : Except Fault (Matching side) := do
  let bookOrder ← state.limitbook.read state.bookOrder
  let fillQty := min bookOrder.order.currentQuantity state.orderToMatch.currentQuantity
  let orderToMatch ← state.orderToMatch.decreaseQty fillQty
  let resting ← bookOrder.order.decreaseQty fillQty
  let limitbook ← state.limitbook.modify state.bookOrder
    (fun limit => { limit with order := resting })
  return { state with
    orderToMatch := orderToMatch
    limitbook := limitbook
    matchResult := addFills state.matchResult (clock state.matchResult.fills.length)
      orderToMatch resting fillQty
    executions := state.executions ++
      [{ restingId := resting.orderId
         incomingId := orderToMatch.orderId
         price := resting.price
         quantity := fillQty }] }

/-- What the in-level loop does once the incoming order has nothing left. -/
def finishInLevel (state : Matching side) : Except Fault (Matching side) := do
  let bookOrder ← state.limitbook.read state.bookOrder
  let state ←
    if bookOrder.order.currentQuantity == 0 then removeOrderFromBook state else .ok state
  let count ← state.cursor.bookLvl.getLevelOrderCount state.limitbook
  let cursor := state.cursor.access
  return { state with
    cursor := if count == 0 then cursor.eraseAtIterator else cursor
    matchResult := state.matchResult.setOrderFilled }

def orderFullyMatchedInLevel : Nat → Matching side → Except Fault (Bool × Matching side)
  | fuel, state =>
      if ordersInLevel state.bookOrder then
        match fuel with
        | 0 => .error .outOfFuel
        | fuel + 1 => do
            let state ← tradeWithBookOrder clock state
            if orderIsFullyMatched state.orderToMatch then
              let state ← finishInLevel state
              return (true, state)
            else
              let state ← removeOrderFromBook state
              orderFullyMatchedInLevel fuel state
      else .ok (false, state)

/-- The end of a pass of the outer loop whose level did not fill the order. -/
def leaveLevel (state : Matching side) : Except Fault (Matching side) := do
  let count ← state.cursor.bookLvl.getLevelOrderCount state.limitbook
  let cursor := state.cursor.access
  let cursor := if count == 0 then cursor.eraseAtIterator else cursor.advance
  return { state with cursor := cursor.assignFromIterator }

def matchLevels : Nat → Matching side → Except Fault (Matching side)
  | fuel, state =>
      match state.cursor.bookItr with
      | none => .ok state
      | some levelPrice =>
          match fuel with
          | 0 => .error .outOfFuel
          | fuel + 1 =>
              if noMatchingLevel side state.orderToMatch.price levelPrice then .ok state
              else do
                let (filled, state) ← orderFullyMatchedInLevel clock state.limitbook.size
                  { state with
                    cursor := state.cursor.access
                    bookOrder := state.cursor.bookLvl.head }
                if filled then return state
                else
                  let state ← leaveLevel state
                  matchLevels fuel state

/-- What matching leaves behind for its caller. -/
structure Outcome (side : BookSide) where
  order : Order
  book : SideBook side
  limitbook : LimitBook
  matchResult : MatchResult
  executions : List Execution
  touchedErased : Bool
  readEnd : Bool

def outcome (state : Matching side) : Outcome side :=
  { order := state.orderToMatch
    book := state.cursor.book
    limitbook := state.limitbook
    matchResult := state.matchResult
    executions := state.executions
    touchedErased := state.cursor.touchedErased
    readEnd := state.cursor.readEnd }

def initial (order : Order) (book : SideBook side) (limitbook : LimitBook) (price : Price)
    (level : Level) : Matching side :=
  { orderToMatch := order
    cursor :=
      { book := book
        bookItr := some price
        bookLvl := level
        entry := some price
        touchedErased := false
        readEnd := false }
    bookOrder := level.head
    limitbook := limitbook
    matchResult := MatchResult.empty
    executions := [] }

/-- On an empty map the level reference is formed from the end iterator and the
loop is not entered. -/
def fifoMatch (order : Order) (book : SideBook side) (limitbook : LimitBook) :
    Except Fault (Outcome side) :=
  match book.entries with
  | [] =>
      .ok { order := order
            book := book
            limitbook := limitbook
            matchResult := MatchResult.empty
            executions := []
            touchedErased := false
            readEnd := true }
  | (price, level) :: _ =>
      (matchLevels clock book.size (initial order book limitbook price level)).map outcome

end FifoMatcher

end Engine
end SpotExchange
