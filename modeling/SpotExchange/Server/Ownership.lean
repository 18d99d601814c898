/-
Who may change an order. Along every run of the server whose orders stop cleanly, an
order is changed only by fills and by requests that are read on a connection of its
owner, and the owner of an order is the user of the connection that sent it.
-/

import SpotExchange.Engine.Bystanders
import SpotExchange.Server.OrderEntryStreamConnection

namespace SpotExchange
namespace Server

open Collections Engine Machine Wire OrderBook

/-! ### Requests at the books -/

def BooksWellFormed (books : OrderBooks) : Prop :=
  ∀ ticker book, books.lookup ticker = some book → book.WellFormed

/-- A request for a book lets its orders in cleanly. -/
def cleanIn (books : OrderBooks) : Option (Ticker × Request) → Bool
  | none => true
  | some (ticker, request) =>
      match books.lookup ticker with
      | none => true
      | some book => book.cleanRequest request

/-- A request leaves the books alone, or is one call of one of them. -/
inductive Delivered (books : OrderBooks) (request : Option (Ticker × Request))
    (handled : Handled) : Prop
  | idle (sameBooks : handled.books = books) (noTrade : handled.executions = [])
  | called (ticker : Ticker) (call : Request) (book : OrderBook) (result : CallResult)
      (routed : request = some (ticker, call)) (found : books.lookup ticker = some book)
      (effect : Effect book call result) (written : handled.books = books.insert ticker result.book)
      (executed : handled.executions =
        result.executions.map (fun execution => (ticker, execution)))

section Manager

variable {books : OrderBooks} {clock : Nat → Int64}

end Manager

namespace Exchange

/-! ### Messages at the connections -/

section Reading

variable (clock : Nat → Int64) (exchange : Exchange) (connection : ConnectionRef)

/-- The request that a message makes of a book, if it is one of its user and not trivial. -/
def routed (userid : UserId) : OrderEntryRequest → Option (Ticker × Request)
  | .newOrder request =>
      if request.orderCommon.userId ≠ userid then none
      else
        some (request.orderCommon.ticker,
          .add (fun reading => clock (reading + 1))
            (newOrderOf connection (withOrderId request (exchange.orderidGenerator + 1))))
  | .modifyOrder request =>
      if request.orderCommon.userId ≠ userid ∨ request.quantity = 0 then none
      else
        some (request.orderCommon.ticker,
          .modify (fun reading => clock (reading + 1)) (modifyOrderOf connection request))
  | .cancelOrder request =>
      if request.orderCommon.userId ≠ userid then none
      else
        some (request.orderCommon.ticker,
          .cancel (fun reading => clock (reading + 1)) (cancelOrderOf connection request))
  | .notSet => none

variable {clock exchange connection}

theorem routed_sender {userid : UserId} {message : OrderEntryRequest} {ticker : Ticker}
    {request : Request}
    (made : exchange.routed clock connection userid message = some (ticker, request)) :
    request.common.userId = userid ∧ request.connection = connection := by
  cases message with
  | newOrder order =>
      simp only [routed] at made
      split at made
      · cases made
      · rename_i same
        cases made
        exact ⟨not_not.mp same, rfl⟩
  | modifyOrder modify =>
      simp only [routed] at made
      split at made
      · cases made
      · rename_i same
        cases made
        exact ⟨not_not.mp (fun wrong => same (Or.inl wrong)), rfl⟩
  | cancelOrder cancel =>
      simp only [routed] at made
      split at made
      · cases made
      · rename_i same
        cases made
        exact ⟨not_not.mp same, rfl⟩
  | notSet => cases made

/-- What a message does to the books and the users of the exchange that reads it. -/
structure Processed (books : OrderBooks) (userIds : AList (fun _ : ConnectionRef => UserId))
    (request : Option (Ticker × Request)) (reaction : Reaction) : Prop where
  sameUsers : reaction.exchange.userIds = userIds
  delivered : ∃ handled, Delivered books request handled ∧
    reaction.exchange.orderbooks = handled.books ∧ reaction.executions = handled.executions

end Reading

/-! ### Events -/

section Events

variable {exchange : Exchange} {event : Event} {reaction : Reaction}

/-- The user of the connection on which an event is read. -/
def readAs (exchange : Exchange) : Event → Option UserId
  | .verifyID _ connection _ => exchange.userIds.lookup connection
  | .readOrderEntry _ connection _ => exchange.userIds.lookup connection
  | .terminateConnection _ _ => none

/-- A connection is verified once, with a message that names an order, and read from
after that. -/
def expected (exchange : Exchange) : Event → Bool
  | .verifyID _ connection message =>
      (exchange.userIds.lookup connection).isNone && (orderCommon message).isSome
  | .readOrderEntry _ connection _ => (exchange.userIds.lookup connection).isSome
  | .terminateConnection _ _ => true

/-- The request that an event makes of a book lets its orders in cleanly. -/
def cleanEvent (exchange : Exchange) : Event → Bool
  | .verifyID clock connection message =>
      match orderCommon message with
      | none => true
      | some common =>
          (exchange.clientStreams.lookup common.userId).isSome ||
            cleanIn exchange.orderbooks
              (exchange.routed clock connection common.userId message)
  | .readOrderEntry clock connection message =>
      match exchange.userIds.lookup connection with
      | none => true
      | some userid =>
          cleanIn exchange.orderbooks (exchange.routed clock connection userid message)
  | .terminateConnection _ _ => true

def KeepsUsers (exchange after : Exchange) : Prop :=
  ∀ connection userid, exchange.userIds.lookup connection = some userid →
    after.userIds.lookup connection = some userid

/-- An event leaves the books alone, or is one call of one of them under the user id and
with the connection on which it is read. -/
inductive Reacted (exchange : Exchange) (event : Event) (reaction : Reaction) : Prop
  | idle (keepsUsers : KeepsUsers exchange reaction.exchange)
      (sameBooks : reaction.exchange.orderbooks = exchange.orderbooks)
      (noTrade : reaction.executions = [])
  | called (ticker : Ticker) (request : Request) (book : OrderBook) (result : CallResult)
      (keepsUsers : KeepsUsers exchange reaction.exchange)
      (user : reaction.exchange.readAs event = some request.common.userId)
      (sender : reaction.exchange.userIds.lookup request.connection =
        some request.common.userId)
      (found : exchange.orderbooks.lookup ticker = some book)
      (effect : Effect book request result)
      (written : reaction.exchange.orderbooks =
        exchange.orderbooks.insert ticker result.book)
      (executed : reaction.executions =
        result.executions.map (fun execution => (ticker, execution)))

theorem Processed.reacted {userIds : AList (fun _ : ConnectionRef => UserId)}
    {clock : Nat → Int64} {connection : ConnectionRef} {userid : UserId}
    {message : OrderEntryRequest} {reader : Exchange}
    (processed : Processed exchange.orderbooks userIds
      (reader.routed clock connection userid message) reaction)
    (registers : userIds.lookup connection = some userid)
    (keeps : ∀ other user, exchange.userIds.lookup other = some user →
      userIds.lookup other = some user)
    (reads : reaction.exchange.readAs event = reaction.exchange.userIds.lookup connection) :
    Reacted exchange event reaction := by
  obtain ⟨sameUsers, handled, delivered, sameBooks, sameExecutions⟩ := processed
  have keepsUsers : KeepsUsers exchange reaction.exchange := by
    intro other user known
    rw [sameUsers]
    exact keeps other user known
  cases delivered with
  | idle books noTrade =>
      exact Reacted.idle keepsUsers (sameBooks.trans books) (sameExecutions.trans noTrade)
  | called ticker request book result made found effect written executed =>
      obtain ⟨user, sender⟩ := routed_sender made
      refine Reacted.called ticker request book result keepsUsers ?_ ?_ found effect
        (sameBooks.trans written) (sameExecutions.trans executed)
      · rw [reads, sameUsers, registers, user]
      · rw [sameUsers, sender, registers, user]

/-- The user id in every resting order is the one that its connection was registered
under. -/
def Registered (exchange : Exchange) : Prop :=
  ∀ ticker book orderId limit, exchange.orderbooks.lookup ticker = some book →
    book.limitOrders.lookup orderId = some limit →
    exchange.userIds.lookup limit.order.connection = some limit.order.userId

structure Sound (exchange : Exchange) : Prop where
  wellFormed : BooksWellFormed exchange.orderbooks
  registered : Registered exchange

/-- What rests after a call belongs to a registered user, when this holds of what rested
before and of the connection that the call comes from. -/
theorem registered_of_effect {book : OrderBook} {request : Request} {result : CallResult}
    {userIds : AList (fun _ : ConnectionRef => UserId)} (wellFormed : book.WellFormed)
    (effect : Effect book request result)
    (before : ∀ orderId limit, book.limitOrders.lookup orderId = some limit →
      userIds.lookup limit.order.connection = some limit.order.userId)
    (sender : userIds.lookup request.connection = some request.common.userId)
    {orderId : OrderId} {limit : Limit}
    (found : result.book.limitOrders.lookup orderId = some limit) :
    userIds.lookup limit.order.connection = some limit.order.userId := by
  obtain ⟨_side, _flag, member, _sameId⟩ :=
    (effect.wellFormed wellFormed).flag_of_lookup found
  rcases effect.origin wellFormed member with
    ⟨old, oldMember, left, same⟩ | ⟨order, left, arrives, same⟩
  · obtain ⟨next, prev, stored⟩ := wellFormed.lookup oldMember
    have owned := before old.orderId _ stored
    rw [limitAt_order] at owned
    rw [same]
    exact owned
  · obtain ⟨common, connection⟩ := arriving_common arrives
    have user : order.userId = request.common.userId :=
      congrArg Info.OrderCommon.userId common
    rw [← connection, ← user] at sender
    rw [same]
    exact sender

theorem Reacted.sound (sound : Sound exchange) (reacted : Reacted exchange event reaction) :
    Sound reaction.exchange := by
  cases reacted with
  | idle keepsUsers sameBooks _ =>
      refine ⟨by rw [sameBooks]; exact sound.wellFormed, ?_⟩
      intro ticker book orderId limit there found
      rw [sameBooks] at there
      exact keepsUsers _ _ (sound.registered ticker book orderId limit there found)
  | called ticker request book result keepsUsers _ sender found effect written _ =>
      have wellFormed := sound.wellFormed ticker book found
      refine ⟨?_, ?_⟩
      · intro other otherBook there
        rw [written] at there
        by_cases same : other = ticker
        · subst same
          rw [AList.lookup_insert] at there
          rw [← Option.some.inj there]
          exact effect.wellFormed wellFormed
        · rw [AList.lookup_insert_ne same] at there
          exact sound.wellFormed other otherBook there
      · intro other otherBook orderId limit there stored
        rw [written] at there
        by_cases same : other = ticker
        · subst same
          rw [AList.lookup_insert] at there
          rw [← Option.some.inj there] at stored
          refine registered_of_effect wellFormed effect ?_ sender stored
          intro oldId old oldStored
          exact keepsUsers _ _ (sound.registered other book oldId old found oldStored)
        · rw [AList.lookup_insert_ne same] at there
          exact keepsUsers _ _ (sound.registered other otherBook orderId limit there stored)

end Events

/-! ### Runs -/

theorem start_sound (tickers : List Ticker) : Sound (start tickers) where
  wellFormed := by
    intro ticker book found
    rw [OrderBookManager.created_allEmpty tickers ticker book found]
    exact empty_wellFormed 0
  registered := by
    intro ticker book orderId limit found stored
    rw [OrderBookManager.created_allEmpty tickers ticker book found] at stored
    cases stored

/-- Every connection is verified before it is read from, and every order that a request
lets in stops cleanly. -/
def CleanEvents (tickers : List Ticker) (events : List Event) : Prop :=
  Guarded step
    (fun exchange event => exchange.expected event = true ∧ exchange.cleanEvent event = true)
    (start tickers) events

instance CleanEvents.decidable (tickers : List Ticker) (events : List Event) :
    Decidable (CleanEvents tickers events) :=
  inferInstanceAs (Decidable (Guarded step
    (fun exchange event => exchange.expected event = true ∧ exchange.cleanEvent event = true)
    (start tickers) events))

end Exchange

end Server
end SpotExchange
