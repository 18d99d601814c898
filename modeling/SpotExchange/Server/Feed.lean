/-
The market data of the whole exchange, in the order in which it reaches the dispatcher: each
event adds to it what the one call tells that it makes of a book, if it makes one.
-/

import SpotExchange.Engine.Telling
import SpotExchange.Server.Isolation

namespace SpotExchange
namespace Server

open Engine Machine Wire

/-! ### Requests at the manager -/

namespace OrderBookManager

/-- A request leaves the books alone and tells nothing, or is one call of the book of its
ticker. -/
inductive Passed (books : OrderBooks) (request : Request) (handled : Handled) : Prop
  | apart (sameBooks : handled.books = books) (untraded : handled.executions = [])
      (silent : marketDataOf handled.emitted = [])
  | called (book : OrderBook) (result : CallResult)
      (found : books.lookup request.common.ticker = some book)
      (wanted : refusedAtOnce request = false) (calls : book.call request = .ok result)
      (written : handled.books = books.insert request.common.ticker result.book)
      (executions : handled.executions =
        result.executions.map (fun execution => (request.common.ticker, execution)))
      (emitted : handled.emitted = result.emitted)

theorem toOrderBook_passed {books : OrderBooks} {request : Request} {handled : Handled}
    {connection : ConnectionRef} {rejection : OrderEntryRejection}
    (wanted : refusedAtOnce request = false)
    (handles : toOrderBook books request.common.ticker
      (.toClient connection (.rejection rejection)) request = .ok handled) :
    Passed books request handled := by
  unfold toOrderBook at handles
  split at handles
  · cases handles
    exact Passed.apart rfl rfl rfl
  · rename_i book found
    obtain ⟨result, calls, done⟩ := bind_eq_ok handles
    cases done
    exact Passed.called book result found wanted calls rfl rfl rfl

theorem handle_passes {books : OrderBooks} {request : Request} {handled : Handled}
    (handles : handle books request = .ok handled) : Passed books request handled := by
  cases request with
  | add clock order => exact toOrderBook_passed rfl handles
  | cancel clock cancel => exact toOrderBook_passed rfl handles
  | modify clock changes =>
      simp only [handle, modifyOrder] at handles
      split at handles
      · cases handles
        exact Passed.apart rfl rfl rfl
      · rename_i nonzero
        exact toOrderBook_passed (beq_eq_false_iff_ne.mpr nonzero) handles

end OrderBookManager

/-! ### Events at the connections -/

namespace Exchange

variable {exchange : Exchange} {connection : ConnectionRef} {userid : UserId}
  {reaction : Reaction} {event : Event}

/-- The market data of a reaction are those of the request that is made of the manager. -/
structure Relays (books : OrderBooks) (issued : Option Request) (reaction : Reaction) : Prop where
  silent : issued = none → marketDataOf reaction.emitted = []
  relayed : ∀ request handled, issued = some request →
    OrderBookManager.handle books request = .ok handled →
      marketDataOf reaction.emitted = marketDataOf handled.emitted

theorem handleOrderType_relays {common : Info.OrderCommon} {acknowledgement : OrderEntryResponse}
    {processOrderEntry : OrderBooks → Except Fault Handled} {request : Request}
    (hands : ∀ books, processOrderEntry books = OrderBookManager.handle books request)
    (returned : exchange.handleOrderType connection userid common acknowledgement
      processOrderEntry = .ok reaction) :
    Relays exchange.orderbooks (if common.userId ≠ userid then none else some request)
      reaction := by
  unfold handleOrderType at returned
  split at returned
  · rename_i wrongUser
    cases returned
    rw [if_pos wrongUser]
    refine ⟨fun _none => rfl, ?_⟩
    intro other handled issued
    cases issued
  · rename_i rightUser
    rw [hands] at returned
    obtain ⟨handled, handles, done⟩ := bind_eq_ok returned
    cases done
    rw [if_neg rightUser]
    constructor
    · intro issued
      cases issued
    · intro other handledAgain issued handlesAgain
      cases issued
      rw [handles] at handlesAgain
      cases handlesAgain
      rfl

theorem processEntry_relays {clock : Nat → Int64} {message : OrderEntryRequest}
    (returned : exchange.processEntry clock connection userid message = .ok reaction) :
    Relays exchange.orderbooks (exchange.requestOf clock connection userid message) reaction := by
  cases message with
  | newOrder request =>
      have relays := @handleOrderType_relays
        { exchange with orderidGenerator := exchange.orderidGenerator + 1 } connection userid
        reaction (withOrderId request (exchange.orderidGenerator + 1)).orderCommon _ _
        (.add (fun reading => clock (reading + 1))
          (newOrderOf connection (withOrderId request (exchange.orderidGenerator + 1))))
        (fun _books => rfl) returned
      exact relays
  | modifyOrder request => exact handleOrderType_relays (fun _books => rfl) returned
  | cancelOrder request => exact handleOrderType_relays (fun _books => rfl) returned
  | notSet =>
      cases returned
      refine ⟨fun _none => rfl, ?_⟩
      intro other handled issued
      cases issued

theorem relays_nothing (books : OrderBooks) (silent : marketDataOf reaction.emitted = []) :
    Relays books none reaction := by
  refine ⟨fun _none => silent, ?_⟩
  intro request handled issued
  cases issued

theorem react_relays (returned : exchange.react event = .ok reaction) :
    Relays exchange.orderbooks (exchange.issues event) reaction := by
  cases event with
  | verifyID clock connection message =>
      simp only [react, verifyID] at returned
      simp only [issues]
      cases common : orderCommon message with
      | none =>
          rw [common] at returned
          cases returned
      | some shared =>
          rw [common] at returned
          simp only at returned ⊢
          split at returned
          · rename_i registered
            rw [if_pos registered]
            cases returned
            exact relays_nothing _ rfl
          · rename_i unregistered
            rw [if_neg unregistered]
            have relays := processEntry_relays returned
            exact relays
  | readOrderEntry clock connection message =>
      simp only [react, readOrderEntry] at returned
      simp only [issues]
      cases user : exchange.userIds.lookup connection with
      | none =>
          rw [user] at returned
          cases returned
      | some userid =>
          rw [user] at returned
          exact processEntry_relays returned
  | terminateConnection connection unset =>
      cases returned
      exact relays_nothing _ rfl

end Exchange

/-! ### Events of a session -/

namespace Session

/-- The market data that the dispatcher has been handed. -/
def feed (session : Session) : List MarketDataResponse := marketDataOf session.emitted

/-- What an event does to the books, to the feed and to the last order id given out. -/
inductive Feeds (session : Session) (event : Event) (next : Session) : Prop
  | apart (sameBooks : next.exchange.orderbooks = session.exchange.orderbooks)
      (untraded : next.executions = session.executions) (sameFeed : next.feed = session.feed)
      (generated : next.exchange.orderidGenerator = session.exchange.orderidGenerator ∨
        Exchange.isNewOrder event = true ∧
          next.exchange.orderidGenerator = session.exchange.orderidGenerator + 1)
  | called (request : Request) (book : OrderBook) (result : CallResult)
      (issued : session.exchange.issues event = some request)
      (found : session.exchange.orderbooks.lookup request.common.ticker = some book)
      (wanted : OrderBookManager.refusedAtOnce request = false)
      (calls : book.call request = .ok result)
      (written : next.exchange.orderbooks =
        session.exchange.orderbooks.insert request.common.ticker result.book)
      (executions : next.executions = session.executions ++
        result.executions.map (fun execution => (request.common.ticker, execution)))
      (fed : next.feed = session.feed ++ marketDataOf result.emitted)
      (generated :
        (∃ clock order, request = .add clock order ∧
            order.orderId = session.exchange.orderidGenerator + 1 ∧
            Exchange.isNewOrder event = true ∧
            next.exchange.orderidGenerator = session.exchange.orderidGenerator + 1) ∨
          (∀ clock order, request ≠ .add clock order) ∧
            next.exchange.orderidGenerator = session.exchange.orderidGenerator)

theorem step_feeds {session next : Session} {event : Event}
    (returned : session.step event = .ok next) : Feeds session event next := by
  obtain ⟨reaction, reacts, done⟩ := bind_eq_ok returned
  have answered := Exchange.react_answered reacts
  have relays := Exchange.react_relays reacts
  cases done
  have appended : marketDataOf (session.emitted ++ reaction.emitted) =
      session.feed ++ marketDataOf reaction.emitted := OrderBook.marketDataOf_append _ _
  cases issued : session.exchange.issues event with
  | none =>
      rw [issued] at answered relays
      cases answered with
      | atConnection sameBooks noTrade _ generated =>
          refine Feeds.apart sameBooks ?_ ?_ generated
          · rw [noTrade, List.append_nil]
          · rw [feed, appended, relays.silent rfl, List.append_nil]
  | some request =>
      rw [issued] at answered relays
      cases answered with
      | byManager _ handled _ handles sameBooks traded _ _ generated =>
          have told := relays.relayed request handled rfl handles
          cases OrderBookManager.handle_passes handles with
          | apart same untraded silent =>
              refine Feeds.apart (sameBooks.trans same) ?_ ?_ ?_
              · rw [traded, untraded, List.append_nil]
              · rw [feed, appended, told, silent, List.append_nil]
              · rcases generated with ⟨_, _, _, _, isNew, moved⟩ | ⟨_, kept⟩
                · exact Or.inr ⟨isNew, moved⟩
                · exact Or.inl kept
          | called book result found wanted calls written executions emitted =>
              refine Feeds.called request book result issued found wanted calls
                (sameBooks.trans written) ?_ ?_ generated
              · rw [traded, executions]
              · rw [feed, appended, told, emitted]

/-- What all calls keep, holds of each book after an event if it did before. -/
theorem step_eachBook {fits : OrderBook → Prop}
    (kept : ∀ {book : OrderBook} {request : Request} {result : CallResult}, fits book →
      book.call request = .ok result → fits result.book)
    {session next : Session} {event : Event}
    (each : ∀ ticker book, session.exchange.orderbooks.lookup ticker = some book → fits book)
    (returned : session.step event = .ok next) :
    ∀ ticker book, next.exchange.orderbooks.lookup ticker = some book → fits book := by
  intro ticker other found
  cases step_feeds returned with
  | apart sameBooks _untraded _sameFeed _generated =>
      rw [sameBooks] at found
      exact each ticker other found
  | called request book result _issued there _wanted calls written _executions _fed _generated =>
      rw [written] at found
      by_cases same : ticker = request.common.ticker
      · rw [same, AList.lookup_insert] at found
        cases found
        exact kept (each _ book there) calls
      · rw [AList.lookup_insert_ne same] at found
        exact each ticker other found

end Session

end Server
end SpotExchange
