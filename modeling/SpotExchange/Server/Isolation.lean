/-
Books are isolated and order ids are not shared between them, along every run of the
server that issues fewer order ids than there are. Nothing is assumed of the levels and
the links of the books.
-/

import SpotExchange.Server.Exceptions
import SpotExchange.Server.OrderEntryStreamConnection
import SpotExchange.Server.Rejections

namespace SpotExchange

open Machine Wire

/-! ### Where the orders of a book come from -/

namespace Engine
namespace OrderBook

variable {book : OrderBook}

/-- Where an order of the id map comes from after a call: it was there, or it is the one
that was added, and its ticker is the one it had, or that of the request. -/
structure CameFrom (book : OrderBook) (request : Request) (orderId : OrderId) (order : Order) :
    Prop where
  tickerFrom : order.ticker = request.common.ticker ∨
    ∃ old, book.limitOrders.lookup orderId = some old ∧ order.ticker = old.order.ticker
  idFrom : (∃ old, book.limitOrders.lookup orderId = some old) ∨
    ∃ clock added, request = .add clock added ∧ orderId = added.orderId

theorem CameFrom.of_old {request : Request} {orderId : OrderId} {old : Limit} {order : Order}
    (found : book.limitOrders.lookup orderId = some old) {quantity : UInt32}
    (same : order = old.order.withQuantity quantity) : CameFrom book request orderId order where
  tickerFrom := by
    refine Or.inr ⟨old, found, ?_⟩
    rw [same]
    rfl
  idFrom := Or.inl ⟨old, found⟩

/-- The ticker and the id of an entry after an add. -/
theorem AddedEntry.cases {order : Order} {limit : Limit} (entry : AddedEntry book order limit) :
    (∃ old, book.limitOrders.lookup limit.order.orderId = some old ∧
        limit.order = old.order.withQuantity limit.order.currentQuantity) ∨
      limit.order.ticker = order.ticker ∧ limit.order.orderId = order.orderId := by
  cases entry with
  | old stored found worn => exact Or.inl ⟨stored, found, worn.same⟩
  | whole same _ =>
      rw [same]
      exact Or.inr ⟨rfl, rfl⟩
  | part same _ =>
      rw [same]
      exact Or.inr ⟨rfl, rfl⟩

theorem call_cameFrom {request : Request} {result : CallResult} (own : book.limitOrders.OwnIds)
    (returned : book.call request = .ok result) {orderId : OrderId} {limit : Limit}
    (found : result.book.limitOrders.lookup orderId = some limit) :
    CameFrom book request orderId limit.order := by
  cases request with
  | add clock order =>
      obtain ⟨added, adds, same⟩ := map_eq_ok returned
      rw [← same] at found
      obtain ⟨sameId, entry⟩ := addOrder_entries own adds found
      rcases entry.cases with ⟨old, stored, worn⟩ | ⟨sameTicker, addedId⟩
      · rw [sameId] at stored
        exact CameFrom.of_old stored worn
      · exact ⟨Or.inl sameTicker, Or.inr ⟨clock, order, rfl, sameId.symm.trans addedId⟩⟩
  | cancel clock cancel =>
      obtain ⟨old, stored, same, _left⟩ := cancelOrder_descends returned orderId limit found
      exact CameFrom.of_old stored same
  | modify clock changes =>
      have unchanged : ∀ {stored : Limit}, book.limitOrders.lookup orderId = some stored →
          CameFrom book (.modify clock changes) orderId stored.order := by
        intro stored there
        exact CameFrom.of_old there (Order.withQuantity_self stored.order).symm
      simp only [call, modifyOrder] at returned
      split at returned
      · cases returned
        exact unchanged found
      · rename_i old rests
        split at returned
        · cases returned
          exact unchanged found
        · split at returned
          · obtain ⟨changed, changing, done⟩ := bind_eq_ok returned
            cases done
            have written : (book.limitOrders.insert changes.orderId
                { old with order := changed }).lookup orderId = some limit := found
            rw [LimitBook.lookup_insert_if] at written
            split at written
            · rename_i here
              cases written
              obtain ⟨quantity, exactly⟩ := modifyInPlace_eq changes old.order
              rw [exactly] at changing
              cases changing
              exact CameFrom.of_old (here ▸ rests) rfl
            · exact unchanged written
          · obtain ⟨cancelled, cancels, rest⟩ := bind_eq_ok returned
            obtain ⟨added, adds, done⟩ := bind_eq_ok rest
            cases done
            have descends := cancelOrder_descends cancels
            obtain ⟨sameId, entry⟩ := addOrder_entries (descends.ownIds own) adds found
            rcases entry.cases with ⟨middle, stored, worn⟩ | ⟨sameTicker, addedId⟩
            · rw [sameId] at stored
              obtain ⟨first, storedFirst, same, _left⟩ := descends orderId middle stored
              rw [same, Order.withQuantity_withQuantity] at worn
              exact CameFrom.of_old storedFirst worn
            · refine ⟨Or.inl sameTicker, Or.inl ⟨old, ?_⟩⟩
              have sameOrder : orderId = changes.orderId := sameId.symm.trans addedId
              rw [sameOrder]
              exact rests

end OrderBook
end Engine

/-! ### One book of the manager -/

namespace Server

open Engine

namespace OrderBookManager

variable {books others : OrderBooks} {request : Request} {handled : Handled}

/-- The book of a request decides what the request does. -/
theorem toOrderBook_local {ticker : Ticker} {notFound : Emission}
    (same : others.lookup ticker = books.lookup ticker)
    (returned : toOrderBook books ticker notFound request = .ok handled) :
    ∃ after, toOrderBook others ticker notFound request = .ok after ∧
      after.books.lookup ticker = handled.books.lookup ticker ∧
      after.executions = handled.executions := by
  unfold toOrderBook at returned ⊢
  rw [same]
  cases found : books.lookup ticker with
  | none =>
      rw [found] at returned
      cases returned
      exact ⟨_, rfl, same, rfl⟩
  | some book =>
      rw [found] at returned
      obtain ⟨result, called, done⟩ := bind_eq_ok returned
      cases done
      simp only [called, ok_bind]
      refine ⟨_, rfl, ?_, rfl⟩
      exact (AList.lookup_insert others).trans (AList.lookup_insert books).symm

theorem handle_local (same : others.lookup request.common.ticker = books.lookup request.common.ticker)
    (returned : handle books request = .ok handled) :
    ∃ after, handle others request = .ok after ∧
      after.books.lookup request.common.ticker = handled.books.lookup request.common.ticker ∧
      after.executions = handled.executions := by
  cases request with
  | add clock order => exact toOrderBook_local same returned
  | cancel clock cancel => exact toOrderBook_local same returned
  | modify clock changes =>
      simp only [handle, modifyOrder] at returned ⊢
      split at returned
      · rename_i zero
        rw [if_pos zero]
        cases returned
        exact ⟨_, rfl, same, rfl⟩
      · rename_i wanted
        rw [if_neg wanted]
        exact toOrderBook_local same returned

/-- A request leaves the books of other tickers alone, and its executions are under its
ticker. -/
theorem toOrderBook_elsewhere {ticker : Ticker} {notFound : Emission}
    (returned : toOrderBook books ticker notFound request = .ok handled) :
    (∀ other, other ≠ ticker → handled.books.lookup other = books.lookup other) ∧
      ∀ execution ∈ handled.executions, execution.1 = ticker := by
  unfold toOrderBook at returned
  split at returned
  · cases returned
    refine ⟨fun _ _ => rfl, ?_⟩
    intro execution member
    cases member
  · obtain ⟨result, called, done⟩ := bind_eq_ok returned
    cases done
    refine ⟨fun other different => AList.lookup_insert_ne different, ?_⟩
    intro execution member
    obtain ⟨performed, _present, same⟩ := List.mem_map.mp member
    rw [← same]

theorem handle_elsewhere (returned : handle books request = .ok handled) :
    (∀ other, other ≠ request.common.ticker →
        handled.books.lookup other = books.lookup other) ∧
      ∀ execution ∈ handled.executions, execution.1 = request.common.ticker := by
  cases refused : refusedAtOnce request with
  | true =>
      obtain ⟨idle, idles, sameBooks, noTrade⟩ := handle_refused books refused
      rw [idles] at returned
      cases returned
      rw [sameBooks, noTrade]
      refine ⟨fun _ _ => rfl, ?_⟩
      intro execution member
      cases member
  | false =>
      obtain ⟨notFound, passes⟩ := handle_passed books refused
      rw [passes] at returned
      exact toOrderBook_elsewhere returned

/-- The books of the manager, and the executions so far. -/
structure Handling where
  books : OrderBooks
  executions : List (Ticker × Execution)

namespace Handling

def start (tickers : List Ticker) : Handling :=
  { books := created tickers
    executions := [] }

def step (handling : Handling) (request : Request) : Except Fault Handling := do
  let handled ← handle handling.books request
  return { books := handled.books
           executions := handling.executions ++ handled.executions }

def named (ticker : Ticker) (request : Request) : Bool :=
  decide (request.common.ticker = ticker)

/-- A run that has seen the requests of one ticker only has the same book there, and the
executions of that ticker. -/
structure AgreesOn (ticker : Ticker) (whole alone : Handling) : Prop where
  book : alone.books.lookup ticker = whole.books.lookup ticker
  executions : alone.executions =
    whole.executions.filter (fun execution => decide (execution.1 = ticker))

theorem step_follows {ticker : Ticker} (whole alone : Handling) (request : Request)
    (next : Handling) (agrees : AgreesOn ticker whole alone)
    (concerned : named ticker request = true) (returned : step whole request = .ok next) :
    ∃ after, step alone request = .ok after ∧ AgreesOn ticker next after := by
  have same : request.common.ticker = ticker := of_decide_eq_true concerned
  obtain ⟨handled, handles, done⟩ := bind_eq_ok returned
  cases done
  have sameBook : alone.books.lookup request.common.ticker =
      whole.books.lookup request.common.ticker := by
    rw [same]
    exact agrees.book
  obtain ⟨after, handlesAlone, bookAfter, executionsAfter⟩ := handle_local sameBook handles
  unfold step
  rw [handlesAlone]
  refine ⟨_, rfl, ?_, ?_⟩
  · rw [same] at bookAfter
    exact bookAfter
  · have all : handled.executions.filter (fun execution => decide (execution.1 = ticker)) =
        handled.executions := by
      apply List.filter_eq_self.mpr
      intro execution member
      rw [(handle_elsewhere handles).2 execution member, same]
      exact decide_eq_true rfl
    change alone.executions ++ after.executions =
      (whole.executions ++ handled.executions).filter _
    rw [List.filter_append, all, agrees.executions, executionsAfter]

end Handling
end OrderBookManager

/-! ### Sessions -/

namespace Exchange

section Requests

variable (exchange : Exchange)

/-- The request that a message makes of the manager once its user has been checked. -/
def requestOf (clock : Nat → Int64) (connection : ConnectionRef) (userid : UserId) :
    OrderEntryRequest → Option Request
  | .newOrder request =>
      if request.orderCommon.userId ≠ userid then none
      else
        some (.add (fun reading => clock (reading + 1))
          (newOrderOf connection (withOrderId request (exchange.orderidGenerator + 1))))
  | .modifyOrder request =>
      if request.orderCommon.userId ≠ userid then none
      else some (.modify (fun reading => clock (reading + 1)) (modifyOrderOf connection request))
  | .cancelOrder request =>
      if request.orderCommon.userId ≠ userid then none
      else some (.cancel (fun reading => clock (reading + 1)) (cancelOrderOf connection request))
  | .notSet => none

/-- The request that an event makes of the manager, with the order id issued to it. -/
def issues : Event → Option Request
  | .verifyID clock connection message =>
      match orderCommon message with
      | none => none
      | some common =>
          if (exchange.clientStreams.lookup common.userId).isSome then none
          else exchange.requestOf clock connection common.userId message
  | .readOrderEntry clock connection message =>
      match exchange.userIds.lookup connection with
      | none => none
      | some userid => exchange.requestOf clock connection userid message
  | .terminateConnection _ _ => none

end Requests

def isNewOrder : Event → Bool
  | .verifyID _ _ (.newOrder _) => true
  | .readOrderEntry _ _ (.newOrder _) => true
  | _ => false

def newOrders (events : List Event) : Nat := events.countP isNewOrder

end Exchange

/-- The exchange, with the requests made of the manager, the executions and the emissions
so far. -/
structure Session where
  exchange : Exchange
  requests : List Request
  executions : List (Ticker × Execution)
  emitted : List Emission

namespace Session

def start (tickers : List Ticker) : Session :=
  { exchange := Exchange.start tickers
    requests := []
    executions := []
    emitted := [] }

def step (session : Session) (event : Event) : Except Fault Session := do
  let reaction ← session.exchange.react event
  return { exchange := reaction.exchange
           requests := session.requests ++ (session.exchange.issues event).toList
           executions := session.executions ++ reaction.executions
           emitted := session.emitted ++ reaction.emitted }

end Session

/-! ### Answers to events -/

def isDuplicateId : Emission → Bool
  | .toClient _ (.rejection rejection) =>
      rejection.rejectionResponse == RejectionReason.orderIdAlreadyPresent
  | _ => false

/-- How a message is answered: at the connection, or by the manager. Only a new order
moves the generator on, and an add carries the id that it has moved on to. -/
inductive Answered (books : OrderBooks) (generator : OrderId) (newOrder : Bool)
    (reaction : Reaction) : Option Request → Prop
  | atConnection
      (sameBooks : reaction.exchange.orderbooks = books) (noTrade : reaction.executions = [])
      (quiet : ∀ emission ∈ reaction.emitted, isDuplicateId emission = false)
      (generated : reaction.exchange.orderidGenerator = generator ∨
        newOrder = true ∧ reaction.exchange.orderidGenerator = generator + 1) :
      Answered books generator newOrder reaction none
  | byManager (request : Request) (handled : Handled) (acknowledgement : Emission)
      (handles : OrderBookManager.handle books request = .ok handled)
      (written : reaction.exchange.orderbooks = handled.books)
      (executions : reaction.executions = handled.executions)
      (emitted : reaction.emitted = acknowledgement :: handled.emitted)
      (plain : isDuplicateId acknowledgement = false)
      (generated :
        (∃ clock order, request = .add clock order ∧ order.orderId = generator + 1 ∧
            newOrder = true ∧ reaction.exchange.orderidGenerator = generator + 1) ∨
          (∀ clock order, request ≠ .add clock order) ∧
            reaction.exchange.orderidGenerator = generator) :
      Answered books generator newOrder reaction (some request)

namespace Exchange

variable {exchange : Exchange} {connection : ConnectionRef} {userid : UserId}
  {reaction : Reaction}

theorem wrongUser_quiet (connection : ConnectionRef) (common : Info.OrderCommon) :
    ∀ emission ∈ [OrderBook.rejection connection common .wrongUserId],
      isDuplicateId emission = false := by
  intro emission member
  rw [List.mem_singleton.mp member]
  rfl

/-- A message under another user id is answered at the connection. -/
theorem handleOrderType_refuses {common : Info.OrderCommon} {acknowledgement : OrderEntryResponse}
    {processOrderEntry : OrderBooks → Except Fault Handled} (wrongUser : common.userId ≠ userid)
    {generator : OrderId} {newOrder : Bool}
    (generated : exchange.orderidGenerator = generator ∨
      newOrder = true ∧ exchange.orderidGenerator = generator + 1)
    (returned : exchange.handleOrderType connection userid common acknowledgement
      processOrderEntry = .ok reaction) :
    Answered exchange.orderbooks generator newOrder reaction none := by
  unfold handleOrderType at returned
  rw [if_pos wrongUser] at returned
  cases returned
  exact Answered.atConnection rfl rfl (wrongUser_quiet connection common) generated

/-- A message under the user id of the connection is acknowledged and handed on. -/
theorem handleOrderType_hands {common : Info.OrderCommon} {acknowledgement : OrderEntryResponse}
    {processOrderEntry : OrderBooks → Except Fault Handled} {request : Request}
    (rightUser : ¬common.userId ≠ userid)
    (hands : ∀ books, processOrderEntry books = OrderBookManager.handle books request)
    (plain : isDuplicateId (.toClient connection acknowledgement) = false)
    {generator : OrderId} {newOrder : Bool}
    (generated :
      (∃ clock order, request = .add clock order ∧ order.orderId = generator + 1 ∧
          newOrder = true ∧ exchange.orderidGenerator = generator + 1) ∨
        (∀ clock order, request ≠ .add clock order) ∧ exchange.orderidGenerator = generator)
    (returned : exchange.handleOrderType connection userid common acknowledgement
      processOrderEntry = .ok reaction) :
    Answered exchange.orderbooks generator newOrder reaction (some request) := by
  unfold handleOrderType at returned
  rw [if_neg rightUser, hands] at returned
  obtain ⟨handled, handles, done⟩ := bind_eq_ok returned
  cases done
  exact Answered.byManager request handled _ handles rfl rfl rfl plain generated

theorem processEntry_answered {clock : Nat → Int64} {message : OrderEntryRequest}
    {newOrder : Bool} (numbers : ∀ request, message = .newOrder request → newOrder = true)
    (returned : exchange.processEntry clock connection userid message = .ok reaction) :
    Answered exchange.orderbooks exchange.orderidGenerator newOrder reaction
      (exchange.requestOf clock connection userid message) := by
  cases message with
  | newOrder request =>
      have numbered := numbers request rfl
      have sameUser : (withOrderId request (exchange.orderidGenerator + 1)).orderCommon.userId =
          request.orderCommon.userId := rfl
      simp only [processEntry] at returned
      simp only [requestOf]
      by_cases wrongUser : request.orderCommon.userId ≠ userid
      · rw [if_pos wrongUser]
        rw [← sameUser] at wrongUser
        apply handleOrderType_refuses wrongUser _ returned
        exact Or.inr ⟨numbered, rfl⟩
      · rw [if_neg wrongUser]
        rw [← sameUser] at wrongUser
        apply handleOrderType_hands wrongUser _ _ (Or.inl ⟨_, _, rfl, rfl, numbered, rfl⟩) returned
        · intro books
          rfl
        · rfl
  | modifyOrder request =>
      simp only [processEntry] at returned
      simp only [requestOf]
      by_cases wrongUser : request.orderCommon.userId ≠ userid
      · rw [if_pos wrongUser]
        exact handleOrderType_refuses wrongUser (Or.inl rfl) returned
      · rw [if_neg wrongUser]
        apply handleOrderType_hands wrongUser _ _ (Or.inr ⟨_, rfl⟩) returned
        · intro books
          rfl
        · rfl
        · intro clock order same
          cases same
  | cancelOrder request =>
      simp only [processEntry] at returned
      simp only [requestOf]
      by_cases wrongUser : request.orderCommon.userId ≠ userid
      · rw [if_pos wrongUser]
        exact handleOrderType_refuses wrongUser (Or.inl rfl) returned
      · rw [if_neg wrongUser]
        apply handleOrderType_hands wrongUser _ _ (Or.inr ⟨_, rfl⟩) returned
        · intro books
          rfl
        · rfl
        · intro clock order same
          cases same
  | notSet =>
      cases returned
      refine Answered.atConnection rfl rfl ?_ (Or.inl rfl)
      intro emission member
      cases member

/-- Every event is answered at the connection or by the manager. -/
theorem react_answered {event : Event} (returned : exchange.react event = .ok reaction) :
    Answered exchange.orderbooks exchange.orderidGenerator (isNewOrder event) reaction
      (exchange.issues event) := by
  cases event with
  | verifyID clock connection message =>
      have numbers : ∀ request, message = .newOrder request →
          isNewOrder (.verifyID clock connection message) = true := by
        intro request same
        rw [same]
        rfl
      simp only [react, verifyID] at returned
      simp only [issues]
      cases common : orderCommon message with
      | none =>
          rw [common] at returned
          cases returned
      | some shared =>
          rw [common] at returned
          simp only at returned ⊢
          split at returned
          · rename_i registered
            rw [if_pos registered]
            cases returned
            exact Answered.atConnection rfl rfl (wrongUser_quiet connection shared) (Or.inl rfl)
          · rename_i unregistered
            rw [if_neg unregistered]
            have answered := processEntry_answered numbers returned
            exact answered
  | readOrderEntry clock connection message =>
      simp only [react, readOrderEntry] at returned
      simp only [issues]
      cases user : exchange.userIds.lookup connection with
      | none =>
          rw [user] at returned
          cases returned
      | some userid =>
          rw [user] at returned
          apply processEntry_answered _ returned
          intro request same
          rw [same]
          rfl
  | terminateConnection connection unset =>
      cases returned
      refine Answered.atConnection rfl rfl ?_ (Or.inl rfl)
      intro emission member
      cases member

end Exchange

/-! ### The orders at rest -/

/-- An order rests under an id in the book of a ticker. -/
def RestsIn (books : OrderBooks) (ticker : Ticker) (orderId : OrderId) (order : Order) : Prop :=
  ∃ book, books.lookup ticker = some book ∧
    ∃ limit, book.limitOrders.lookup orderId = some limit ∧ limit.order = order

/-- An order that rests after a request rested there before it, with its own ticker or
that of the request and the book, or it is the added one. -/
structure RestedBefore (books : OrderBooks) (request : Request) (ticker : Ticker)
    (orderId : OrderId) (order : Order) : Prop where
  tickerFrom : order.ticker = ticker ∨ ∃ old, RestsIn books ticker orderId old ∧
    order.ticker = old.ticker
  idFrom : (∃ old, RestsIn books ticker orderId old) ∨
    ∃ clock added, request = .add clock added ∧ orderId = added.orderId ∧ ticker = added.ticker

theorem RestedBefore.unchanged {books : OrderBooks} {request : Request} {ticker : Ticker}
    {orderId : OrderId} {order : Order} (rests : RestsIn books ticker orderId order) :
    RestedBefore books request ticker orderId order where
  tickerFrom := Or.inr ⟨order, rests, rfl⟩
  idFrom := Or.inl ⟨order, rests⟩

/-- An order that is added under a fresh id is in one book only, like those before it. -/
theorem RestedBefore.apart {books : OrderBooks} {request : Request} {first second : Ticker}
    {orderId : OrderId} {order other : Order}
    (restedFirst : RestedBefore books request first orderId order)
    (apart : ∀ first second orderId order other, RestsIn books first orderId order →
      RestsIn books second orderId other → first = second)
    (fresh : ∀ clock added, request = .add clock added →
      ∀ ticker old, ¬RestsIn books ticker added.orderId old)
    (restedSecond : RestedBefore books request second orderId other) : first = second := by
  rcases restedFirst.idFrom with ⟨old, restsOld⟩ | ⟨clock, new, named, sameId, home⟩
  · rcases restedSecond.idFrom with
      ⟨oldOther, restsOther⟩ | ⟨clock, new, named, sameId, _home⟩
    · exact apart first second orderId old oldOther restsOld restsOther
    · rw [sameId] at restsOld
      exact absurd restsOld (fresh clock new named first old)
  · rcases restedSecond.idFrom with
      ⟨oldOther, restsOther⟩ | ⟨otherClock, otherNew, otherNamed, _sameId, otherHome⟩
    · rw [sameId] at restsOther
      exact absurd restsOther (fresh clock new named second oldOther)
    · rw [named] at otherNamed
      cases otherNamed
      exact home.trans otherHome.symm

theorem handle_restedBefore {books : OrderBooks} {request : Request} {handled : Handled}
    (own : OrderBookManager.AllOwn books)
    (handles : OrderBookManager.handle books request = .ok handled) {ticker : Ticker}
    {orderId : OrderId} {order : Order} (rests : RestsIn handled.books ticker orderId order) :
    RestedBefore books request ticker orderId order := by
  have steps : OrderBookManager.step books request = .ok handled.books := by
    rw [OrderBookManager.step, handles]
    rfl
  cases OrderBookManager.step_routed steps with
  | unchanged same _ =>
      rw [same] at rests
      exact RestedBefore.unchanged rests
  | called book result found _passed called after =>
      obtain ⟨there, foundAfter, limit, stored, sameOrder⟩ := rests
      rw [after] at foundAfter
      by_cases same : ticker = request.common.ticker
      · rw [same, AList.lookup_insert] at foundAfter
        cases foundAfter
        have came := OrderBook.call_cameFrom (own _ book found) called stored
        rw [sameOrder] at came
        rw [same]
        constructor
        · rcases came.tickerFrom with named | ⟨old, storedOld, kept⟩
          · exact Or.inl named
          · exact Or.inr ⟨old.order, ⟨book, found, old, storedOld, rfl⟩, kept⟩
        · rcases came.idFrom with ⟨old, storedOld⟩ | ⟨clock, added, named, sameId⟩
          · exact Or.inl ⟨old.order, book, found, old, storedOld, rfl⟩
          · refine Or.inr ⟨clock, added, named, sameId, ?_⟩
            rw [named]
            rfl
      · rw [AList.lookup_insert_ne same] at foundAfter
        exact RestedBefore.unchanged ⟨there, foundAfter, limit, stored, sameOrder⟩

/-- A request whose id does not rest anywhere, if it adds one, is answered without a
rejection for a duplicate id. -/
theorem handle_notDuplicate {books : OrderBooks} {request : Request} {handled : Handled}
    (handles : OrderBookManager.handle books request = .ok handled)
    (fresh : ∀ clock added, request = .add clock added →
      ∀ ticker order, ¬RestsIn books ticker added.orderId order) :
    ∀ emission ∈ handled.emitted, isDuplicateId emission = false := by
  intro emission member
  by_cases refused : OrderBookManager.Refused books request
  · obtain ⟨rejected, rejects, effect⟩ := OrderBookManager.handle_rejected refused
    rw [handles] at rejects
    cases rejects
    obtain ⟨reason, sent, holds⟩ := effect.reasons emission member
    by_contra duplicate
    have present : reason = .orderIdAlreadyPresent := by
      rw [sent, Bool.not_eq_false] at duplicate
      exact beq_iff_eq.mp duplicate
    rw [present] at holds
    cases request with
    | add clock added =>
        obtain ⟨old, rests⟩ := holds
        obtain ⟨book, found, stored⟩ := Option.bind_eq_some_iff.mp rests
        obtain ⟨limit, lookedUp, same⟩ := Option.map_eq_some_iff.mp stored
        exact fresh clock added rfl added.ticker old ⟨book, found, limit, lookedUp, same⟩
    | modify clock changes => exact holds
    | cancel clock cancel => exact holds
  · have quiet := OrderBookManager.handle_noRejection refused handles emission member
    cases emission with
    | marketData message => rfl
    | toClient connection response =>
        cases response with
        | rejection rejection => cases quiet
        | newOrderAck timestamp order => rfl
        | modifyOrderAck timestamp changes => rfl
        | cancelOrderAck timestamp common => rfl
        | fill fill => rfl

/-! ### The invariant -/

/-- The state of a session in which that many order ids have been issued. -/
structure Separate (tickers : List Ticker) (numbered : Nat) (session : Session) : Prop where
  counter : session.exchange.orderidGenerator = UInt64.ofNat (numbered + 1)
  own : OrderBookManager.AllOwn session.exchange.orderbooks
  atHome : ∀ ticker orderId order, RestsIn session.exchange.orderbooks ticker orderId order →
    order.ticker = ticker
  issued : ∀ ticker orderId order, RestsIn session.exchange.orderbooks ticker orderId order →
    ∃ earlier, earlier < numbered ∧ orderId = UInt64.ofNat (earlier + 2)
  apart : ∀ first second orderId order other,
    RestsIn session.exchange.orderbooks first orderId order →
      RestsIn session.exchange.orderbooks second orderId other → first = second
  unrejected : ∀ emission ∈ session.emitted, isDuplicateId emission = false
  replayed : run OrderBookManager.Handling.step (OrderBookManager.Handling.start tickers)
      session.requests =
    .ok { books := session.exchange.orderbooks
          executions := session.executions }

theorem start_separate (tickers : List Ticker) : Separate tickers 0 (Session.start tickers) := by
  have none : ∀ ticker orderId order,
      ¬RestsIn (Session.start tickers).exchange.orderbooks ticker orderId order := by
    rintro ticker orderId order ⟨book, found, limit, stored, _same⟩
    rw [OrderBookManager.created_allEmpty tickers ticker book found] at stored
    cases stored
  exact
    { counter := rfl
      own := OrderBookManager.created_allOwn tickers
      atHome := fun ticker orderId order rests => absurd rests (none ticker orderId order)
      issued := fun ticker orderId order rests => absurd rests (none ticker orderId order)
      apart := fun first _ orderId order _ rests => absurd rests (none first orderId order)
      unrejected := by
        intro emission member
        cases member
      replayed := rfl }

namespace Separate

variable {tickers : List Ticker} {numbered : Nat} {session next : Session} {event : Event}

theorem next_id (separate : Separate tickers numbered session) :
    session.exchange.orderidGenerator + 1 = UInt64.ofNat (numbered + 2) := by
  rw [separate.counter]
  apply UInt64.toNat_inj.mp
  rw [UInt64.toNat_add, UInt64.toNat_ofNat', UInt64.toNat_ofNat', UInt64.toNat_one]
  omega

/-- The next id has not been issued. -/
theorem fresh (separate : Separate tickers numbered session)
    (bounded : numbered + 1 < 18446744073709551616) (ticker : Ticker) (order : Order) :
    ¬RestsIn session.exchange.orderbooks ticker (session.exchange.orderidGenerator + 1) order := by
  intro rests
  obtain ⟨earlier, before, same⟩ := separate.issued ticker _ order rests
  rw [separate.next_id] at same
  have equal := congrArg UInt64.toNat same
  rw [UInt64.toNat_ofNat', UInt64.toNat_ofNat'] at equal
  omega

/-- A request to the manager continues the replay. -/
theorem replay (separate : Separate tickers numbered session) {request : Request}
    {handled : Handled}
    (handles : OrderBookManager.handle session.exchange.orderbooks request = .ok handled) :
    run OrderBookManager.Handling.step (OrderBookManager.Handling.start tickers)
        (session.requests ++ [request]) =
      .ok { books := handled.books
            executions := session.executions ++ handled.executions } := by
  rw [run_append separate.replayed]
  simp only [run, OrderBookManager.Handling.step, handles]
  rfl

/-- An event that the manager does not see leaves the books alone. -/
theorem atConnection {reaction : Reaction} {newOrder : Bool}
    (separate : Separate tickers numbered session)
    (sameBooks : reaction.exchange.orderbooks = session.exchange.orderbooks)
    (noTrade : reaction.executions = [])
    (quiet : ∀ emission ∈ reaction.emitted, isDuplicateId emission = false)
    (generated : reaction.exchange.orderidGenerator = session.exchange.orderidGenerator ∨
      newOrder = true ∧
        reaction.exchange.orderidGenerator = session.exchange.orderidGenerator + 1) :
    ∃ after, after ≤ numbered + newOrder.toNat ∧
      Separate tickers after
        { exchange := reaction.exchange
          requests := session.requests
          executions := session.executions ++ reaction.executions
          emitted := session.emitted ++ reaction.emitted } := by
  have keeps : ∀ after, numbered ≤ after →
      reaction.exchange.orderidGenerator = UInt64.ofNat (after + 1) →
      Separate tickers after
        { exchange := reaction.exchange
          requests := session.requests
          executions := session.executions ++ reaction.executions
          emitted := session.emitted ++ reaction.emitted } := by
    intro after later counter
    constructor
    · exact counter
    · rw [sameBooks]
      exact separate.own
    · rw [sameBooks]
      exact separate.atHome
    · rw [sameBooks]
      intro ticker orderId order rests
      obtain ⟨earlier, before, same⟩ := separate.issued ticker orderId order rests
      exact ⟨earlier, by omega, same⟩
    · rw [sameBooks]
      exact separate.apart
    · intro emission member
      rcases List.mem_append.mp member with earlier | now
      · exact separate.unrejected emission earlier
      · exact quiet emission now
    · rw [sameBooks, noTrade, List.append_nil]
      exact separate.replayed
  rcases generated with same | ⟨isNew, moved⟩
  · exact ⟨numbered, Nat.le_add_right _ _, keeps numbered (Nat.le_refl _) (same.trans separate.counter)⟩
  · refine ⟨numbered + 1, ?_, keeps (numbered + 1) (Nat.le_succ _) (moved.trans separate.next_id)⟩
    rw [isNew]
    exact Nat.le_refl _

/-- What a request that is handled leaves, when its own id is the next one if it adds an
order. -/
theorem byManager {reaction : Reaction} {newOrder : Bool} {request : Request}
    {handled : Handled} {acknowledgement : Emission}
    (separate : Separate tickers numbered session)
    (bounded : numbered + newOrder.toNat < 18446744073709551616)
    (handles : OrderBookManager.handle session.exchange.orderbooks request = .ok handled)
    (written : reaction.exchange.orderbooks = handled.books)
    (executions : reaction.executions = handled.executions)
    (emitted : reaction.emitted = acknowledgement :: handled.emitted)
    (plain : isDuplicateId acknowledgement = false)
    (generated :
      (∃ clock order, request = .add clock order ∧
          order.orderId = session.exchange.orderidGenerator + 1 ∧ newOrder = true ∧
          reaction.exchange.orderidGenerator = session.exchange.orderidGenerator + 1) ∨
        (∀ clock order, request ≠ .add clock order) ∧
          reaction.exchange.orderidGenerator = session.exchange.orderidGenerator) :
    ∃ after, after ≤ numbered + newOrder.toNat ∧
      Separate tickers after
        { exchange := reaction.exchange
          requests := session.requests ++ [request]
          executions := session.executions ++ reaction.executions
          emitted := session.emitted ++ reaction.emitted } := by
  have added : ∀ clock order, request = .add clock order →
      order.orderId = session.exchange.orderidGenerator + 1 ∧ newOrder = true := by
    intro clock order same
    rcases generated with ⟨otherClock, other, named, sameId, isNew, _moved⟩ | ⟨noAdd, _kept⟩
    · rw [same] at named
      cases named
      exact ⟨sameId, isNew⟩
    · exact absurd same (noAdd clock order)
  have fresh : ∀ clock order, request = .add clock order →
      ∀ ticker other, ¬RestsIn session.exchange.orderbooks ticker order.orderId other := by
    intro clock order same ticker other
    obtain ⟨sameId, isNew⟩ := added clock order same
    rw [isNew] at bounded
    rw [sameId]
    exact separate.fresh bounded ticker other
  have before : ∀ {ticker orderId order},
      RestsIn reaction.exchange.orderbooks ticker orderId order →
        RestedBefore session.exchange.orderbooks request ticker orderId order := by
    intro ticker orderId order rests
    rw [written] at rests
    exact handle_restedBefore separate.own handles rests
  have keeps : ∀ after, numbered ≤ after →
      (∀ clock order, request = .add clock order → numbered < after) →
      reaction.exchange.orderidGenerator = UInt64.ofNat (after + 1) →
      Separate tickers after
        { exchange := reaction.exchange
          requests := session.requests ++ [request]
          executions := session.executions ++ reaction.executions
          emitted := session.emitted ++ reaction.emitted } := by
    intro after later counted counter
    constructor
    · exact counter
    · rw [written]
      apply OrderBookManager.step_allOwn _ request _ separate.own
      rw [OrderBookManager.step, handles]
      rfl
    · intro ticker orderId order rests
      rcases (before rests).tickerFrom with home | ⟨old, restsOld, kept⟩
      · exact home
      · rw [kept]
        exact separate.atHome ticker orderId old restsOld
    · intro ticker orderId order rests
      rcases (before rests).idFrom with ⟨old, restsOld⟩ | ⟨clock, new, named, sameId, _ticker⟩
      · obtain ⟨earlier, smaller, same⟩ := separate.issued ticker orderId old restsOld
        exact ⟨earlier, by omega, same⟩
      · refine ⟨numbered, counted clock new named, ?_⟩
        rw [sameId, (added clock new named).1]
        exact separate.next_id
    · intro first second orderId order other restsFirst restsSecond
      exact (before restsFirst).apart separate.apart fresh (before restsSecond)
    · intro emission member
      rcases List.mem_append.mp member with earlier | now
      · exact separate.unrejected emission earlier
      · have sent : emission ∈ acknowledgement :: handled.emitted := emitted ▸ now
        rcases List.mem_cons.mp sent with first | rest
        · rw [first]
          exact plain
        · exact handle_notDuplicate handles fresh emission rest
    · rw [written, executions]
      exact separate.replay handles
  rcases generated with ⟨clock, order, named, _sameId, isNew, moved⟩ | ⟨noAdd, kept⟩
  · refine ⟨numbered + 1, ?_, keeps (numbered + 1) (Nat.le_succ _) ?_ ?_⟩
    · rw [isNew]
      exact Nat.le_refl _
    · intro _clock _order _same
      exact Nat.lt_succ_self numbered
    · exact moved.trans separate.next_id
  · refine ⟨numbered, Nat.le_add_right _ _, keeps numbered (Nat.le_refl _) ?_ ?_⟩
    · intro clock order same
      exact absurd same (noAdd clock order)
    · exact kept.trans separate.counter

/-- Every event keeps the books apart while ids are left. -/
theorem step (separate : Separate tickers numbered session)
    (bounded : numbered + (Exchange.isNewOrder event).toNat < 18446744073709551616)
    (returned : session.step event = .ok next) :
    ∃ after, after ≤ numbered + (Exchange.isNewOrder event).toNat ∧
      Separate tickers after next := by
  obtain ⟨reaction, reacts, done⟩ := bind_eq_ok returned
  have answered := Exchange.react_answered reacts
  cases done
  cases issued : session.exchange.issues event with
  | none =>
      rw [issued] at answered
      cases answered with
      | atConnection sameBooks noTrade quiet generated =>
          simp only [Option.toList_none, List.append_nil]
          exact separate.atConnection sameBooks noTrade quiet generated
  | some request =>
      rw [issued] at answered
      cases answered with
      | byManager _ handled acknowledgement handles written executions emitted plain generated =>
          exact separate.byManager bounded handles written executions emitted plain generated

/-- Every run keeps the books apart while ids are left. -/
theorem run {events : List Event} {finish : Session}
    (separate : Separate tickers numbered session)
    (bounded : numbered + Exchange.newOrders events < 18446744073709551616)
    (reached : Machine.run Session.step session events = .ok finish) :
    ∃ after, Separate tickers after finish := by
  induction events generalizing session numbered with
  | nil =>
      cases reached
      exact ⟨numbered, separate⟩
  | cons event rest ih =>
      have counted : Exchange.newOrders (event :: rest) =
          Exchange.newOrders rest + (Exchange.isNewOrder event).toNat := by
        unfold Exchange.newOrders
        rw [List.countP_cons]
        cases Exchange.isNewOrder event <;> rfl
      unfold Machine.run at reached
      cases taken : session.step event with
      | error problem =>
          rw [taken] at reached
          cases reached
      | ok next =>
          rw [taken] at reached
          obtain ⟨after, few, separateNext⟩ := separate.step (by omega) taken
          exact ih separateNext (by omega) reached

end Separate

/-! ### Books are isolated -/

def orderOn (ticker : Ticker) (user : UserId) (isBuySide : Bool) (quantity : UInt32) :
    OrderEntryRequest :=
  .newOrder
    { orderCommon := { orderId := 0, userId := user, ticker := ticker }
      quantity := quantity
      isBuySide := isBuySide
      price := 100 }

end Server

end SpotExchange
