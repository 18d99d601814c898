/-
The book that the client displays, and whether the interface is reprinted when a datagram
changes it.
-/

import SpotExchange.Client.TrackedSums
import SpotExchange.Client.TradingClient

namespace SpotExchange
namespace Client

open Engine Machine

/-! ### Handlers that were fed -/

/-- The indices of a handler that was fed with any messages are those of books. -/
theorem ClientFeedHandler.indexed_of_run {handler : ClientFeedHandler}
    {messages : List FeedMessage} (fed : run process fresh messages = .ok handler) :
    handler.Indexed := by
  have preserved : ∀ (handler : ClientFeedHandler) (message : FeedMessage)
      (next : ClientFeedHandler), handler.Indexed → handler.process message = .ok next →
        next.Indexed := by
    intro handler message next indexed returned
    exact (does_of_process indexed returned).indexed indexed
  exact run_invariant preserved fresh_indexed fed

/-! ### What a datagram changes -/

namespace ClientFeedHandler

/-- Added shares change an entry that is not there or if there are any. -/
def AddsTo (entry : Option Int64) (shares : Int32) : Prop := entry = none ∨ shares ≠ 0

/-- Removed shares change an entry that is there, if there are any or it has no size. -/
def RemovesFrom (entry : Option Int64) (shares : Int32) : Prop :=
  ∃ size, entry = some size ∧ (shares ≠ 0 ∨ size ≤ 0)

/-- A message changes a size in the book at an index. -/
def Alters (handler : ClientFeedHandler) (index : Nat) : FeedMessage → Prop
  | .add newOrder =>
      (handler.placeOf newOrder).index = index ∧
        AddsTo (handler.entry (handler.placeOf newOrder)) newOrder.quantity
  | .modify modifyOrder =>
      ∃ data, handler.orders.lookup modifyOrder.orderId = some data ∧ data.place.index = index ∧
        if modifyOrder.quantity > data.quantity then
          AddsTo (handler.entry data.place) (modifyOrder.quantity - data.quantity)
        else RemovesFrom (handler.entry data.place) (data.quantity - modifyOrder.quantity)
  | .cancel cancelOrder =>
      ∃ data, handler.orders.lookup cancelOrder.orderId = some data ∧ data.place.index = index ∧
        RemovesFrom (handler.entry data.place) data.quantity
  | .fill fill =>
      ∃ data, handler.orders.lookup fill.orderId = some data ∧ data.place.index = index ∧
        RemovesFrom (handler.entry data.place) fill.quantity

/-- The sizes of the book at an index are others. -/
def Differs (handler next : ClientFeedHandler) (index : Nat) : Prop :=
  ∃ place : Place, place.index = index ∧ next.entry place ≠ handler.entry place

theorem toInt64_eq_zero {shares : Int32} : shares.toInt64 = 0 ↔ shares = 0 := by
  constructor
  · intro zero
    apply Int32.toInt_inj.mp
    rw [← Int32.toInt_toInt64, zero]
    rfl
  · intro zero
    rw [zero]
    rfl

/-- Where one place of a handler changes, the book at its index does. -/
theorem differs_iff_of_away {handler next : ClientFeedHandler} {place : Place}
    (away : ∀ other, other ≠ place → next.entry other = handler.entry other) (index : Nat) :
    Differs handler next index ↔ place.index = index ∧ next.entry place ≠ handler.entry place := by
  constructor
  · rintro ⟨other, here, different⟩
    have same : other = place := by
      by_contra apart
      exact different (away other apart)
    rw [same] at here different
    exact ⟨here, different⟩
  · rintro ⟨here, different⟩
    exact ⟨place, here, different⟩

section Differences

variable {handler next : ClientFeedHandler} {place : Place} {shares : Int32}

theorem Grows.differs_iff (grows : Grows handler place shares next) (index : Nat) :
    Differs handler next index ↔ place.index = index ∧ AddsTo (handler.entry place) shares := by
  rw [differs_iff_of_away grows.away, grows.here, AddsTo]
  cases handler.entry place with
  | none => simp only [ne_eq, reduceCtorEq, not_false_eq_true, true_or]
  | some size =>
      simp only [Option.getD_some, ne_eq, Option.some.injEq, reduceCtorEq, false_or,
        Int64.add_eq_left, toInt64_eq_zero]

theorem Shrinks.differs_iff (shrinks : Shrinks handler place shares next) (index : Nat) :
    Differs handler next index ↔
      place.index = index ∧ RemovesFrom (handler.entry place) shares := by
  rw [differs_iff_of_away shrinks.away, shrinks.here, RemovesFrom]
  cases handler.entry place with
  | none => simp
  | some size =>
      simp only [Option.bind_some, Option.some.injEq, exists_eq_left']
      apply and_congr_right
      intro _here
      by_cases zero : shares = 0
      · have nothing : size - shares.toInt64 = size := by
          rw [zero]
          exact Int64.sub_zero size
        rw [nothing]
        by_cases empty : size ≤ 0
        · simp [empty]
        · simp [empty, zero]
      · have less : size - shares.toInt64 ≠ size := by
          intro same
          apply zero
          apply toInt64_eq_zero.mp
          exact Int64.add_eq_left.mp (Int64.sub_eq_iff_eq_add.mp same).symm
        by_cases emptied : size - shares.toInt64 ≤ 0
        · simp [emptied, zero]
        · simp [emptied, zero, less]

/-- A message changes the sizes of a book exactly when it alters them. -/
theorem Does.differs_iff {message : FeedMessage} (does : Does handler message next)
    (index : Nat) : Differs handler next index ↔ Alters handler index message := by
  have unchanged : ∀ handler : ClientFeedHandler, ¬Differs handler handler index := by
    rintro handler ⟨place, -, different⟩
    exact different rfl
  cases does with
  | adds newOrder next grows rewrites => exact grows.differs_iff index
  | modifiesUnknown modifyOrder unknown =>
      refine iff_of_false (unchanged handler) ?_
      rintro ⟨data, found, -⟩
      cases unknown.symm.trans found
  | increases modifyOrder data next found more grows rewrites =>
      simp only [grows.differs_iff index, Alters, found, Option.some.injEq, exists_eq_left',
        if_pos more]
  | decreases modifyOrder data next found noMore shrinks rewrites =>
      simp only [shrinks.differs_iff index, Alters, found, Option.some.injEq, exists_eq_left',
        if_neg noMore]
  | cancelsUnknown cancelOrder unknown =>
      refine iff_of_false (unchanged handler) ?_
      rintro ⟨data, found, -⟩
      cases unknown.symm.trans found
  | cancels cancelOrder data next found shrinks rewrites =>
      simp only [shrinks.differs_iff index, Alters, found, Option.some.injEq, exists_eq_left']
  | fillsUnknown filled unknown =>
      refine iff_of_false (unchanged handler) ?_
      rintro ⟨data, found, -⟩
      cases unknown.symm.trans found
  | fills filled data next found shrinks rewrites =>
      simp only [shrinks.differs_iff index, Alters, found, Option.some.injEq, exists_eq_left']

end Differences

/-! ### What is noticed of a datagram -/

/-- How many books there are after a message. -/
def booksAfter (handler : ClientFeedHandler) : FeedMessage → Nat
  | .add newOrder => (handler.openBook newOrder.ticker).1.orderbooks.length
  | _ => handler.orderbooks.length

/-- The ticker that the subscribed one is compared with: that of the datagram, or that of the
order it names, as far as the order is known when it has been processed. -/
def compared (handler : ClientFeedHandler) : FeedMessage → Ticker
  | .add newOrder => newOrder.ticker
  | .modify modifyOrder => handler.getOrderIDTicker modifyOrder.orderId
  | .cancel _ => 0
  | .fill fill => fill.ticker

/-- The books have not moved, and the ticker that is compared is that of the book. -/
structure Noticed (moves : Nat → Bool) (handler : ClientFeedHandler) (subscription : Subscription)
    (message : FeedMessage) : Prop where
  live : subscription.Live moves (handler.booksAfter message)
  compared : (handler.orderbooks.map ClientOrderBook.ticker)[subscription.index]? =
    some (handler.compared message)

section Noticed

variable {handler next : ClientFeedHandler} {message : FeedMessage} {moves : Nat → Bool}
  {subscription : Subscription}

theorem Does.length (does : Does handler message next) :
    next.orderbooks.length = handler.booksAfter message := by
  cases does with
  | adds newOrder next grows rewrites => exact rewrites.length
  | modifiesUnknown modifyOrder unknown => rfl
  | increases modifyOrder data next found more grows rewrites => exact rewrites.length
  | decreases modifyOrder data next found noMore shrinks rewrites => exact rewrites.length
  | cancelsUnknown cancelOrder unknown => rfl
  | cancels cancelOrder data next found shrinks rewrites => exact rewrites.length
  | fillsUnknown filled unknown => rfl
  | fills filled data next found shrinks rewrites => exact rewrites.length

/-- A book that is opened comes behind the others. -/
theorem openBook_titles (handler : ClientFeedHandler) (ticker : Ticker) :
    handler.orderbooks.map ClientOrderBook.ticker <+:
      (handler.openBook ticker).1.orderbooks.map ClientOrderBook.ticker := by
  unfold openBook
  cases handler.tickers.lookup ticker with
  | some index => exact List.prefix_rfl
  | none =>
      rw [List.map_append]
      exact List.prefix_append _ _

theorem Does.titles (does : Does handler message next) :
    handler.orderbooks.map ClientOrderBook.ticker <+:
      next.orderbooks.map ClientOrderBook.ticker := by
  cases does with
  | adds newOrder next grows rewrites =>
      rw [rewrites.titles]
      exact openBook_titles handler newOrder.ticker
  | modifiesUnknown modifyOrder unknown => exact List.prefix_rfl
  | increases modifyOrder data next found more grows rewrites =>
      exact rewrites.titles ▸ List.prefix_rfl
  | decreases modifyOrder data next found noMore shrinks rewrites =>
      exact rewrites.titles ▸ List.prefix_rfl
  | cancelsUnknown cancelOrder unknown => exact List.prefix_rfl
  | cancels cancelOrder data next found shrinks rewrites =>
      exact rewrites.titles ▸ List.prefix_rfl
  | fillsUnknown filled unknown => exact List.prefix_rfl
  | fills filled data next found shrinks rewrites =>
      exact rewrites.titles ▸ List.prefix_rfl

/-- A book keeps its ticker. -/
theorem Does.title {index : Nat} (does : Does handler message next)
    (inside : index < handler.orderbooks.length) :
    (next.orderbooks.map ClientOrderBook.ticker)[index]? =
      (handler.orderbooks.map ClientOrderBook.ticker)[index]? := by
  obtain ⟨more, same⟩ := does.titles
  rw [← same, List.getElem?_append_left (by rw [List.length_map]; exact inside)]

end Noticed

end ClientFeedHandler

namespace TradingClient

open ClientFeedHandler

section Noticing

variable {handler next : ClientFeedHandler} {message : FeedMessage} {moves : Nat → Bool}
  {subscription : Subscription} {client : TradingClient}

/-- A cancelled order is not known any more, a modified one still is. -/
theorem comparedAfter_does (does : Does handler message next) :
    comparedAfter message next = handler.compared message := by
  cases does with
  | adds newOrder next grows rewrites => rfl
  | modifiesUnknown modifyOrder unknown => rfl
  | increases modifyOrder data next found more grows rewrites =>
      simp only [comparedAfter, compared, getOrderIDTicker, rewrites.orders, AList.lookup_insert,
        found]
  | decreases modifyOrder data next found noMore shrinks rewrites =>
      simp only [comparedAfter, compared, getOrderIDTicker, rewrites.orders, AList.lookup_insert,
        found]
  | cancelsUnknown cancelOrder unknown =>
      simp only [comparedAfter, compared, getOrderIDTicker, unknown]
  | cancels cancelOrder data next found shrinks rewrites =>
      simp only [comparedAfter, compared, getOrderIDTicker, rewrites.orders, AList.lookup_erase]
  | fillsUnknown filled unknown => rfl
  | fills filled data next found shrinks rewrites => rfl

/-- The interface is reprinted exactly when the message is noticed. -/
theorem drawn_iff_noticed (does : Does client.feedhandler message next)
    (returned : client.feedhandler.process message = .ok next)
    (subscribed : client.subscription = some subscription)
    (inside : subscription.index < client.feedhandler.orderbooks.length) :
    (∃ after, client.processMarketData moves message = .ok (after, true)) ↔
      Noticed moves client.feedhandler subscription message := by
  have title := does.title inside
  have there : subscription.index < next.orderbooks.length := by
    have grown := does.titles.length_le
    rw [List.length_map, List.length_map] at grown
    exact Nat.lt_of_lt_of_le inside grown
  have isBook : next.orderbooks[subscription.index]? =
      some (next.orderbooks[subscription.index]) := List.getElem?_eq_getElem there
  rw [List.getElem?_map, isBook, Option.map_some] at title
  have length := does.length
  by_cases live : subscription.Live moves (client.feedhandler.booksAfter message)
  · have stillLive : subscription.Live moves next.orderbooks.length := by
      rw [length]
      exact live
    have read : next.getTicker moves subscription =
        .ok (next.orderbooks[subscription.index]).ticker := by
      rw [getTicker, bookAt, if_pos stillLive, isBook]
      rfl
    have processed : client.processMarketData moves message =
        .ok ({ client with feedhandler := next },
          (next.orderbooks[subscription.index]).ticker ==
            client.feedhandler.compared message) := by
      rw [processMarketData_eq, returned]
      simp only [afterData, subscribed, read, ok_bind, comparedAfter_does does]
      rfl
    constructor
    · rintro ⟨after, drawn⟩
      rw [processed] at drawn
      have same := congrArg Prod.snd (Except.ok.inj drawn)
      refine
        { live := live
          compared := ?_ }
      rw [← title]
      exact congrArg some (beq_iff_eq.mp same)
    · intro noticed
      have same := Option.some.inj (title.trans noticed.compared)
      refine ⟨{ client with feedhandler := next }, ?_⟩
      rw [processed, beq_iff_eq.mpr same]
  · have stale : ¬subscription.Live moves next.orderbooks.length := by
      rw [length]
      exact live
    refine iff_of_false ?_ (fun noticed => live noticed.live)
    rintro ⟨after, drawn⟩
    rw [processMarketData_eq, returned] at drawn
    simp only [afterData, subscribed, getTicker, bookAt, if_neg stale] at drawn
    cases drawn

end Noticing

/-! ### Every client with a subscription -/

/-- The client was fed, subscribed to a ticker, and was fed further. -/
structure Watches (client : TradingClient) (subscription : Subscription) : Prop where
  subscribed : client.subscription = some subscription
  reached : ∃ earlier later handler ticker, run process fresh earlier = .ok handler ∧
    handler.subscription ticker = .ok (some subscription) ∧
    run process handler later = .ok client.feedhandler

/-- Where processing a message changes a size in the subscribed book, the interface is
reprinted in the course of it. -/
def Refreshes (moves : Nat → Bool) (client : TradingClient) (subscription : Subscription)
    (message : FeedMessage) : Prop :=
  ∀ next, client.feedhandler.process message = .ok next →
    Differs client.feedhandler next subscription.index →
      ∃ after, client.processMarketData moves message = .ok (after, true)

section Watches

variable {client : TradingClient} {subscription : Subscription}

theorem Watches.indexed (watches : Watches client subscription) :
    client.feedhandler.Indexed := by
  obtain ⟨earlier, later, handler, ticker, reached, -, further⟩ := watches.reached
  have whole := run_append reached later
  rw [further] at whole
  exact indexed_of_run whole

theorem Watches.inside (watches : Watches client subscription) :
    subscription.index < client.feedhandler.orderbooks.length := by
  obtain ⟨earlier, later, handler, ticker, reached, taken, further⟩ := watches.reached
  have inside : subscription.index < handler.orderbooks.length := by
    rw [ClientFeedHandler.subscription] at taken
    split at taken
    · cases taken
    · split at taken
      · next there =>
          cases taken
          exact there
      · cases taken
  have kept : ∀ (handler : ClientFeedHandler) (message : FeedMessage)
      (next : ClientFeedHandler),
      handler.Indexed ∧ subscription.index < handler.orderbooks.length →
        handler.process message = .ok next →
          next.Indexed ∧ subscription.index < next.orderbooks.length := by
    rintro handler message next ⟨indexed, there⟩ returned
    have does := does_of_process indexed returned
    have grown := does.titles.length_le
    rw [List.length_map, List.length_map] at grown
    exact ⟨does.indexed indexed, Nat.lt_of_lt_of_le there grown⟩
  exact (run_invariant kept ⟨indexed_of_run reached, inside⟩ further).2

/-- A change to the subscribed book is reprinted exactly when it is noticed. -/
theorem refreshes_iff_noticed (moves : Nat → Bool) (watches : Watches client subscription)
    (message : FeedMessage) :
    Refreshes moves client subscription message ↔
      (Alters client.feedhandler subscription.index message →
        Noticed moves client.feedhandler subscription message) := by
  obtain ⟨next, returned, does⟩ := process_does watches.indexed message
  have drawn := @drawn_iff_noticed _ _ moves _ _ does returned watches.subscribed watches.inside
  constructor
  · intro refreshes alters
    exact drawn.mp (refreshes next returned ((does.differs_iff _).mpr alters))
  · intro noticed other returnedOther differs
    rw [returned] at returnedOther
    cases returnedOther
    exact drawn.mpr (noticed ((does.differs_iff _).mp differs))

end Watches

/-- The handler after one order of ticker 1. -/
def oneOrder : ClientFeedHandler :=
  (fresh.process (.add
    { timestamp := 0
      orderId := 2
      ticker := 1
      price := 100
      quantity := 5
      isBuySide := 1
      bookIndex := 0 })).toOption.getD fresh

/-- A client that has subscribed to the ticker. -/
def watchesOneOrder : TradingClient :=
  { start 7 with
    feedhandler := oneOrder
    subscription := some
      { index := 0
        among := 1 } }

theorem watches_oneOrder : watchesOneOrder.Watches
    { index := 0
      among := 1 } where
  subscribed := rfl
  reached := ⟨[.add
    { timestamp := 0
      orderId := 2
      ticker := 1
      price := 100
      quantity := 5
      isBuySide := 1
      bookIndex := 0 }], [], oneOrder, 1, rfl, rfl, rfl⟩

theorem refreshes_iff_noticed_oneOrder :
    Refreshes (fun _ => false) watchesOneOrder
        { index := 0
          among := 1 } (.cancel
        { timestamp := 0
          orderId := 2 }) ↔
      (Alters watchesOneOrder.feedhandler 0 (.cancel
        { timestamp := 0
          orderId := 2 }) →
        Noticed (fun _ => false) watchesOneOrder.feedhandler
          { index := 0
            among := 1 } (.cancel
          { timestamp := 0
            orderId := 2 })) :=
  refreshes_iff_noticed (fun _ => false) watches_oneOrder _

/-- The cancellation of the only order of the subscribed ticker empties the book, and the
interface stays as it was. -/
theorem cancel_not_refreshed :
    watchesOneOrder.Watches
        { index := 0
          among := 1 } ∧
      ¬Refreshes (fun _ => false) watchesOneOrder
        { index := 0
          among := 1 } (.cancel
        { timestamp := 0
          orderId := 2 }) := by
  refine ⟨watches_oneOrder, ?_⟩
  intro refreshes
  obtain ⟨next, returned, does⟩ := process_does watches_oneOrder.indexed (.cancel
    { timestamp := 0
      orderId := 2 })
  have alters : Alters oneOrder 0 (.cancel
      { timestamp := 0
        orderId := 2 }) := by
    refine ⟨_, rfl, rfl, _, rfl, Or.inl ?_⟩
    decide
  obtain ⟨after, drawn⟩ := refreshes next returned ((does.differs_iff 0).mpr alters)
  have quiet : ((watchesOneOrder.processMarketData (fun _ => false) (.cancel
      { timestamp := 0
        orderId := 2 })).toOption.map Prod.snd) = some false := rfl
  rw [drawn] at quiet
  cases quiet

end TradingClient

end Client
end SpotExchange
