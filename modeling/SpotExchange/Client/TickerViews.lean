/-
The tickers of a handler one by one. What a handler shows and knows of a ticker is made by
the messages about the orders of this ticker alone, as if there were no other.
-/

import SpotExchange.Client.OwnBooks

namespace SpotExchange
namespace Client

open Engine Machine

/-! ### The view of one ticker -/

/-- The sizes that are shown for a ticker, and what is known of its orders. -/
@[ext]
structure TickerView where
  shown : BookSide → Price → Option Int64
  known : OrderId → Option AddOrderData

namespace TickerView

def empty : TickerView :=
  { shown := fun _ _ => none
    known := fun _ => none }

def grown (shares : Int32) (entry : Option Int64) : Option Int64 :=
  some (entry.getD 0 + shares.toInt64)

def shrunk (shares : Int32) (entry : Option Int64) : Option Int64 :=
  entry.bind (fun size => if size - shares.toInt64 ≤ 0 then none else some (size - shares.toInt64))

/-- A change to the entry of one side and price. -/
def changeAt (shown : BookSide → Price → Option Int64) (placed : BookSide) (written : Price)
    (change : Option Int64 → Option Int64) : BookSide → Price → Option Int64 :=
  fun side price =>
    if side = placed ∧ price = written then change (shown side price) else shown side price

/-- A change to the entry of a known order. -/
def changeOf (shown : BookSide → Price → Option Int64) (data : AddOrderData)
    (change : Option Int64 → Option Int64) : BookSide → Price → Option Int64 :=
  changeAt shown (ClientOrderBook.sideOf data.isBuySide) data.price change

def shownAfter (shown : BookSide → Price → Option Int64) :
    FeedMessage → Option AddOrderData → BookSide → Price → Option Int64
  | .add newOrder, _ => changeOf shown newOrder (grown newOrder.quantity)
  | .modify _, none => shown
  | .modify modifyOrder, some data =>
      if modifyOrder.quantity > data.quantity then
        changeOf shown data (grown (modifyOrder.quantity - data.quantity))
      else changeOf shown data (shrunk (data.quantity - modifyOrder.quantity))
  | .cancel _, none => shown
  | .cancel _, some data => changeOf shown data (shrunk data.quantity)
  | .fill _, none => shown
  | .fill fill, some data => changeOf shown data (shrunk fill.quantity)

def knownAfter : FeedMessage → Option AddOrderData → Option AddOrderData
  | .add newOrder, none => some { newOrder with bookIndex := 0 }
  | .add _, some data => some data
  | .modify _, none => none
  | .modify modifyOrder, some data => some { data with quantity := modifyOrder.quantity }
  | .cancel _, _ => none
  | .fill _, none => none
  | .fill fill, some data =>
      if data.quantity - fill.quantity ≤ 0 then none
      else some { data with quantity := data.quantity - fill.quantity }

end TickerView

/-- The order that a message adds or names. -/
def FeedMessage.orderId : FeedMessage → OrderId
  | .add newOrder => newOrder.orderId
  | .modify modifyOrder => modifyOrder.orderId
  | .cancel cancelOrder => cancelOrder.orderId
  | .fill filled => filled.orderId

/-- What one message does to the view of the ticker that it is about. -/
def TickerView.step (view : TickerView) (message : FeedMessage) : TickerView :=
  { shown := shownAfter view.shown message (view.known message.orderId)
    known := Function.update view.known message.orderId
      (knownAfter message (view.known message.orderId)) }

/-- An order is added under the ticker of its id. -/
def FeedMessage.AtHome (home : OrderId → Ticker) : FeedMessage → Prop
  | .add newOrder => newOrder.ticker = home newOrder.orderId
  | .modify _ => True
  | .cancel _ => True
  | .fill _ => True

/-- The messages about the orders of a ticker. -/
def messagesAbout (home : OrderId → Ticker) (ticker : Ticker) (messages : List FeedMessage) :
    List FeedMessage :=
  messages.filter (fun message => decide (home message.orderId = ticker))

section About

variable {home : OrderId → Ticker} {ticker : Ticker} {message : FeedMessage}

theorem messagesAbout_of_eq (about : home message.orderId = ticker) (rest : List FeedMessage) :
    messagesAbout home ticker (message :: rest) = message :: messagesAbout home ticker rest :=
  List.filter_cons_of_pos (decide_eq_true about)

theorem messagesAbout_of_ne (elsewhere : home message.orderId ≠ ticker)
    (rest : List FeedMessage) :
    messagesAbout home ticker (message :: rest) = messagesAbout home ticker rest := by
  apply List.filter_cons_of_neg
  rw [decide_eq_false elsewhere]
  exact Bool.false_ne_true

end About

namespace ClientFeedHandler

open TickerView

/-- What is known of an order, but for the index of its book. -/
def knownOf (handler : ClientFeedHandler) (orderId : OrderId) : Option AddOrderData :=
  (handler.orders.lookup orderId).map (fun data => { data with bookIndex := 0 })

def viewOf (home : OrderId → Ticker) (ticker : Ticker) (handler : ClientFeedHandler) :
    TickerView :=
  { shown := handler.displayed ticker
    known := fun orderId => if home orderId = ticker then handler.knownOf orderId else none }

/-! ### What is known of the orders -/

section Known

variable {handler next : ClientFeedHandler} {orderId : OrderId}

theorem knownOf_none (unknown : handler.orders.lookup orderId = none) :
    handler.knownOf orderId = none := by
  rw [knownOf, unknown, Option.map_none]

theorem knownOf_some {data : AddOrderData} (found : handler.orders.lookup orderId = some data) :
    handler.knownOf orderId = some { data with bookIndex := 0 } := by
  rw [knownOf, found, Option.map_some]

theorem knownOf_inserted {data : AddOrderData}
    (written : next.orders = handler.orders.insert orderId data) :
    next.knownOf = Function.update handler.knownOf orderId (some { data with bookIndex := 0 }) := by
  funext other
  unfold knownOf
  rw [written]
  by_cases same : other = orderId
  · rw [same, AList.lookup_insert, Function.update_self, Option.map_some]
  · rw [AList.lookup_insert_ne same, Function.update_of_ne same]

theorem knownOf_erased (written : next.orders = handler.orders.erase orderId) :
    next.knownOf = Function.update handler.knownOf orderId none := by
  funext other
  unfold knownOf
  rw [written]
  by_cases same : other = orderId
  · rw [same, AList.lookup_erase, Function.update_self, Option.map_none]
  · rw [AList.lookup_erase_ne same, Function.update_of_ne same]

theorem knownOf_same (same : next.orders = handler.orders) : next.knownOf = handler.knownOf := by
  funext other
  rw [knownOf, knownOf, same]

/-- What a message leaves known is known from the message and what was known of its order. -/
theorem Does.known {message : FeedMessage} (does : Does handler message next) :
    next.knownOf = Function.update handler.knownOf message.orderId
      (knownAfter message (handler.knownOf message.orderId)) := by
  cases does with
  | adds newOrder next grows rewrites =>
      cases found : handler.orders.lookup newOrder.orderId with
      | none =>
          have written := rewrites.orders
          rw [found, if_neg (by simp)] at written
          rw [knownOf_inserted written, FeedMessage.orderId, knownOf_none found]
          rfl
      | some data =>
          have written := rewrites.orders
          rw [found, if_pos Option.isSome_some] at written
          rw [knownOf_same written, FeedMessage.orderId, knownOf_some found, knownAfter,
            ← knownOf_some found, Function.update_eq_self]
  | modifiesUnknown modifyOrder unknown =>
      rw [FeedMessage.orderId, knownOf_none unknown, knownAfter, ← knownOf_none unknown,
        Function.update_eq_self]
  | increases modifyOrder data next found more grows rewrites =>
      rw [knownOf_inserted rewrites.orders, FeedMessage.orderId, knownOf_some found]
      rfl
  | decreases modifyOrder data next found noMore shrinks rewrites =>
      rw [knownOf_inserted rewrites.orders, FeedMessage.orderId, knownOf_some found]
      rfl
  | cancelsUnknown cancelOrder unknown =>
      rw [FeedMessage.orderId, knownAfter, ← knownOf_none unknown, Function.update_eq_self]
  | cancels cancelOrder data next found shrinks rewrites =>
      rw [knownOf_erased rewrites.orders, FeedMessage.orderId, knownAfter]
  | fillsUnknown filled unknown =>
      rw [FeedMessage.orderId, knownOf_none unknown, knownAfter, ← knownOf_none unknown,
        Function.update_eq_self]
  | fills filled data next found shrinks rewrites =>
      have written := rewrites.orders
      rw [FeedMessage.orderId, knownOf_some found, knownAfter]
      by_cases usedUp : data.quantity - filled.quantity ≤ 0
      · rw [if_pos usedUp] at written ⊢
        exact knownOf_erased written
      · rw [if_neg usedUp] at written ⊢
        exact knownOf_inserted written

end Known

/-! ### What is shown of a ticker -/

section Shown

variable {announced : Finset Ticker} {handler next : ClientFeedHandler} {ticker : Ticker}

/-- A change at one place of a ticker's book changes what is shown there. -/
theorem displayed_changed {index : UInt16} {placed : BookSide} {written : Price}
    {change : Option Int64 → Option Int64}
    (listed : handler.tickers.lookup ticker = some index)
    (listedNext : next.tickers.lookup ticker = some index)
    (here : next.entry
        { index := index.toNat
          side := placed
          price := written } =
      change (handler.entry
        { index := index.toNat
          side := placed
          price := written }))
    (away : ∀ other,
      other ≠ { index := index.toNat, side := placed, price := written : Place } →
        next.entry other = handler.entry other) :
    next.displayed ticker = changeAt (handler.displayed ticker) placed written change := by
  funext side price
  rw [changeAt, displayed_listed listedNext, displayed_listed listed]
  by_cases both : side = placed ∧ price = written
  · rw [if_pos both, both.1, both.2]
    exact here
  · rw [if_neg both]
    apply away
    intro same
    injection same with _index sameSide samePrice
    exact both ⟨sameSide, samePrice⟩

/-- Opening a book shows nothing new of its ticker. -/
theorem openBook_displayed (homed : Homed announced handler)
    (few : (insert ticker announced).card ≤ 65536) :
    (handler.openBook ticker).1.displayed ticker = handler.displayed ticker := by
  funext side price
  have opens := openBook_opens homed.indexed ticker
  cases listed : handler.tickers.lookup ticker with
  | some index =>
      have same : (handler.openBook ticker).1 = handler := by
        unfold openBook
        rw [listed]
      rw [same]
  | none =>
      have outside : ticker ∉ announced := by
        intro member
        obtain ⟨index, found⟩ := (homed.shelves.heard ticker).mp member
        cases listed.symm.trans found
      have index : (handler.openBook ticker).2.toNat = handler.orderbooks.length := by
        have counted := homed.shelves.counted
        rw [Finset.card_insert_of_notMem outside, ← counted] at few
        have isLast : (handler.openBook ticker).2 =
            UInt16.ofNat ((handler.orderbooks ++ [ClientOrderBook.ofTicker ticker]).length - 1) := by
          unfold openBook
          rw [listed]
        rw [isLast, UInt16.toNat_ofNat', List.length_append, List.length_singleton,
          Nat.add_sub_cancel]
        exact Nat.mod_eq_of_lt (by omega)
      rw [displayed_unlisted listed, displayed_listed opens.listed, opens.entries, entry, index,
        List.getElem?_eq_none (Nat.le_refl _)]

/-- A change at the place of a tracked order is one of what is shown of its ticker. -/
theorem Homed.displayed_of_place (homed : Homed announced handler) {orderId : OrderId}
    {data : AddOrderData} {orders : AList (fun _ : OrderId => AddOrderData)}
    {change : Option Int64 → Option Int64}
    (found : handler.orders.lookup orderId = some data) (own : data.ticker = ticker)
    (rewrites : Rewrites handler orders next)
    (here : next.entry data.place = change (handler.entry data.place))
    (away : ∀ other, other ≠ data.place → next.entry other = handler.entry other) :
    next.displayed ticker = changeOf (handler.displayed ticker) data change := by
  have listed := homed.homes orderId data found
  rw [own] at listed
  refine displayed_changed listed ?_ here away
  rw [rewrites.tickers]
  exact listed

/-- What a message leaves shown of its ticker is known from the message, what was shown and
what was known of its order. -/
theorem Homed.displayed_does (homed : Homed announced handler) {message : FeedMessage}
    (few : (announced ∪ message.announces).card ≤ 65536)
    (own : ∀ data, handler.orders.lookup message.orderId = some data → data.ticker = ticker)
    (added : ∀ newOrder, message = .add newOrder → newOrder.ticker = ticker)
    (does : Does handler message next) :
    next.displayed ticker =
      shownAfter (handler.displayed ticker) message (handler.knownOf message.orderId) := by
  cases does with
  | adds newOrder next grows rewrites =>
      have isTicker := added newOrder rfl
      subst isTicker
      rw [union_announces_add] at few
      have opens := openBook_opens homed.indexed newOrder.ticker
      have listed : next.tickers.lookup newOrder.ticker =
          some (handler.openBook newOrder.ticker).2 := by
        rw [rewrites.tickers]
        exact opens.listed
      have opened := @displayed_changed (handler.openBook newOrder.ticker).1 next newOrder.ticker
        (handler.openBook newOrder.ticker).2 (ClientOrderBook.sideOf newOrder.isBuySide)
        newOrder.price (grown newOrder.quantity) opens.listed listed
        (by rw [opens.entries]; exact grows.here)
        (by intro other different; rw [opens.entries]; exact grows.away other different)
      rw [opened, openBook_displayed homed few]
      cases handler.knownOf (FeedMessage.add newOrder).orderId <;> rfl
  | modifiesUnknown modifyOrder unknown =>
      rw [FeedMessage.orderId, knownOf_none unknown]
      rfl
  | increases modifyOrder data next found more grows rewrites =>
      have changed : next.displayed ticker = changeOf (handler.displayed ticker) data
          (grown (modifyOrder.quantity - data.quantity)) :=
        homed.displayed_of_place found (own data found) rewrites grows.here grows.away
      rw [FeedMessage.orderId, knownOf_some found, shownAfter, if_pos more]
      exact changed
  | decreases modifyOrder data next found noMore shrinks rewrites =>
      have changed : next.displayed ticker = changeOf (handler.displayed ticker) data
          (shrunk (data.quantity - modifyOrder.quantity)) :=
        homed.displayed_of_place found (own data found) rewrites shrinks.here shrinks.away
      rw [FeedMessage.orderId, knownOf_some found, shownAfter, if_neg noMore]
      exact changed
  | cancelsUnknown cancelOrder unknown =>
      rw [FeedMessage.orderId, knownOf_none unknown]
      rfl
  | cancels cancelOrder data next found shrinks rewrites =>
      have changed : next.displayed ticker = changeOf (handler.displayed ticker) data
          (shrunk data.quantity) :=
        homed.displayed_of_place found (own data found) rewrites shrinks.here shrinks.away
      rw [FeedMessage.orderId, knownOf_some found, shownAfter]
      exact changed
  | fillsUnknown filled unknown =>
      rw [FeedMessage.orderId, knownOf_none unknown]
      rfl
  | fills filled data next found shrinks rewrites =>
      have changed : next.displayed ticker = changeOf (handler.displayed ticker) data
          (shrunk filled.quantity) :=
        homed.displayed_of_place found (own data found) rewrites shrinks.here shrinks.away
      rw [FeedMessage.orderId, knownOf_some found, shownAfter]
      exact changed

end Shown

/-! ### Every feed -/

section Feeds

variable {announced : Finset Ticker} {handler next : ClientFeedHandler}
  {home : OrderId → Ticker} {message : FeedMessage}

/-- The tracked orders have the tickers of their ids. -/
def OfHome (home : OrderId → Ticker) (handler : ClientFeedHandler) : Prop :=
  ∀ orderId data, handler.orders.lookup orderId = some data → data.ticker = home orderId

theorem fresh_ofHome (home : OrderId → Ticker) : OfHome home fresh := by
  intro orderId data found
  cases found

theorem Does.ofHome (ofHome : OfHome home handler) (atHome : message.AtHome home)
    (does : Does handler message next) : OfHome home next := by
  have kept : ∀ {orderId data quantity}, handler.orders.lookup orderId = some data →
      next.orders = handler.orders.insert orderId { data with quantity := quantity } →
        OfHome home next := by
    intro orderId data quantity found written other item there
    rw [written] at there
    rcases of_inserted there with ⟨same, isNew⟩ | old
    · rw [isNew, same]
      exact ofHome orderId data found
    · exact ofHome other item old
  have erased : ∀ {orderId}, next.orders = handler.orders.erase orderId → OfHome home next := by
    intro orderId written other item there
    rw [written] at there
    exact ofHome other item (of_erased there)
  cases does with
  | adds newOrder next grows rewrites =>
      intro other item there
      rw [rewrites.orders] at there
      split at there
      · exact ofHome other item there
      · rcases of_inserted there with ⟨same, isNew⟩ | old
        · rw [isNew, same]
          exact atHome
        · exact ofHome other item old
  | modifiesUnknown modifyOrder unknown => exact ofHome
  | increases modifyOrder data next found more grows rewrites => exact kept found rewrites.orders
  | decreases modifyOrder data next found noMore shrinks rewrites =>
      exact kept found rewrites.orders
  | cancelsUnknown cancelOrder unknown => exact ofHome
  | cancels cancelOrder data next found shrinks rewrites => exact erased rewrites.orders
  | fillsUnknown filled unknown => exact ofHome
  | fills filled data next found shrinks rewrites =>
      have written := rewrites.orders
      split at written
      · exact erased written
      · exact kept found written

/-- A message takes the view of its ticker one step on. -/
theorem Homed.viewOf_about (homed : Homed announced handler) (ofHome : OfHome home handler)
    (few : (announced ∪ message.announces).card ≤ 65536) (atHome : message.AtHome home)
    (does : Does handler message next) :
    next.viewOf home (home message.orderId) =
      (handler.viewOf home (home message.orderId)).step message := by
  have known : (handler.viewOf home (home message.orderId)).known message.orderId =
      handler.knownOf message.orderId := if_pos rfl
  apply TickerView.ext
  · rw [TickerView.step, known]
    refine homed.displayed_does few ?_ ?_ does
    · intro data found
      exact ofHome message.orderId data found
    · rintro newOrder rfl
      exact atHome
  · rw [TickerView.step, known]
    funext orderId
    simp only [viewOf, does.known]
    by_cases same : orderId = message.orderId
    · rw [same, if_pos rfl, Function.update_self, Function.update_self]
    · rw [Function.update_of_ne same, Function.update_of_ne same]

/-- A message leaves the views of the other tickers. -/
theorem Homed.viewOf_elsewhere (homed : Homed announced handler) (ofHome : OfHome home handler)
    (few : (announced ∪ message.announces).card ≤ 65536) (atHome : message.AtHome home)
    (does : Does handler message next) {ticker : Ticker}
    (elsewhere : home message.orderId ≠ ticker) :
    next.viewOf home ticker = handler.viewOf home ticker := by
  have other : handler.concerns message ≠ some ticker := by
    intro same
    have named : ∀ {orderId}, (handler.orders.lookup orderId).map AddOrderData.ticker =
        some ticker → home orderId = ticker := by
      intro orderId isTicker
      obtain ⟨data, found, own⟩ := Option.map_eq_some_iff.mp isTicker
      exact (ofHome orderId data found).symm.trans own
    apply elsewhere
    cases message with
    | add newOrder => exact atHome.symm.trans (Option.some.inj same)
    | modify modifyOrder => exact named same
    | cancel cancelOrder => exact named same
    | fill filled => exact named same
  apply TickerView.ext
  · funext side price
    exact homed.leavesOthers few does ticker other side price
  · funext orderId
    simp only [viewOf, does.known]
    by_cases same : orderId = message.orderId
    · rw [same, if_neg elsewhere, if_neg elsewhere]
    · rw [Function.update_of_ne same]

/-- Each view follows the messages about its ticker. -/
theorem Homed.views {messages : List FeedMessage} (homed : Homed announced handler)
    (ofHome : OfHome home handler) (few : (announced ∪ announcedIn messages).card ≤ 65536)
    (atHome : ∀ message ∈ messages, message.AtHome home) :
    ∃ finish, Machine.run process handler messages = .ok finish ∧
      ∀ ticker, finish.viewOf home ticker =
        (messagesAbout home ticker messages).foldl TickerView.step
          (handler.viewOf home ticker) := by
  induction messages generalizing announced handler with
  | nil => exact ⟨handler, rfl, fun _ticker => rfl⟩
  | cons message rest ih =>
      rw [announcedIn_cons] at few
      have fewHere := Nat.le_trans (Finset.card_le_card Finset.subset_union_left) few
      have atHomeHere := atHome message List.mem_cons_self
      obtain ⟨next, returned, does⟩ := process_does homed.indexed message
      obtain ⟨finish, reached, views⟩ := ih (homed.step fewHere does)
        (does.ofHome ofHome atHomeHere) few
        (fun other member => atHome other (List.mem_cons_of_mem message member))
      refine ⟨finish, ?_, ?_⟩
      · simp only [Machine.run, returned]
        exact reached
      · intro ticker
        rw [views ticker]
        by_cases about : home message.orderId = ticker
        · rw [messagesAbout_of_eq about, List.foldl_cons, ← about,
            homed.viewOf_about ofHome fewHere atHomeHere does]
        · rw [messagesAbout_of_ne about,
            homed.viewOf_elsewhere ofHome fewHere atHomeHere does about]

end Feeds

theorem fresh_viewOf (home : OrderId → Ticker) (ticker : Ticker) :
    fresh.viewOf home ticker = TickerView.empty := by
  apply TickerView.ext
  · rfl
  · funext orderId
    exact ite_self none

theorem announcedIn_filter (messages : List FeedMessage) (chosen : FeedMessage → Bool) :
    announcedIn (messages.filter chosen) ⊆ announcedIn messages := by
  induction messages with
  | nil => exact Finset.Subset.refl _
  | cons message rest ih =>
      rw [announcedIn]
      cases kept : chosen message with
      | true =>
          rw [List.filter_cons_of_pos kept, announcedIn]
          exact Finset.union_subset_union (Finset.Subset.refl _) ih
      | false =>
          rw [List.filter_cons_of_neg (by rw [kept]; exact Bool.false_ne_true)]
          exact Finset.Subset.trans ih Finset.subset_union_right

/-- The views of a handler that has taken a feed in which every order id is one ticker's. -/
theorem views_of_feed {home : OrderId → Ticker} {messages : List FeedMessage}
    (atHome : ∀ message ∈ messages, message.AtHome home)
    (few : (announcedIn messages).card ≤ 65536) :
    ∃ handler, run process fresh messages = .ok handler ∧
      ∀ ticker, handler.viewOf home ticker =
        (messagesAbout home ticker messages).foldl TickerView.step TickerView.empty := by
  rw [← Finset.empty_union (announcedIn messages)] at few
  obtain ⟨handler, reached, views⟩ := fresh_homed.views (fresh_ofHome home) few atHome
  refine ⟨handler, reached, ?_⟩
  intro ticker
  rw [views ticker, fresh_viewOf]

/-- A handler has for each ticker what a handler has that took the messages about the orders
of this ticker alone. -/
theorem feed_splits_by_ticker (home : OrderId → Ticker) (messages : List FeedMessage)
    (atHome : ∀ message ∈ messages, message.AtHome home)
    (few : (announcedIn messages).card ≤ 65536) :
    ∃ handler, run process fresh messages = .ok handler ∧
      ∀ ticker, ∃ alone, run process fresh (messagesAbout home ticker messages) = .ok alone ∧
        handler.viewOf home ticker = alone.viewOf home ticker ∧
        alone.viewOf home ticker =
          (messagesAbout home ticker messages).foldl TickerView.step TickerView.empty := by
  obtain ⟨handler, reached, views⟩ := views_of_feed atHome few
  refine ⟨handler, reached, ?_⟩
  intro ticker
  have fewAlone := Nat.le_trans (Finset.card_le_card
    (announcedIn_filter messages (fun message => decide (home message.orderId = ticker)))) few
  obtain ⟨alone, reachedAlone, viewsAlone⟩ := @views_of_feed home
    (messagesAbout home ticker messages)
    (fun message member => atHome message (List.mem_of_mem_filter member)) fewAlone
  have again : messagesAbout home ticker (messagesAbout home ticker messages) =
      messagesAbout home ticker messages := by
    simp only [messagesAbout, List.filter_filter, Bool.and_self]
  have view := viewsAlone ticker
  rw [again] at view
  exact ⟨alone, reachedAlone, (views ticker).trans view.symm, view⟩

/-- Two orders of two tickers: the first is filled in part, the second raised and cancelled. -/
def interleavedFeed : List FeedMessage :=
  [.add
      { timestamp := 0
        orderId := 11
        ticker := 1
        price := 100
        quantity := 8
        isBuySide := 1
        bookIndex := 0 },
    .add
      { timestamp := 1
        orderId := 12
        ticker := 2
        price := 100
        quantity := 6
        isBuySide := 0
        bookIndex := 0 },
    .fill
      { timestamp := 2
        orderId := 11
        ticker := 1
        fillId := 0
        quantity := 3 },
    .modify
      { timestamp := 3
        orderId := 12
        quantity := 9 },
    .cancel
      { timestamp := 4
        orderId := 12 }]

theorem interleavedFeed_splits :
    ∃ handler, run process fresh interleavedFeed = .ok handler ∧
      ∀ ticker, ∃ alone, run process fresh
          (messagesAbout (fun orderId => orderId - 10) ticker interleavedFeed) = .ok alone ∧
        handler.viewOf (fun orderId => orderId - 10) ticker =
          alone.viewOf (fun orderId => orderId - 10) ticker ∧
        alone.viewOf (fun orderId => orderId - 10) ticker =
          (messagesAbout (fun orderId => orderId - 10) ticker interleavedFeed).foldl
            TickerView.step TickerView.empty := by
  apply feed_splits_by_ticker
  · intro message member
    simp only [interleavedFeed, List.mem_cons, List.not_mem_nil, or_false] at member
    rcases member with rfl | rfl | rfl | rfl | rfl
    · rfl
    · rfl
    · trivial
    · trivial
    · trivial
  · decide +kernel

end ClientFeedHandler

end Client
end SpotExchange
