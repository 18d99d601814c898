/-
Replay of a well-formed feed. The live orders are replayed beside the handler, which is
compared with them after every message.
-/

import Mathlib.Data.Finset.Card
import SpotExchange.Client.TrackedSums

namespace SpotExchange
namespace Client

open Collections Engine Machine

/-! ### Live orders -/

structure LiveOrder where
  ticker : Ticker
  side : BookSide
  price : Price
  remaining : Int
  deriving DecidableEq

abbrev LiveOrders := AList (fun _ : OrderId => LiveOrder)

/-- What there is to know of the order in an add message. -/
def AddOrderData.liveOrder (data : AddOrderData) : LiveOrder :=
  { ticker := data.ticker
    side := ClientOrderBook.sideOf data.isBuySide
    price := data.price
    remaining := data.quantity.toInt }

namespace LiveOrder

def isAt (order : LiveOrder) (ticker : Ticker) (side : BookSide) (price : Price) : Prop :=
  order.ticker = ticker ∧ order.side = side ∧ order.price = price

instance (order : LiveOrder) (ticker : Ticker) (side : BookSide) (price : Price) :
    Decidable (order.isAt ticker side price) :=
  inferInstanceAs (Decidable (_ ∧ _ ∧ _))

/-- What an order contributes to the total of a price. -/
def amount (ticker : Ticker) (side : BookSide) (price : Price) (order : LiveOrder) : Int :=
  if order.isAt ticker side price then order.remaining else 0

def reduced (order : LiveOrder) (filled : Int) : LiveOrder :=
  { order with remaining := order.remaining - filled }

end LiveOrder

namespace LiveOrders

/-- The total remaining quantity of a ticker, side and price. -/
def total (live : LiveOrders) (ticker : Ticker) (side : BookSide) (price : Price) : Int :=
  tally (LiveOrder.amount ticker side price) live

def replay (live : LiveOrders) : FeedMessage → LiveOrders
  | .add newOrder => live.insert newOrder.orderId newOrder.liveOrder
  | .modify modifyOrder =>
      match live.lookup modifyOrder.orderId with
      | none => live
      | some order =>
          live.insert modifyOrder.orderId { order with remaining := modifyOrder.quantity.toInt }
  | .cancel cancelOrder => live.erase cancelOrder.orderId
  | .fill fill =>
      match live.lookup fill.orderId with
      | none => live
      | some order =>
          if order.remaining ≤ fill.quantity.toInt then live.erase fill.orderId
          else live.insert fill.orderId (order.reduced fill.quantity.toInt)

/-- The total of the price of an order. -/
def totalAt (live : LiveOrders) (order : LiveOrder) : Int :=
  live.total order.ticker order.side order.price

/-- An added id is not live, any other id is, a fill takes at most what remains, and the total
of the price does not reach 2^63. -/
def Allows (live : LiveOrders) : FeedMessage → Prop
  | .add newOrder =>
      live.lookup newOrder.orderId = none ∧
        (live.replay (.add newOrder)).totalAt newOrder.liveOrder < 9223372036854775808
  | .modify modifyOrder =>
      ∃ order, live.lookup modifyOrder.orderId = some order ∧
        (live.replay (.modify modifyOrder)).totalAt order < 9223372036854775808
  | .cancel cancelOrder => live.lookup cancelOrder.orderId ≠ none
  | .fill fill =>
      ∃ order, live.lookup fill.orderId = some order ∧ fill.quantity.toInt ≤ order.remaining

/-- Whether the value under a key, if there is one, satisfies a decidable condition. -/
def decidableFound {Value : Type} (found : Option Value) (condition : Value → Prop)
    [DecidablePred condition] : Decidable (∃ value, found = some value ∧ condition value) :=
  match found with
  | none => isFalse (fun ⟨_, absent, _⟩ => nomatch absent)
  | some value =>
      decidable_of_iff (condition value)
        ⟨fun holds => ⟨value, rfl, holds⟩,
          fun ⟨_, same, holds⟩ => Option.some.inj same ▸ holds⟩

instance (live : LiveOrders) (message : FeedMessage) : Decidable (live.Allows message) :=
  match message with
  | .add _ => inferInstanceAs (Decidable (_ ∧ _))
  | .modify _ => decidableFound _ _
  | .cancel _ => inferInstanceAs (Decidable (_ ≠ _))
  | .fill _ => decidableFound _ _

def step (live : LiveOrders) (sized : SizedMessage) : Except Disabled LiveOrders :=
  .ok (live.replay sized.message)

end LiveOrders

section Totals

variable {live : LiveOrders} {orderId : OrderId} {order : LiveOrder}

theorem amount_here (order : LiveOrder) :
    LiveOrder.amount order.ticker order.side order.price order = order.remaining :=
  if_pos ⟨rfl, rfl, rfl⟩

theorem totalAt_added (absent : live.lookup orderId = none) :
    LiveOrders.totalAt (live.insert orderId order) order =
      order.remaining + live.totalAt order := by
  unfold LiveOrders.totalAt LiveOrders.total
  rw [tally_insert_absent _ absent, amount_here]

theorem totalAt_changed (found : live.lookup orderId = some order) (quantity : Int) :
    LiveOrders.totalAt (live.insert orderId { order with remaining := quantity }) order =
      live.totalAt order - order.remaining + quantity := by
  have before := tally_erase (LiveOrder.amount order.ticker order.side order.price) found
  have amount : LiveOrder.amount order.ticker order.side order.price
      { order with remaining := quantity } = quantity := amount_here _
  unfold LiveOrders.totalAt LiveOrders.total
  rw [amount_here] at before
  rw [tally_insert, amount, before]
  omega

end Totals

/-! ### Well-formed feeds -/

/-- The ticker that a message announces. -/
def FeedMessage.announces : FeedMessage → Finset Ticker
  | .add newOrder => {newOrder.ticker}
  | _ => ∅

def tickersOf : List SizedMessage → Finset Ticker
  | [] => ∅
  | sized :: rest => sized.message.announces ∪ tickersOf rest

theorem tickersOf_append (front back : List SizedMessage) :
    tickersOf (front ++ back) = tickersOf front ∪ tickersOf back := by
  induction front with
  | nil => exact (Finset.empty_union _).symm
  | cons sized rest ih =>
      change sized.message.announces ∪ tickersOf (rest ++ back) = _
      rw [ih]
      exact (Finset.union_assoc _ _ _).symm

def replayed (messages : List SizedMessage) : LiveOrders :=
  messages.foldl (fun live sized => live.replay sized.message) ∅

/-- Every message is allowed by the orders that are live when it comes, and the tickers fit
the indices. -/
structure WellFormedFeed where
  messages : List SizedMessage
  allowed : Guarded LiveOrders.step (fun live sized => live.Allows sized.message) ∅ messages
  fewTickers : (tickersOf messages).card < 65536

/-! ### The books of a handler -/

namespace ClientFeedHandler

/-- A handler has one book for each ticker that was announced. -/
structure Shelves (announced : Finset Ticker) (handler : ClientFeedHandler) : Prop where
  titled : ∀ ticker index, handler.tickers.lookup ticker = some index →
    (handler.orderbooks.map ClientOrderBook.ticker)[index.toNat]? = some ticker
  heard : ∀ ticker, ticker ∈ announced ↔ ∃ index, handler.tickers.lookup ticker = some index
  counted : handler.orderbooks.length = announced.card

section Shelves

variable {announced : Finset Ticker} {handler next : ClientFeedHandler}

theorem fresh_shelves : Shelves ∅ fresh where
  titled := by
    intro ticker index listed
    cases listed
  heard := by
    intro ticker
    constructor
    · intro member
      exact absurd member (Finset.notMem_empty ticker)
    · rintro ⟨index, listed⟩
      cases listed
  counted := rfl

theorem Shelves.rewrite {orders : AList (fun _ : OrderId => AddOrderData)}
    (shelves : Shelves announced handler) (rewrites : Rewrites handler orders next) :
    Shelves announced next where
  titled := by
    rw [rewrites.tickers, rewrites.titles]
    exact shelves.titled
  heard := by
    rw [rewrites.tickers]
    exact shelves.heard
  counted := rewrites.length.trans shelves.counted

theorem Shelves.one_ticker {first second : Ticker} {index other : UInt16}
    (shelves : Shelves announced handler)
    (listed : handler.tickers.lookup first = some index)
    (listedOther : handler.tickers.lookup second = some other)
    (same : index.toNat = other.toNat) : first = second := by
  have title := shelves.titled first index listed
  have titleOther := shelves.titled second other listedOther
  rw [same, titleOther] at title
  exact (Option.some.inj title).symm

/-- The book under a ticker's index is the ticker's. -/
theorem Shelves.book (shelves : Shelves announced handler) {ticker : Ticker} {index : UInt16}
    (listed : handler.tickers.lookup ticker = some index) :
    ∃ book, handler.orderbooks[index.toNat]? = some book ∧ book.ticker = ticker := by
  have title := shelves.titled ticker index listed
  rw [List.getElem?_map] at title
  exact Option.map_eq_some_iff.mp title

/-- A book is opened for a ticker where there is none, while indices are left. -/
theorem Shelves.opened (shelves : Shelves announced handler) (ticker : Ticker)
    (few : (insert ticker announced).card ≤ 65536) :
    Shelves (insert ticker announced) (handler.openBook ticker).1 := by
  unfold openBook
  cases found : handler.tickers.lookup ticker with
  | some index =>
      have member : ticker ∈ announced := (shelves.heard ticker).mpr ⟨index, found⟩
      rw [Finset.insert_eq_of_mem member]
      exact shelves
  | none =>
      have outside : ticker ∉ announced := by
        intro member
        obtain ⟨index, listed⟩ := (shelves.heard ticker).mp member
        rw [found] at listed
        cases listed
      have counted := Finset.card_insert_of_notMem outside
      have length : (handler.orderbooks.map ClientOrderBook.ticker).length = announced.card := by
        rw [List.length_map]
        exact shelves.counted
      constructor
      · intro other index listed
        simp only [List.map_append, List.map_cons, List.map_nil]
        by_cases same : other = ticker
        · subst same
          rw [AList.lookup_insert] at listed
          cases listed
          have last : (UInt16.ofNat ((handler.orderbooks ++
              [ClientOrderBook.ofTicker other]).length - 1)).toNat =
                (handler.orderbooks.map ClientOrderBook.ticker).length := by
            rw [UInt16.toNat_ofNat', List.length_append, List.length_singleton, length,
              shelves.counted]
            omega
          rw [last]
          exact List.getElem?_concat_length
        · rw [AList.lookup_insert_ne same] at listed
          have title := shelves.titled other index listed
          obtain ⟨inside, _same⟩ := List.getElem?_eq_some_iff.mp title
          rw [List.getElem?_append_left inside]
          exact title
      · intro other
        rw [Finset.mem_insert]
        by_cases same : other = ticker
        · subst same
          constructor
          · intro _member
            exact ⟨_, AList.lookup_insert _⟩
          · intro _listed
            exact Or.inl rfl
        · rw [AList.lookup_insert_ne same, ← shelves.heard other]
          exact or_iff_right same
      · rw [List.length_append, List.length_singleton, shelves.counted]
        exact counted.symm

end Shelves

/-! ### The orders of a handler -/

/-- The tracked orders are the live ones. -/
def Matches (orders : AList (fun _ : OrderId => AddOrderData)) (live : LiveOrders) : Prop :=
  ∀ orderId, (orders.lookup orderId).map AddOrderData.liveOrder = live.lookup orderId

section Matches

variable {orders : AList (fun _ : OrderId => AddOrderData)} {live : LiveOrders}
  {orderId : OrderId}

theorem Matches.insert (same : Matches orders live) (orderId : OrderId) {data : AddOrderData}
    {order : LiveOrder} (isOrder : data.liveOrder = order) :
    Matches (orders.insert orderId data) (live.insert orderId order) := by
  intro other
  by_cases here : other = orderId
  · rw [here, AList.lookup_insert, AList.lookup_insert, ← isOrder]
    rfl
  · rw [AList.lookup_insert_ne here, AList.lookup_insert_ne here]
    exact same other

theorem Matches.erase (same : Matches orders live) (orderId : OrderId) :
    Matches (orders.erase orderId) (live.erase orderId) := by
  intro other
  by_cases here : other = orderId
  · rw [here, AList.lookup_erase, AList.lookup_erase]
    rfl
  · rw [AList.lookup_erase_ne here, AList.lookup_erase_ne here]
    exact same other

theorem Matches.live_of_tracked (same : Matches orders live) {data : AddOrderData}
    (found : orders.lookup orderId = some data) : live.lookup orderId = some data.liveOrder := by
  rw [← same orderId, found]
  rfl

theorem Matches.tracked_of_live (same : Matches orders live) {order : LiveOrder}
    (found : live.lookup orderId = some order) : orders.lookup orderId ≠ none := by
  intro absent
  have none := same orderId
  rw [absent, found] at none
  cases none

theorem Matches.untracked (same : Matches orders live) (absent : live.lookup orderId = none) :
    orders.lookup orderId = none := by
  apply Option.map_eq_none_iff.mp
  rw [same orderId]
  exact absent

end Matches

/-- The index of each order is that of its ticker. -/
def Filed (handler : ClientFeedHandler) (orders : AList (fun _ : OrderId => AddOrderData)) :
    Prop :=
  ∀ orderId data, orders.lookup orderId = some data →
    handler.tickers.lookup data.ticker = some data.bookIndex

section Filed

variable {handler : ClientFeedHandler} {orders : AList (fun _ : OrderId => AddOrderData)}

theorem Filed.insert (filed : Filed handler orders) {orderId : OrderId} {inserted : AddOrderData}
    (home : handler.tickers.lookup inserted.ticker = some inserted.bookIndex) :
    Filed handler (orders.insert orderId inserted) := by
  intro other data found
  rcases of_inserted found with ⟨-, isNew⟩ | old
  · rw [isNew]
    exact home
  · exact filed other data old

theorem Filed.erase (filed : Filed handler orders) (orderId : OrderId) :
    Filed handler (orders.erase orderId) := by
  intro other data found
  exact filed other data (of_erased found)

/-- A book that is opened leaves the indices of the tickers that have one. -/
theorem Filed.opened (filed : Filed handler orders) (indexed : Indexed handler)
    (ticker : Ticker) : Filed (handler.openBook ticker).1 orders := by
  have opens := openBook_opens indexed ticker
  intro orderId data found
  have home := filed orderId data found
  by_cases same : data.ticker = ticker
  · unfold openBook
    rw [same] at home ⊢
    rw [home]
    exact home
  · rw [opens.others data.ticker same]
    exact home

end Filed

theorem union_announces_add (announced : Finset Ticker) (newOrder : AddOrderData) :
    announced ∪ (FeedMessage.add newOrder).announces = insert newOrder.ticker announced := by
  rw [Finset.insert_eq, Finset.union_comm]
  rfl

/-- The handler has the books of the announced tickers and tracks the live orders, each under
the index of its ticker. -/
structure Replays (live : LiveOrders) (announced : Finset Ticker) (handler : ClientFeedHandler) :
    Prop where
  inStep : InStep handler
  shelves : Shelves announced handler
  orders : Matches handler.orders live
  homes : ∀ orderId data, handler.orders.lookup orderId = some data →
    handler.tickers.lookup data.ticker = some data.bookIndex

section Replays

variable {live : LiveOrders} {announced : Finset Ticker} {handler next : ClientFeedHandler}

theorem fresh_replays : Replays ∅ ∅ fresh where
  inStep := fresh_inStep
  shelves := fresh_shelves
  orders := fun _ => rfl
  homes := by
    intro orderId data found
    cases found

theorem Opens.inStep {ticker : Ticker} (inStep : InStep handler) :
    InStep (handler.openBook ticker).1 := by
  have opens := openBook_opens inStep.indexed ticker
  refine
    { indexed := inStep.indexed.opened ticker
      positive := ?_
      displays :=
        { sums := ?_
          occupied := ?_ } }
  · intro orderId data found
    rw [opens.orders] at found
    exact inStep.positive orderId data found
  · intro place
    unfold tracked
    rw [opens.entries, opens.orders]
    exact inStep.displays.sums place
  · intro place size found
    rw [opens.entries] at found
    exact inStep.displays.occupied place size found

theorem Replays.opened (replays : Replays live announced handler) (ticker : Ticker)
    (few : (insert ticker announced).card ≤ 65536) :
    Replays live (insert ticker announced) (handler.openBook ticker).1 := by
  have opens := openBook_opens replays.inStep.indexed ticker
  refine
    { inStep := Opens.inStep replays.inStep
      shelves := replays.shelves.opened ticker few
      orders := ?_
      homes := ?_ }
  · rw [opens.orders]
    exact replays.orders
  · rw [opens.orders]
    exact Filed.opened replays.homes replays.inStep.indexed ticker

/-- The totals of a ticker are those of the place of its book. -/
theorem Replays.total_eq (replays : Replays live announced handler) {ticker : Ticker}
    {index : UInt16} (listed : handler.tickers.lookup ticker = some index) (side : BookSide)
    (price : Price) :
    live.total ticker side price =
      handler.tracked
        { index := index.toNat
          side := side
          price := price } := by
  have viewed := tally_view (LiveOrder.amount ticker side price) replays.orders
  unfold LiveOrders.total tracked
  rw [← viewed]
  apply tally_congr
  intro orderId data found
  have home := replays.homes orderId data found
  have same : data.liveOrder.isAt ticker side price ↔
      data.place =
        { index := index.toNat
          side := side
          price := price } := by
    constructor
    · rintro ⟨sameTicker, sameSide, samePrice⟩
      have isTicker : data.ticker = ticker := sameTicker
      rw [isTicker, listed] at home
      cases home
      rw [← sameSide, ← samePrice]
      rfl
    · intro here
      have sameIndex : data.bookIndex.toNat = index.toNat := congrArg Place.index here
      have sameSide : ClientOrderBook.sideOf data.isBuySide = side := congrArg Place.side here
      have samePrice : data.price = price := congrArg Place.price here
      exact ⟨replays.shelves.one_ticker home listed sameIndex, sameSide, samePrice⟩
  unfold LiveOrder.amount amountAt
  simp only [same]
  rfl

theorem Replays.tracked_eq (replays : Replays live announced handler) {orderId : OrderId}
    {data : AddOrderData} (found : handler.orders.lookup orderId = some data) :
    live.totalAt data.liveOrder = handler.tracked data.place :=
  replays.total_eq (replays.homes orderId data found) _ _

/-- A message that the live orders allow stays in step. -/
theorem Replays.stays (replays : Replays live announced handler) {message : FeedMessage}
    (allowed : live.Allows message)
    (few : (announced ∪ message.announces).card ≤ 65536) :
    handler.StaysInStep message := by
  cases message with
  | add newOrder =>
      obtain ⟨absent, room⟩ := allowed
      refine ⟨replays.orders.untracked absent, ?_⟩
      have opens := openBook_opens replays.inStep.indexed newOrder.ticker
      have atMost : (insert newOrder.ticker announced).card ≤ 65536 := by
        rw [Finset.insert_eq, Finset.union_comm]
        exact few
      have opened := replays.opened newOrder.ticker atMost
      have same : live.totalAt newOrder.liveOrder =
          (handler.openBook newOrder.ticker).1.tracked (handler.placeOf newOrder) :=
        opened.total_eq opens.listed _ _
      have kept : (handler.openBook newOrder.ticker).1.tracked (handler.placeOf newOrder) =
          handler.tracked (handler.placeOf newOrder) := by
        unfold tracked
        rw [opens.orders]
      have sum : (live.replay (.add newOrder)).totalAt newOrder.liveOrder =
          newOrder.quantity.toInt + live.totalAt newOrder.liveOrder := totalAt_added absent
      omega
  | modify modifyOrder =>
      obtain ⟨order, lives, room⟩ := allowed
      intro data found
      have isOrder := replays.orders.live_of_tracked found
      rw [lives] at isOrder
      cases isOrder
      have sum : (live.replay (.modify modifyOrder)).totalAt data.liveOrder =
          live.totalAt data.liveOrder - data.quantity.toInt + modifyOrder.quantity.toInt := by
        simp only [LiveOrders.replay, lives]
        exact totalAt_changed lives _
      have same := replays.tracked_eq found
      omega
  | cancel cancelOrder => trivial
  | fill filled =>
      obtain ⟨order, lives, atMost⟩ := allowed
      intro data found
      have isOrder := replays.orders.live_of_tracked found
      rw [lives] at isOrder
      cases isOrder
      exact Or.inl atMost

theorem Replays.kept {orders : AList (fun _ : OrderId => AddOrderData)}
    (replays : Replays live announced handler) (rewrites : Rewrites handler orders next)
    (inStep : InStep next) {after : LiveOrders} (same : Matches orders after)
    (homes : Filed handler orders) : Replays after (announced ∪ ∅) next where
  inStep := inStep
  shelves := by
    rw [Finset.union_empty]
    exact replays.shelves.rewrite rewrites
  orders := by
    rw [rewrites.orders]
    exact same
  homes := by
    rw [rewrites.orders, rewrites.tickers]
    exact homes

theorem Replays.ignored {after : LiveOrders} (replays : Replays live announced handler)
    (same : after = live) : Replays after (announced ∪ ∅) handler := by
  rw [same, Finset.union_empty]
  exact replays

/-- An allowed message is replayed by the handler. -/
theorem Replays.step (replays : Replays live announced handler) {message : FeedMessage}
    (positive : message.Positive) (allowed : live.Allows message)
    (few : (announced ∪ message.announces).card ≤ 65536)
    (does : Does handler message next) :
    Replays (live.replay message) (announced ∪ message.announces) next := by
  have inStep := does.inStep replays.inStep positive (replays.stays allowed few)
  have filed : Filed handler handler.orders := replays.homes
  cases does with
  | adds newOrder next grows rewrites =>
      have absent := replays.orders.untracked allowed.1
      have opens := openBook_opens replays.inStep.indexed newOrder.ticker
      rw [union_announces_add] at few
      have opened := replays.opened newOrder.ticker few
      rw [absent, Option.isSome_none, if_neg Bool.false_ne_true] at rewrites
      rw [union_announces_add, ← Finset.union_empty (insert newOrder.ticker announced)]
      apply opened.kept rewrites inStep
      · exact replays.orders.insert newOrder.orderId rfl
      · exact (filed.opened replays.inStep.indexed newOrder.ticker).insert opens.listed
  | modifiesUnknown modifyOrder unknown =>
      obtain ⟨order, lives, _room⟩ := allowed
      exact absurd unknown (replays.orders.tracked_of_live lives)
  | increases modifyOrder data next found more grows rewrites =>
      have lives := replays.orders.live_of_tracked found
      apply replays.kept rewrites inStep _ (filed.insert (filed _ data found))
      simp only [LiveOrders.replay, lives]
      exact replays.orders.insert modifyOrder.orderId rfl
  | decreases modifyOrder data next found noMore shrinks rewrites =>
      have lives := replays.orders.live_of_tracked found
      apply replays.kept rewrites inStep _ (filed.insert (filed _ data found))
      simp only [LiveOrders.replay, lives]
      exact replays.orders.insert modifyOrder.orderId rfl
  | cancelsUnknown cancelOrder unknown =>
      obtain ⟨order, lives⟩ := Option.ne_none_iff_exists'.mp allowed
      exact absurd unknown (replays.orders.tracked_of_live lives)
  | cancels cancelOrder data next found shrinks rewrites =>
      apply replays.kept rewrites inStep _ (filed.erase cancelOrder.orderId)
      exact replays.orders.erase cancelOrder.orderId
  | fillsUnknown fill unknown =>
      obtain ⟨order, lives, _atMost⟩ := allowed
      exact absurd unknown (replays.orders.tracked_of_live lives)
  | fills filled data next found shrinks rewrites =>
      have lives := replays.orders.live_of_tracked found
      have old := replays.inStep.positive filled.orderId data found
      have used := used_up_iff old positive
      by_cases empty : data.quantity - filled.quantity ≤ 0
      · have all : data.liveOrder.remaining ≤ filled.quantity.toInt := used.mp empty
        rw [if_pos empty] at rewrites
        apply replays.kept rewrites inStep _ (filed.erase filled.orderId)
        simp only [LiveOrders.replay, lives, if_pos all]
        exact replays.orders.erase filled.orderId
      · have some : ¬data.liveOrder.remaining ≤ filled.quantity.toInt := used.not.mp empty
        rw [if_neg empty] at rewrites
        apply replays.kept rewrites inStep _ (filed.insert (filed _ data found))
        simp only [LiveOrders.replay, lives, if_neg some]
        apply replays.orders.insert filled.orderId
        unfold LiveOrder.reduced AddOrderData.liveOrder
        rw [remaining_toInt old positive]

theorem announced_step (announced : Finset Ticker) (sized : SizedMessage)
    (rest : List SizedMessage) :
    announced ∪ tickersOf (sized :: rest) =
      (announced ∪ sized.message.announces) ∪ tickersOf rest :=
  (Finset.union_assoc announced sized.message.announces (tickersOf rest)).symm

/-- A feed of allowed messages is replayed to its end. -/
theorem Replays.run {messages : List SizedMessage} (replays : Replays live announced handler)
    (allowed : Guarded LiveOrders.step (fun live sized => live.Allows sized.message) live
      messages)
    (few : (announced ∪ tickersOf messages).card ≤ 65536) :
    ∃ finish, Machine.run processSized handler messages = .ok finish ∧
      Replays (messages.foldl (fun live sized => live.replay sized.message) live)
        (announced ∪ tickersOf messages) finish := by
  induction messages generalizing live announced handler with
  | nil =>
      refine ⟨handler, rfl, ?_⟩
      change Replays live (announced ∪ ∅) handler
      exact replays.ignored rfl
  | cons sized rest ih =>
      rw [announced_step] at few ⊢
      have fewHere := Nat.le_trans (Finset.card_le_card Finset.subset_union_left) few
      obtain ⟨next, returned, does⟩ := process_does replays.inStep.indexed sized.message
      have follows := replays.step sized.positive allowed.1 fewHere does
      obtain ⟨finish, reached, replaysFinish⟩ := ih follows (allowed.2 _ rfl) few
      refine ⟨finish, ?_, replaysFinish⟩
      simp only [Machine.run, processSized, returned]
      exact reached

end Replays

/-! ### Every well-formed feed -/

/-- The handler mirrors what the messages replay to: there is one book for each announced
ticker, it has an entry for each price with live quantity and no other, and the known orders
are the live ones. -/
structure MirrorsFeed (messages : List SizedMessage) (handler : ClientFeedHandler) : Prop where
  books : ∀ ticker ∈ tickersOf messages, ∃ book,
    handler.subscribe ticker = some book ∧ book.ticker = ticker ∧
      ∀ side price,
        sizeOf ((book.sizes side).lookup price) =
            (replayed messages).total ticker side price ∧
          ((replayed messages).total ticker side price = 0 →
            (book.sizes side).lookup price = none)
  unheard : ∀ ticker, ticker ∉ tickersOf messages → handler.subscribe ticker = none
  orders : ∀ id, (handler.getOrder id).map AddOrderData.liveOrder = (replayed messages).lookup id

theorem Replays.mirrorsFeed {messages : List SizedMessage} {handler : ClientFeedHandler}
    (replays : Replays (replayed messages) (tickersOf messages) handler) :
    MirrorsFeed messages handler where
  books := by
    intro ticker member
    obtain ⟨index, listed⟩ := (replays.shelves.heard ticker).mp member
    obtain ⟨book, there, isTicker⟩ := replays.shelves.book listed
    refine ⟨book, ?_, isTicker, ?_⟩
    · unfold subscribe
      rw [listed]
      exact there
    · intro side price
      have total := replays.total_eq listed side price
      have sum := replays.inStep.displays.sums
        { index := index.toNat
          side := side
          price := price }
      rw [entry_of_book there] at sum
      constructor
      · exact sum.trans total.symm
      · intro nothing
        cases found : (book.sizes side).lookup price with
        | none => rfl
        | some size =>
            have positive := replays.inStep.displays.occupied _ size
              ((entry_of_book there side price).trans found)
            rw [found] at sum
            have isSize : sizeOf (some size) = size.toInt := rfl
            omega
  unheard := by
    intro ticker outside
    unfold subscribe
    cases listed : handler.tickers.lookup ticker with
    | none => rfl
    | some index => exact absurd ((replays.shelves.heard ticker).mpr ⟨index, listed⟩) outside
  orders := replays.orders

/-- After every prefix of a well-formed feed, the handler mirrors its replay. -/
theorem feed_is_replayed (feed : WellFormedFeed) (count : Nat) :
    ∃ handler, run processSized fresh (feed.messages.take count) = .ok handler ∧
      MirrorsFeed (feed.messages.take count) handler := by
  have split := List.take_append_drop count feed.messages
  have allowed := feed.allowed
  rw [← split] at allowed
  have all := tickersOf_append (feed.messages.take count) (feed.messages.drop count)
  rw [split] at all
  have some : tickersOf (feed.messages.take count) ⊆ tickersOf feed.messages := by
    rw [all]
    exact Finset.subset_union_left
  have few : (∅ ∪ tickersOf (feed.messages.take count)).card ≤ 65536 := by
    rw [Finset.empty_union]
    exact Nat.le_trans (Finset.card_le_card some) (Nat.le_of_lt feed.fewTickers)
  obtain ⟨handler, reached, replays⟩ := fresh_replays.run allowed.front few
  rw [Finset.empty_union] at replays
  exact ⟨handler, reached, replays.mirrorsFeed⟩

def firstOrder : AddOrderData :=
  { timestamp := 0
    orderId := 2
    ticker := 1
    price := 100
    quantity := 5
    isBuySide := 1
    bookIndex := 0 }

/-- Two orders at one price of one ticker and one of another ticker; the first is reduced and
filled, the second cancelled. -/
def twoTickersMessages : List SizedMessage :=
  [{ message := .add firstOrder
     positive := by decide },
    { message := .add { firstOrder with orderId := 3 }
      positive := by decide },
    { message := .add { firstOrder with orderId := 4, ticker := 7 }
      positive := by decide },
    { message := .modify { timestamp := 0, orderId := 2, quantity := 3 }
      positive := by decide },
    { message := .fill { timestamp := 0, orderId := 2, ticker := 1, fillId := 0, quantity := 3 }
      positive := by decide },
    { message := .cancel { timestamp := 0, orderId := 3 }
      positive := by decide }]

theorem twoTickers_allowed :
    Guarded LiveOrders.step (fun live sized => live.Allows sized.message) ∅
      twoTickersMessages := by decide +kernel

theorem twoTickers_few : (tickersOf twoTickersMessages).card < 65536 := by decide +kernel

def twoTickers : WellFormedFeed :=
  { messages := twoTickersMessages
    allowed := twoTickers_allowed
    fewTickers := twoTickers_few }

theorem feed_is_replayed_twoTickers :
    ∃ handler, run processSized fresh twoTickers.messages = .ok handler ∧
      MirrorsFeed twoTickers.messages handler :=
  feed_is_replayed twoTickers 6

end ClientFeedHandler

end Client
end SpotExchange
