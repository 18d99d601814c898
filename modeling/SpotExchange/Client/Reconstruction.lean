/-
The market data of a book, fed to a fresh handler. Where no arrival executes anything
and no change in place doubles a quantity, the handler displays the book.
-/

import SpotExchange.Client.Mirror
import SpotExchange.Engine.Representation

namespace SpotExchange
namespace Client

open Engine Wire Allocation Machine
open Engine.OrderBook

/-! ### What the feed tells faithfully -/

/-- An arrival of the book's ticker, of a quantity that fits into 31 bits, which reaches
nothing and whose list has room in a displayed size. -/
def arrivesFaithfully (ticker : Ticker) (book : OrderBook) (order : Order) : Bool :=
  order.ticker == ticker && decide (orderAmount order < 2147483648) && !reaches book order &&
    decide (offered orderAmount
      (book.queueAt (ClientOrderBook.sideOf order.isBuySide) order.price) + orderAmount order <
        9223372036854775808)

/-- A change in place to a quantity that fits into 31 bits, which is no increase or is one
from nothing. -/
def changesFaithfully (book : OrderBook) (modify : Info.ModifyOrder) : Bool :=
  match book.limitOrders.lookup modify.orderId with
  | none => true
  | some limit =>
      decide (modify.quantity.toNat < 2147483648) &&
        (decide (modify.quantity.toNat ≤ orderAmount limit.order) ||
          (decide (orderAmount limit.order = 0) &&
            decide (offered orderAmount
              (book.queueAt (ClientOrderBook.sideOf limit.order.isBuySide) limit.order.price) +
                modify.quantity.toNat < 9223372036854775808)))

def feedsFaithfully (ticker : Ticker) (book : OrderBook) : Request → Bool
  | .add clock order => !book.accepted (.add clock order) || arrivesFaithfully ticker book order
  | .modify clock modify =>
      !book.accepted (.modify clock modify) ||
        if book.repricing modify then arrivesFaithfully ticker book (Order.ofModify modify)
        else changesFaithfully book modify
  | .cancel _ _ => true

section Guards

variable {ticker : Ticker} {book : OrderBook}

structure FaithfulArrival (ticker : Ticker) (book : OrderBook) (side : BookSide) (order : Order) :
    Prop where
  sameTicker : order.ticker = ticker
  small : orderAmount order < 2147483648
  unreached : reaches book order = false
  room : offered orderAmount (book.queueAt side order.price) + orderAmount order <
    9223372036854775808

theorem arrival_of_faithful {side : BookSide} {order : Order}
    (flagged : order.isBuySide = side.flag)
    (faithful : arrivesFaithfully ticker book order = true) :
    FaithfulArrival ticker book side order := by
  have onSide : ClientOrderBook.sideOf order.isBuySide = side := by
    rw [flagged]
    cases side <;> decide
  simp only [arrivesFaithfully, onSide, Bool.and_eq_true, decide_eq_true_iff, beq_iff_eq,
    Bool.not_eq_true'] at faithful
  obtain ⟨⟨⟨sameTicker, small⟩, unreached⟩, room⟩ := faithful
  exact ⟨sameTicker, small, unreached, room⟩

theorem cleanRequest_of_faithful {request : Request}
    (faithful : feedsFaithfully ticker book request = true) :
    book.cleanRequest request = true := by
  cases request with
  | add clock order =>
      simp only [feedsFaithfully, Bool.or_eq_true, Bool.not_eq_true'] at faithful
      simp only [cleanRequest, Bool.or_eq_true]
      rcases faithful with refused | arrives
      · cases present : book.limitOrders.lookup order.orderId with
        | some limit => exact Or.inl rfl
        | none =>
            simp only [accepted, present, Option.isNone_none, Bool.true_and,
              Bool.or_eq_false_iff, beq_eq_false_iff_ne] at refused
            refine Or.inr ?_
            unfold cleanArrival
            rw [if_neg refused.1, if_neg refused.2]
      · refine Or.inr (cleanArrival_unreached ?_)
        simp only [arrivesFaithfully, Bool.and_eq_true, Bool.not_eq_true'] at arrives
        exact arrives.1.2
  | modify clock modify =>
      simp only [feedsFaithfully, Bool.or_eq_true, Bool.not_eq_true'] at faithful
      simp only [cleanRequest, Bool.or_eq_true, Bool.not_eq_true']
      cases moves : book.repricing modify with
      | false => exact Or.inl rfl
      | true =>
          refine Or.inr (cleanArrival_unreached ?_)
          rcases faithful with refused | arrives
          · cases found : book.limitOrders.lookup modify.orderId with
            | none => simp [repricing, found] at moves
            | some limit =>
                simp only [repricing, found, Bool.and_eq_true, beq_iff_eq, bne_iff_ne] at moves
                simp [accepted, found, moves.1.1, moves.1.2, modifyOrderTrivial, moves.2]
                  at refused
          · rw [moves, if_pos rfl] at arrives
            simp only [arrivesFaithfully, Bool.and_eq_true, Bool.not_eq_true'] at arrives
            exact arrives.1.2
  | cancel clock cancel => rfl

/-- A change in place that is told faithfully leaves the requested quantity. -/
theorem modifyInPlace_exact {modify : Info.ModifyOrder} {order : Order}
    (exactly : modify.quantity.toNat ≤ orderAmount order ∨ orderAmount order = 0) :
    modifyInPlace modify order = .ok (order.withQuantity modify.quantity) := by
  unfold modifyInPlace
  by_cases more : order.currentQuantity < modify.quantity
  · have larger := UInt32.lt_iff_toNat_lt.mp more
    have nothing : orderAmount order = 0 := by
      rcases exactly with less | zero
      · exact absurd larger (Nat.not_lt.mpr less)
      · exact zero
    have zero : order.currentQuantity = 0 := (amount_eq_zero_iff order).mp nothing
    rw [if_pos more, Order.increaseQty, zero, UInt32.add_zero, UInt32.zero_add]
  · have below : modify.quantity ≤ order.currentQuantity := UInt32.not_lt.mp more
    have gap : (order.currentQuantity - modify.quantity).toNat =
        order.currentQuantity.toNat - modify.quantity.toNat := UInt32.toNat_sub_of_le _ _ below
    have part : order.currentQuantity - modify.quantity ≤ order.currentQuantity := by
      rw [UInt32.le_iff_toNat_le, gap]
      omega
    have smaller := UInt32.le_iff_toNat_le.mp below
    have left : order.currentQuantity - (order.currentQuantity - modify.quantity) =
        modify.quantity := by
      apply UInt32.toNat_inj.mp
      rw [UInt32.toNat_sub_of_le _ _ part, gap]
      omega
    rw [if_neg more, Order.decreaseQty_of_le part, left]

end Guards

/-! ### Deliveries -/

section Deliveries

variable {ticker : Ticker} {book : OrderBook} {handler : ClientFeedHandler} {request : Request}
  {result : CallResult}

theorem run_single {message : MarketDataResponse} {next : ClientFeedHandler}
    (received : handler.receive message = .ok next) :
    run ClientFeedHandler.receive handler [message] = .ok next := by
  simp only [run, received]

/-- The market data of an arrival that reaches nothing: the added order. -/
theorem arrival_marketData {clock : Nat → Int64} {side : BookSide} {order left : Order}
    (flagged : order.isBuySide = side.flag) (unreached : reaches book order = false)
    (arrives : Arrived clock book side order
      (sweepOrders side.opposite order (book.queuesOf side.opposite)) left result) :
    marketDataOf result.emitted =
      [.add
        { timestamp := (clock 0).toUInt64
          orderId := order.orderId
          ticker := order.ticker
          price := order.price
          quantity := order.currentQuantity
          isBuySide := order.isBuySide != 0 }] := by
  have residual := arrives.residual
  have emitted := arrives.emitted
  rw [sweepOrders_unreached (possibleMatches_unreached flagged unreached)] at residual emitted
  rw [withQuantity_amount] at residual
  rw [emitted, residual]
  rfl

/-- An arrival that is told faithfully is mirrored. -/
theorem Mirrors.arrival {clock : Nat → Int64} {side : BookSide} {order left : Order}
    (wellFormed : book.WellFormed) (mirrors : Mirrors ticker book.queueAt handler)
    (absent : ∀ side price, order.orderId ∉ orderIds (book.queueAt side price))
    (flagged : order.isBuySide = side.flag)
    (faithful : FaithfulArrival ticker book side order)
    (arrives : Arrived clock book side order
      (sweepOrders side.opposite order (book.queuesOf side.opposite)) left result) :
    ∃ next, run ClientFeedHandler.receive handler (marketDataOf result.emitted) = .ok next ∧
      Mirrors ticker result.book.queueAt next := by
  obtain ⟨next, received, after⟩ := mirrors.add absent flagged faithful.sameTicker faithful.small
    faithful.room (clock 0).toUInt64
  rw [arrival_marketData flagged faithful.unreached arrives,
    arrival_view wellFormed flagged faithful.unreached arrives]
  exact ⟨next, run_single received, after⟩

/-- The cancelled order moves no other list, and leaves room on its own. -/
theorem FaithfulArrival.without {without : OrderBook} {side : BookSide} {order : Order}
    {limit : Limit} (wellFormed : book.WellFormed)
    (found : book.limitOrders.lookup order.orderId = some limit)
    (dropped : without.Represents (BookView.drop book.queueAt order.orderId))
    (flagged : order.isBuySide = side.flag)
    (newPrice : order.price ≠ limit.order.price)
    (sameQueues : without.queuesOf side.opposite = book.queuesOf side.opposite)
    (faithful : FaithfulArrival ticker book side order) :
    FaithfulArrival ticker without side order where
  sameTicker := faithful.sameTicker
  small := faithful.small
  unreached := by
    have sameBest : (without.levels side.opposite).begin? = (book.levels side.opposite).begin? := by
      have prices : ∀ other : OrderBook, (other.queuesOf side.opposite).map Prod.fst =
          (other.levels side.opposite).keys := by
        intro other
        rw [queuesOf, List.map_map]
        exact List.map_id _
      have keys : (without.levels side.opposite).keys = (book.levels side.opposite).keys := by
        rw [← prices, ← prices, sameQueues]
      unfold Collections.OrderedMap.begin?
      rw [← List.head?_map, ← List.head?_map]
      exact congrArg List.head? keys
    have possible := possibleMatches_unreached flagged faithful.unreached
    have stays : possibleMatches side.opposite (without.levels side.opposite) order = false :=
      (possibleMatches_congr sameBest order).trans possible
    unfold reaches
    cases side with
    | asks =>
        have zero : order.isBuySide = 0 := flagged
        rw [if_neg (by rw [zero]; decide), if_pos zero]
        exact stays
    | bids =>
        have one : order.isBuySide = 1 := flagged
        rw [if_pos one]
        exact stays
  room := by
    have apart : order.orderId ∉ orderIds (book.queueAt side order.price) := by
      intro inside
      obtain ⟨item, member, sameId⟩ := List.mem_map.mp inside
      obtain ⟨_other, _flag, rests, restingId⟩ := wellFormed.flag_of_lookup found
      have place := wellFormed.unique member rests (sameId.trans restingId.symm)
      exact newPrice place.2.1
    have sameList : without.queueAt side order.price = book.queueAt side order.price := by
      rw [dropped.queueAt_eq]
      exact drop_absent apart
    rw [sameList]
    exact faithful.room

/-- The market data of a call that is told faithfully is mirrored. -/
theorem Mirrors.call (wellFormed : book.WellFormed) (mirrors : Mirrors ticker book.queueAt handler)
    (faithful : feedsFaithfully ticker book request = true)
    (effect : Effect book request result) :
    ∃ next, run ClientFeedHandler.receive handler (marketDataOf result.emitted) = .ok next ∧
      Mirrors ticker result.book.queueAt next := by
  cases effect with
  | ignored _ _ _ sameBook _ silent =>
      rw [silent, sameBook]
      exact ⟨handler, rfl, mirrors⟩
  | added clock order left side _ taken fresh flagged arrives =>
      have arrival : arrivesFaithfully ticker book order = true := by
        simpa only [feedsFaithfully, taken, Bool.not_true, Bool.false_or] using faithful
      exact mirrors.arrival wellFormed (notMem_of_lookup_none wellFormed fresh) flagged
        (arrival_of_faithful flagged arrival) arrives
  | cancelled clock cancel limit _ _ found _ _ emitted dropped =>
      obtain ⟨side, _flag, member, sameId⟩ := wellFormed.flag_of_lookup found
      obtain ⟨next, received, after⟩ := mirrors.cancel wellFormed member (clock 0).toUInt64
      rw [emitted, dropped.queueAt_eq]
      rw [sameId] at received after
      exact ⟨next, run_single received, after⟩
  | changed clock modify limit order _ taken found owner sameSide samePrice changes _ emitted
      replaced =>
      obtain ⟨side, flag, member, sameId⟩ := wellFormed.flag_of_lookup found
      have stays : book.repricing modify = false := by
        simp [repricing_of_price found owner sameSide, samePrice]
      have onSide : ClientOrderBook.sideOf limit.order.isBuySide = side := by
        rw [flag]
        cases side <;> decide
      simp only [feedsFaithfully, taken, stays, changesFaithfully, found, onSide, Bool.not_true,
        Bool.false_or, Bool.false_eq_true, if_false, Bool.and_eq_true, Bool.or_eq_true,
        decide_eq_true_iff] at faithful
      obtain ⟨small, cases⟩ := faithful
      have exactly : order = limit.order.withQuantity modify.quantity := by
        have returned := modifyInPlace_exact (cases.imp id And.left)
        rw [returned] at changes
        exact (Except.ok.inj changes).symm
      have room : orderAmount limit.order < modify.quantity.toNat →
          offered orderAmount (book.queueAt side limit.order.price) + modify.quantity.toNat <
            9223372036854775808 + orderAmount limit.order := by
        intro more
        rcases cases with less | ⟨_nothing, fits⟩
        · omega
        · omega
      obtain ⟨next, received, after⟩ := mirrors.modify wellFormed member small room 0
      rw [emitted, replaced.queueAt_eq, exactly]
      rw [sameId] at received
      exact ⟨next, run_single received, after⟩
  | repriced clock modify limit side without left arrival _ taken found owner sameSide newPrice
      flagged dropped sameQueues arrives sameBook _ emitted =>
      obtain ⟨_side, _flag, member, sameId⟩ := wellFormed.flag_of_lookup found
      have moves : book.repricing modify = true := by
        simp [repricing_of_price found owner sameSide, newPrice]
      have told : arrivesFaithfully ticker book (Order.ofModify modify) = true := by
        simpa only [feedsFaithfully, taken, moves, Bool.not_true, Bool.false_or, if_true]
          using faithful
      obtain ⟨between, received, cancelled⟩ :=
        mirrors.cancel wellFormed member (clock 0).toUInt64
      rw [sameId] at received cancelled
      rw [← dropped.queueAt_eq] at cancelled
      have absent : ∀ other price, (Order.ofModify modify).orderId ∉
          orderIds (without.queueAt other price) := by
        intro other price inside
        rw [dropped.queueAt_eq] at inside
        obtain ⟨item, dropMember, itemId⟩ := List.mem_map.mp inside
        exact (mem_drop.mp dropMember).2 itemId
      have whole := @arrival_of_faithful ticker book side (Order.ofModify modify) flagged told
      have part := @FaithfulArrival.without ticker book without side (Order.ofModify modify) limit
        wellFormed found dropped flagged newPrice sameQueues whole
      obtain ⟨next, receivedAll, after⟩ :=
        cancelled.arrival dropped.wellFormed absent flagged part arrives
      refine ⟨next, ?_, by rw [sameBook]; exact after⟩
      rw [emitted]
      have message : handler.receive (.cancel
          { timestamp := (clock 0).toUInt64
            orderId := modify.orderId }) = .ok between := received
      simp only [marketDataOf, sendOrderCancelledToDispatcher, run, Info.CancelOrder.ofModify,
        message]
      exact receivedAll

end Deliveries

/-! ### A book and what it has published -/

/-- A book, and the market data it has handed to the dispatcher since it was empty. -/
structure Published where
  book : OrderBook
  feed : List MarketDataResponse

namespace Published

def start (ticker : Ticker) : Published :=
  { book := empty ticker
    feed := [] }

def step (state : Published) (request : Request) : Except Fault Published :=
  (state.book.call request).map (fun result =>
    { book := result.book
      feed := state.feed ++ marketDataOf result.emitted })

theorem step_simulates (state : Published) (request : Request) (next : Published)
    (returned : state.step request = .ok next) :
    state.book.step request = .ok next.book := by
  obtain ⟨result, called, same⟩ := map_eq_ok returned
  rw [← same, OrderBook.step, called]
  rfl

/-- A fresh handler that receives the feed mirrors the book. -/
structure Followed (ticker : Ticker) (state : Published) : Prop where
  wellFormed : state.book.WellFormed
  followed : ∃ handler, run ClientFeedHandler.receive ClientFeedHandler.fresh state.feed =
      .ok handler ∧ Mirrors ticker state.book.queueAt handler

theorem start_followed (ticker : Ticker) : Followed ticker (start ticker) where
  wellFormed := empty_wellFormed ticker
  followed := by
    refine ⟨ClientFeedHandler.fresh, rfl, Or.inl ⟨rfl, ?_⟩⟩
    intro side price
    cases side <;> rfl

theorem step_followed (ticker : Ticker) (state : Published) (request : Request)
    (followed : Followed ticker state)
    (faithful : feedsFaithfully ticker state.book request = true) :
    ∃ next, state.step request = .ok next ∧ Followed ticker next := by
  obtain ⟨result, called, effect⟩ :=
    call_effect followed.wellFormed (cleanRequest_of_faithful faithful)
  obtain ⟨handler, received, mirrors⟩ := followed.followed
  obtain ⟨next, receives, after⟩ := mirrors.call followed.wellFormed faithful effect
  refine ⟨{ book := result.book
            feed := state.feed ++ marketDataOf result.emitted }, ?_, ?_⟩
  · unfold step
    rw [called]
    rfl
  · exact
      { wellFormed := effect.wellFormed followed.wellFormed
        followed := ⟨next, (run_append received _).trans receives, after⟩ }

end Published

/-- For each side and price the handler displays the sum of the orders of the level, and
nothing where there is no level. -/
structure Reconstructs (ticker : Ticker) (book : OrderBook) (handler : ClientFeedHandler) :
    Prop where
  sums : ∀ side price level, (book.levels side).find? price = some level →
    sizeOf (handler.displayed ticker side price) =
      (offered orderAmount (book.queueAt side price) : Int)
  nothing : ∀ side price, (book.levels side).find? price = none →
    handler.displayed ticker side price = none

/-- Every call of the run is told faithfully by its market data. -/
def FaithfulRun (ticker : Ticker) (requests : List Request) : Prop :=
  Guarded OrderBook.step (fun book request => feedsFaithfully ticker book request = true)
    (empty ticker) requests

instance FaithfulRun.decidable (ticker : Ticker) (requests : List Request) :
    Decidable (FaithfulRun ticker requests) :=
  inferInstanceAs (Decidable (Guarded OrderBook.step
    (fun book request => feedsFaithfully ticker book request = true) (empty ticker) requests))

/-- A fresh handler that receives the market data of such a run displays the book. -/
theorem faithfulRun_reconstructs (ticker : Ticker) (requests : List Request)
    (faithful : FaithfulRun ticker requests) :
    ∃ state handler, run Published.step (Published.start ticker) requests = .ok state ∧
      run ClientFeedHandler.receive ClientFeedHandler.fresh state.feed = .ok handler ∧
      Reconstructs ticker state.book handler := by
  have guarded := @Guarded.lift _ _ _ OrderBook.step _ Published Published.step Published.book
    Published.step_simulates (Published.start ticker) _ faithful
  obtain ⟨state, reached, followed⟩ :=
    Guarded.returns (Published.step_followed ticker) (Published.start_followed ticker) guarded
  obtain ⟨handler, received, mirrors⟩ := followed.followed
  refine ⟨state, handler, reached, received, ?_, ?_⟩
  · intro side price _level _found
    exact (mirrors.displayed side price).1
  · intro side price none
    exact (mirrors.displayed side price).2 (followed.wellFormed.absent side price none)

theorem calmRun_reconstructs :
    ∃ state handler, run Published.step (Published.start 1) calmRun = .ok state ∧
      run ClientFeedHandler.receive ClientFeedHandler.fresh state.feed = .ok handler ∧
      Reconstructs 1 state.book handler :=
  faithfulRun_reconstructs 1 calmRun (by decide +kernel)

/-- An offer of ten, of which four are bought. -/
def partlyBoughtRun : List Request :=
  [.add (fun _ => 0) (Order.create 0 1 100 10 { orderId := 1, userId := 1, ticker := 1 }),
    .add (fun _ => 0) (Order.create 1 2 100 4 { orderId := 2, userId := 2, ticker := 1 })]

/-- The book has six left at 100, and the client displays ten. -/
theorem partlyBoughtRun_misleads :
    ∃ state handler, run Published.step (Published.start 1) partlyBoughtRun = .ok state ∧
      run ClientFeedHandler.receive ClientFeedHandler.fresh state.feed = .ok handler ∧
      ¬Reconstructs 1 state.book handler := by
  have evaluated : (run Published.step (Published.start 1) partlyBoughtRun).toOption.map
      (fun state => (((state.book.levels .asks).find? 100).isSome,
        offered orderAmount (state.book.queueAt .asks 100),
        (run ClientFeedHandler.receive ClientFeedHandler.fresh state.feed).toOption.map
          (fun handler => sizeOf (handler.displayed 1 .asks 100)))) =
      some (true, 6, some 10) := by decide +kernel
  obtain ⟨state, reached, seen⟩ := returns_of_view evaluated
  obtain ⟨occupied, seen⟩ := Prod.mk.inj seen
  obtain ⟨rests, shown⟩ := Prod.mk.inj seen
  obtain ⟨handler, received, displays⟩ := returns_of_view shown
  refine ⟨state, handler, reached, received, ?_⟩
  intro reconstructs
  obtain ⟨level, found⟩ := Option.isSome_iff_exists.mp occupied
  have sum := reconstructs.sums .asks 100 level found
  rw [displays, rests] at sum
  exact absurd sum (by decide)

end Client
end SpotExchange
