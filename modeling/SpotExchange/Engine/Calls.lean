/-
What each call does to a well-formed book, in terms of its lists. A call after which
some order has stopped cleanly leaves a well-formed book.
-/

import SpotExchange.Engine.Fills
import SpotExchange.Engine.Placement

namespace SpotExchange
namespace Engine

open Collections Allocation Machine Wire

def BookSide.opposite : BookSide → BookSide
  | .asks => .bids
  | .bids => .asks

theorem BookSide.opposite_ne (side : BookSide) : side.opposite ≠ side := by
  cases side <;> decide

namespace BookView

/-- The lists of one side are replaced. -/
def swept (view : BookView) (side : BookSide) (queues : Queues) : BookView :=
  fun other price => if other = side then queueIn queues price else view other price

/-- The lists after an order has arrived: what the sweep leaves of the opposite side,
and the order at the end of its list unless it ran out inside a level. -/
def arrived (view : BookView) (side : BookSide) (order : Order)
    (result : SweepResult Price Order) : BookView :=
  if result.filled then view.swept side.opposite result.levels
  else
    (view.swept side.opposite result.levels).append side
      (order.withQuantity (UInt32.ofNat result.left))

end BookView

namespace OrderBook

variable {book : OrderBook} {clock : Nat → Int64}

/-! ### Lists by side -/

theorem WellFormed.mem_keys_iff (wellFormed : book.WellFormed) (side : BookSide)
    (price : Price) : price ∈ (book.levels side).keys ↔ book.queueAt side price ≠ [] := by
  rw [← OrderedMap.find?_isSome_iff]
  cases found : (book.levels side).find? price with
  | none => simp [wellFormed.absent side price found]
  | some level => simp [(wellFormed.level side price level found).occupied]

/-- Books with the same lists on a side have the same queues there. -/
theorem queuesOf_congr {other : OrderBook} (wellFormed : book.WellFormed)
    (otherWellFormed : other.WellFormed) {side : BookSide}
    (same : ∀ price, other.queueAt side price = book.queueAt side price) :
    other.queuesOf side = book.queuesOf side := by
  have keys : (other.levels side).keys = (book.levels side).keys := by
    refine OrderedMap.keys_eq_of_mem_iff ?_
    intro price
    rw [otherWellFormed.mem_keys_iff, wellFormed.mem_keys_iff, same]
  unfold queuesOf
  rw [keys]
  refine List.map_congr_left ?_
  intro price _key
  rw [same]

/-! ### Matching -/

theorem sweep_prices_sublist (acceptable : Price → Bool) (wanted : Nat) (queues : Queues) :
    ((sweep orderAmount reduceOrder acceptable wanted queues).levels.map Prod.fst).Sublist
      (queues.map Prod.fst) := by
  induction queues generalizing wanted with
  | nil => exact List.Sublist.refl []
  | cons queue rest ih =>
      obtain ⟨price, items⟩ := queue
      cases accepted : acceptable price with
      | false => rw [sweep_refused rest accepted]
      | true =>
          by_cases stopped : (fillQueue orderAmount reduceOrder wanted items).left = 0
          · rw [sweep_stopped rest accepted stopped]
            unfold keepLevel
            split
            · exact List.sublist_cons_self _ _
            · exact List.Sublist.refl _
          · rw [sweep_passed rest accepted stopped]
            exact (ih _).trans (List.sublist_cons_self _ _)

theorem queuesOf_prices_nodup (book : OrderBook) (side : BookSide) :
    ((book.queuesOf side).map Prod.fst).Nodup := by
  have prices : (book.queuesOf side).map Prod.fst = (book.levels side).keys := by
    rw [queuesOf, List.map_map]
    exact List.map_id _
  rw [prices]
  exact (book.levels side).keys_nodup

/-- The book that a clean match leaves, before the order is placed. -/
theorem match_represents (wellFormed : book.WellFormed) (side : BookSide) (order : Order)
    (clean : cleanSweep side order (book.queuesOf side) = true) :
    ∃ outcome, FifoMatcher.fifoMatch clock order (book.levels side) book.limitOrders =
        .ok outcome ∧
      Matched clock order (book.levels side) book.limitOrders (book.queuesOf side) outcome
        (sweepOrders side order (book.queuesOf side)) ∧
      OrderBook.Represents
        { book.setLevels side outcome.book with limitOrders := outcome.limitbook }
        (BookView.swept book.queueAt side
          (sweepOrders side order (book.queuesOf side)).levels) := by
  have held := wellFormed.entries_eq side
  have distinct := wellFormed.ids_nodup side
  obtain ⟨outcome, returned, matched⟩ :=
    @fifoMatch_spec side clock order (book.levels side) book.limitOrders (book.queuesOf side) held
      distinct
  have after : Holds side outcome.limitbook outcome.book.entries
      (sweepOrders side order (book.queuesOf side)).levels := by
    rw [matched.entries]
    exact settled_holds held clean matched.linked
  have frame : ∀ other price, other ≠ side → ∀ orderId ∈ orderIds (book.queueAt other price),
      outcome.limitbook.lookup orderId = book.limitOrders.lookup orderId := by
    intro other price different orderId member
    refine matched.frame orderId ?_
    intro inside
    obtain ⟨otherPrice, otherMember⟩ := wellFormed.mem_allIds_queuesOf.mp inside
    obtain ⟨first, firstMember, firstSame⟩ := List.mem_map.mp member
    obtain ⟨second, secondMember, secondSame⟩ := List.mem_map.mp otherMember
    exact different
      (wellFormed.unique firstMember secondMember (firstSame.trans secondSame.symm)).1
  refine ⟨outcome, returned, matched, ?_, ?_, ?_, ?_⟩
  · intro other price level found
    rw [levels_limitOrders] at found
    by_cases same : other = side
    · subst same
      rw [levels_setLevels_self] at found
      rw [BookView.swept, if_pos rfl, queueIn]
      have inEntries : OrderedMap.lookupIn price outcome.book.entries = some level := found
      rcases after.lookupIn price with ⟨noEntry, _noQueue⟩ | ⟨_level, orders, entry, queue, holds⟩
      · rw [noEntry] at inEntries
        cases inEntries
      · rw [entry] at inEntries
        cases inEntries
        rw [queue]
        exact holds
    · rw [levels_setLevels_of_ne book same] at found
      rw [BookView.swept, if_neg same]
      exact (wellFormed.level other price level found).frame (frame other price same)
  · intro other price absent
    rw [levels_limitOrders] at absent
    by_cases same : other = side
    · subst same
      rw [levels_setLevels_self] at absent
      rw [BookView.swept, if_pos rfl, queueIn]
      have notInEntries : OrderedMap.lookupIn price outcome.book.entries = none := absent
      rcases after.lookupIn price with ⟨_noEntry, noQueue⟩ | ⟨_level, orders, entry, _queue, _holds⟩
      · rw [noQueue]
        rfl
      · rw [entry] at notInEntries
        cases notInEntries
    · rw [levels_setLevels_of_ne book same] at absent
      rw [BookView.swept, if_neg same]
      exact wellFormed.absent other price absent
  · intro other price
    by_cases same : other = side
    · rw [BookView.swept, if_pos same]
      exact queueIn_nodup (allIds_sweepOrders_nodup distinct) price
    · rw [BookView.swept, if_neg same]
      exact wellFormed.distinct other price
  · intro orderId limit found
    have found' : outcome.limitbook.lookup orderId = some limit := found
    by_cases here : orderId ∈ allIds (book.queuesOf side)
    · have stays : orderId ∈ allIds (sweepOrders side order (book.queuesOf side)).levels := by
        by_contra removed
        rw [matched.gone orderId here removed] at found'
        cases found'
      obtain ⟨queue, present, inside⟩ := mem_allIds.mp stays
      refine ⟨side, queue.1, ?_⟩
      have pricesNodup :
          ((sweepOrders side order (book.queuesOf side)).levels.map Prod.fst).Nodup :=
        (queuesOf_prices_nodup book side).sublist (sweep_prices_sublist _ _ (book.queuesOf side))
      rw [BookView.swept, if_pos rfl, queueIn_of_mem pricesNodup present]
      exact inside
    · rw [matched.frame orderId here] at found'
      obtain ⟨other, price, member⟩ := wellFormed.resting orderId limit found'
      have different : other ≠ side := by
        intro same
        rw [same] at member
        exact here (wellFormed.mem_allIds_queuesOf.mpr ⟨price, member⟩)
      refine ⟨other, price, ?_⟩
      rw [BookView.swept, if_neg different]
      exact member

/-! ### Arrivals -/

/-- What an order that is let in does to a well-formed book. -/
structure Arrived (clock : Nat → Int64) (book : OrderBook) (side : BookSide) (order : Order)
    (swept : SweepResult Price Order) (left : Order) (result : CallResult) : Prop where
  residual : left = order.withQuantity (UInt32.ofNat swept.left)
  executions : result.executions = swept.taken.map (executionOf order.orderId)
  emitted : result.emitted =
    communicateMatchResults
        { fills := fillsFrom clock 0 order swept.taken
          orderFilled := swept.filled } left ++
      if swept.filled then []
      else [sendOrderAddedToDispatcher clock (fillsFrom clock 0 order swept.taken).length left]
  represents : result.book.Represents (BookView.arrived book.queueAt side order swept)

theorem WellFormed.swept_self (wellFormed : book.WellFormed) (side : BookSide) :
    BookView.swept book.queueAt side (book.queuesOf side) = book.queueAt := by
  funext other price
  unfold BookView.swept
  by_cases same : other = side
  · subst same
    rw [if_pos rfl, wellFormed.queueIn_queuesOf]
  · rw [if_neg same]

theorem accepts_of_possibleMatches {side : BookSide} {sidebook : SideBook side} {order : Order}
    (possible : possibleMatches side sidebook order = true) :
    ∃ price, sidebook.begin? = some price ∧ accepts side order.price price = true := by
  unfold possibleMatches at possible
  cases first : sidebook.begin? with
  | none =>
      rw [first] at possible
      cases possible
  | some price =>
      rw [first] at possible
      refine ⟨price, rfl, ?_⟩
      cases side with
      | asks =>
          have reached : price ≤ order.price := of_decide_eq_true possible
          simp [accepts, FifoMatcher.noMatchingLevel, UInt64.not_lt.mpr reached]
      | bids =>
          have reached : order.price ≤ price := of_decide_eq_true possible
          simp [accepts, FifoMatcher.noMatchingLevel, UInt64.not_lt.mpr reached]

theorem refused_of_possibleMatches {side : BookSide} {sidebook : SideBook side} {order : Order}
    (impossible : possibleMatches side sidebook order = false) {price : Price}
    (first : sidebook.begin? = some price) : accepts side order.price price = false := by
  unfold possibleMatches at impossible
  rw [first] at impossible
  cases side with
  | asks =>
      have out : order.price < price := UInt64.not_le.mp (of_decide_eq_false impossible)
      simp [accepts, FifoMatcher.noMatchingLevel, out]
  | bids =>
      have out : price < order.price := UInt64.not_le.mp (of_decide_eq_false impossible)
      simp [accepts, FifoMatcher.noMatchingLevel, out]

theorem queuesOf_front {side : BookSide} {price : Price}
    (first : (book.levels side).begin? = some price) :
    ∃ rest, book.queuesOf side = (price, book.queueAt side price) :: rest := by
  unfold OrderedMap.begin? at first
  unfold queuesOf OrderedMap.keys
  cases front : (book.levels side).entries with
  | nil =>
      rw [front] at first
      cases first
  | cons entry rest =>
      rw [front] at first
      cases first
      exact ⟨_, rfl⟩

theorem queuesOf_nil {side : BookSide} (first : (book.levels side).begin? = none) :
    book.queuesOf side = [] := by
  unfold OrderedMap.begin? at first
  unfold queuesOf OrderedMap.keys
  rw [List.map_eq_nil_iff, List.map_eq_nil_iff]
  exact List.head?_eq_none_iff.mp (Option.map_eq_none_iff.mp first)

/-- Nothing is within reach: the sweep is empty. -/
theorem sweepOrders_unreached {side : BookSide} {order : Order}
    (impossible : possibleMatches side (book.levels side) order = false) :
    sweepOrders side order (book.queuesOf side) =
      { taken := []
        left := orderAmount order
        levels := book.queuesOf side
        filled := false } := by
  cases first : (book.levels side).begin? with
  | none =>
      rw [queuesOf_nil first]
      rfl
  | some price =>
      obtain ⟨rest, front⟩ := @queuesOf_front book side price first
      rw [front]
      exact sweep_refused rest (refused_of_possibleMatches impossible first)

theorem cleanSweep_unreached {side : BookSide} {order : Order}
    (impossible : possibleMatches side (book.levels side) order = false) :
    cleanSweep side order (book.queuesOf side) = true := by
  unfold cleanSweep
  cases first : (book.levels side).begin? with
  | none =>
      rw [queuesOf_nil first]
      rfl
  | some price =>
      obtain ⟨rest, front⟩ := @queuesOf_front book side price first
      have refused := refused_of_possibleMatches impossible first
      rw [front]
      simp only [stopsCleanly, refused, Bool.false_eq_true, if_false]

theorem withQuantity_amount (order : Order) :
    order.withQuantity (UInt32.ofNat (orderAmount order)) = order := by
  rw [orderAmount, UInt32.ofNat_toNat]
  exact Order.withQuantity_self order

/-- An order that reaches nothing goes to the end of its list. -/
theorem addOrderTo_unreached (wellFormed : book.WellFormed) {side : BookSide} {order : Order}
    (fresh : book.limitOrders.lookup order.orderId = none)
    (flagged : order.isBuySide = side.flag)
    (impossible : possibleMatches side.opposite (book.levels side.opposite) order = false) :
    ∃ left result, addOrderTo clock book order side.opposite side = .ok (left, result) ∧
      Arrived clock book side order
        (sweepOrders side.opposite order (book.queuesOf side.opposite)) left result := by
  obtain ⟨after, places, represents⟩ := placeOrder_represents wellFormed fresh flagged
  refine ⟨order,
    { book := after
      executions := []
      emitted := [] ++ [sendOrderAddedToDispatcher clock 0 order] }, ?_, ?_⟩
  · unfold addOrderTo restOrder
    rw [if_neg (by rw [impossible]; exact Bool.false_ne_true), places]
    rfl
  · rw [sweepOrders_unreached impossible]
    refine ⟨(withQuantity_amount order).symm, rfl, rfl, ?_⟩
    have arrives : BookView.arrived book.queueAt side order
        { taken := []
          left := orderAmount order
          levels := book.queuesOf side.opposite
          filled := false } = BookView.append book.queueAt side order := by
      unfold BookView.arrived
      rw [if_neg Bool.false_ne_true, wellFormed.swept_self, withQuantity_amount]
    rw [arrives]
    exact represents

/-- An order that reaches the opposite side is matched against it first. -/
theorem addOrderTo_reached (wellFormed : book.WellFormed) {side : BookSide} {order : Order}
    (fresh : book.limitOrders.lookup order.orderId = none)
    (flagged : order.isBuySide = side.flag)
    (clean : cleanSweep side.opposite order (book.queuesOf side.opposite) = true)
    (possible : possibleMatches side.opposite (book.levels side.opposite) order = true) :
    ∃ left result, addOrderTo clock book order side.opposite side = .ok (left, result) ∧
      Arrived clock book side order
        (sweepOrders side.opposite order (book.queuesOf side.opposite)) left result := by
  obtain ⟨outcome, returned, matched, represents⟩ :=
    @match_represents book clock wellFormed side.opposite order clean
  obtain ⟨price, first, accepted⟩ := accepts_of_possibleMatches possible
  obtain ⟨rest, front⟩ := queuesOf_front first
  have filledIff : (sweepOrders side.opposite order (book.queuesOf side.opposite)).filled = true ↔
      (sweepOrders side.opposite order (book.queuesOf side.opposite)).left = 0 := by
    rw [front]
    exact sweep_filled_iff_of_accepted rest accepted
  have usedIff : (outcome.order.currentQuantity == 0) = true ↔
      (sweepOrders side.opposite order (book.queuesOf side.opposite)).left = 0 := by
    rw [beq_iff_eq, ← amount_eq_zero_iff, matched.orderAmount_eq]
  have fills : outcome.matchResult =
      { fills := fillsFrom clock 0 order
          (sweepOrders side.opposite order (book.queuesOf side.opposite)).taken
        orderFilled := (sweepOrders side.opposite order (book.queuesOf side.opposite)).filled } := by
    rw [← matched.fills_eq, ← matched.filled]
  have outside : order.orderId ∉ allIds (book.queuesOf side.opposite) := by
    intro member
    obtain ⟨otherPrice, inside⟩ := wellFormed.mem_allIds_queuesOf.mp member
    exact notMem_of_lookup_none wellFormed fresh _ otherPrice inside
  unfold addOrderTo
  rw [if_pos possible, returned]
  simp only [ok_bind]
  by_cases used : (outcome.order.currentQuantity == 0) = true
  · have filled := filledIff.mpr (usedIff.mp used)
    rw [if_pos used]
    refine ⟨_, _, rfl, matched.residual, matched.executed, ?_, ?_⟩
    · rw [fills, if_pos filled, List.append_nil]
    · unfold BookView.arrived
      rw [if_pos filled]
      exact represents
  · have notFilled : ¬(sweepOrders side.opposite order (book.queuesOf side.opposite)).filled = true :=
      fun filled => used (usedIff.mpr (filledIff.mp filled))
    have sameId : outcome.order.orderId = order.orderId := by
      rw [matched.residual]
      rfl
    have sameFlag : outcome.order.isBuySide = side.flag := by
      rw [matched.residual]
      exact flagged
    have freshAfter : outcome.limitbook.lookup outcome.order.orderId = none := by
      rw [sameId, matched.frame order.orderId outside]
      exact fresh
    obtain ⟨after, places, represented⟩ :=
      placeOrder_represents represents freshAfter sameFlag
    rw [if_neg used]
    unfold restOrder
    rw [places]
    refine ⟨_, _, rfl, matched.residual, matched.executed, ?_, ?_⟩
    · rw [if_neg notFilled, ← matched.fills_eq, fills]
    · unfold BookView.arrived
      rw [if_neg notFilled, ← matched.residual]
      exact represented

theorem addOrder_routed {side : BookSide} {order : Order}
    (fresh : book.limitOrders.lookup order.orderId = none)
    (flagged : order.isBuySide = side.flag) :
    addOrder clock book order = addOrderTo clock book order side.opposite side := by
  unfold addOrder
  rw [if_neg (by rw [fresh]; exact Bool.false_ne_true)]
  cases side with
  | asks =>
      have zero : order.isBuySide = 0 := flagged
      rw [if_neg (by rw [zero]; decide), if_pos zero]
      rfl
  | bids =>
      have one : order.isBuySide = 1 := flagged
      rw [if_pos one]
      rfl

/-- An add with a fresh id and a side. -/
theorem addOrder_arrives (wellFormed : book.WellFormed) {side : BookSide} {order : Order}
    (fresh : book.limitOrders.lookup order.orderId = none)
    (flagged : order.isBuySide = side.flag)
    (clean : cleanSweep side.opposite order (book.queuesOf side.opposite) = true) :
    ∃ left result, addOrder clock book order = .ok (left, result) ∧
      Arrived clock book side order
        (sweepOrders side.opposite order (book.queuesOf side.opposite)) left result := by
  rw [addOrder_routed fresh flagged]
  cases possible : possibleMatches side.opposite (book.levels side.opposite) order with
  | true => exact addOrderTo_reached wellFormed fresh flagged clean possible
  | false => exact addOrderTo_unreached wellFormed fresh flagged possible

/-! ### Calls and their effects -/

/-- An order that arrives on its side stops cleanly. -/
def cleanArrival (book : OrderBook) (order : Order) : Bool :=
  if order.isBuySide = 1 then cleanSweep .asks order (book.queuesOf .asks)
  else if order.isBuySide = 0 then cleanSweep .bids order (book.queuesOf .bids)
  else true

theorem cleanSweep_of_arrival {side : BookSide} {order : Order}
    (flagged : order.isBuySide = side.flag) (clean : cleanArrival book order = true) :
    cleanSweep side.opposite order (book.queuesOf side.opposite) = true := by
  unfold cleanArrival at clean
  cases side with
  | asks =>
      have zero : order.isBuySide = 0 := flagged
      rw [if_neg (by rw [zero]; decide), if_pos zero] at clean
      exact clean
  | bids =>
      have one : order.isBuySide = 1 := flagged
      rw [if_pos one] at clean
      exact clean

/-- The modify is accepted and moves the order to another price. -/
def repricing (book : OrderBook) (modify : Info.ModifyOrder) : Bool :=
  match book.limitOrders.lookup modify.orderId with
  | none => false
  | some limit =>
      limit.order.isBuySide == modify.isBuySide && limit.order.userId == modify.userId &&
        modify.price != limit.order.price

/-- The call is not rejected, and names a side. -/
def accepted (book : OrderBook) : Request → Bool
  | .add _ order =>
      (book.limitOrders.lookup order.orderId).isNone &&
        (order.isBuySide == 1 || order.isBuySide == 0)
  | .modify _ modify =>
      match book.limitOrders.lookup modify.orderId with
      | none => false
      | some limit =>
          limit.order.isBuySide == modify.isBuySide && limit.order.userId == modify.userId &&
            !modifyOrderTrivial modify limit.order
  | .cancel _ cancel =>
      match book.limitOrders.lookup cancel.orderId with
      | none => false
      | some limit => limit.order.userId == cancel.userId

/-- Every order that a call lets in stops cleanly. -/
def cleanRequest (book : OrderBook) : Request → Bool
  | .add _ order =>
      (book.limitOrders.lookup order.orderId).isSome || cleanArrival book order
  | .modify _ modify => !repricing book modify || cleanArrival book (Order.ofModify modify)
  | .cancel _ _ => true

/-- What a call may do to a well-formed book. -/
inductive Effect (book : OrderBook) : Request → CallResult → Prop
  | ignored (request : Request) (result : CallResult)
      (refused : book.accepted request = false) (sameBook : result.book = book)
      (noTrade : result.executions = []) (silent : marketDataOf result.emitted = []) :
      Effect book request result
  | added (clock : Nat → Int64) (order left : Order) (side : BookSide) (result : CallResult)
      (taken : book.accepted (.add clock order) = true)
      (fresh : book.limitOrders.lookup order.orderId = none)
      (flagged : order.isBuySide = side.flag)
      (arrives : Arrived clock book side order
        (sweepOrders side.opposite order (book.queuesOf side.opposite)) left result) :
      Effect book (.add clock order) result
  | cancelled (clock : Nat → Int64) (cancel : Info.CancelOrder) (limit : Limit)
      (result : CallResult) (taken : book.accepted (.cancel clock cancel) = true)
      (found : book.limitOrders.lookup cancel.orderId = some limit)
      (owner : limit.order.userId = cancel.userId) (noTrade : result.executions = [])
      (emitted : result.emitted = [sendOrderCancelledToDispatcher clock 0 cancel])
      (dropped : result.book.Represents (BookView.drop book.queueAt cancel.orderId)) :
      Effect book (.cancel clock cancel) result
  | changed (clock : Nat → Int64) (modify : Info.ModifyOrder) (limit : Limit) (order : Order)
      (result : CallResult) (taken : book.accepted (.modify clock modify) = true)
      (found : book.limitOrders.lookup modify.orderId = some limit)
      (owner : limit.order.userId = modify.userId)
      (sameSide : limit.order.isBuySide = modify.isBuySide)
      (samePrice : modify.price = limit.order.price)
      (changes : modifyInPlace modify limit.order = .ok order)
      (noTrade : result.executions = [])
      (emitted : result.emitted = [sendOrderModifiedToDispatcher modify])
      (replaced : result.book.Represents (BookView.replace book.queueAt order)) :
      Effect book (.modify clock modify) result
  | repriced (clock : Nat → Int64) (modify : Info.ModifyOrder) (limit : Limit) (side : BookSide)
      (without : OrderBook) (left : Order) (arrival : CallResult) (result : CallResult)
      (taken : book.accepted (.modify clock modify) = true)
      (found : book.limitOrders.lookup modify.orderId = some limit)
      (owner : limit.order.userId = modify.userId)
      (sameSide : limit.order.isBuySide = modify.isBuySide)
      (newPrice : modify.price ≠ limit.order.price)
      (flagged : modify.isBuySide = side.flag)
      (dropped : without.Represents (BookView.drop book.queueAt modify.orderId))
      (sameQueues : without.queuesOf side.opposite = book.queuesOf side.opposite)
      (arrives : Arrived (fun reading => clock (reading + 1)) without side
        (Order.ofModify modify)
        (sweepOrders side.opposite (Order.ofModify modify) (without.queuesOf side.opposite)) left
        arrival)
      (sameBook : result.book = arrival.book)
      (executions : result.executions = arrival.executions)
      (emitted : result.emitted =
        sendOrderCancelledToDispatcher clock 0 (Info.CancelOrder.ofModify modify) ::
          arrival.emitted) :
      Effect book (.modify clock modify) result

/-- A book whose id map has the entry of an order on a side. -/
theorem WellFormed.flag_of_lookup (wellFormed : book.WellFormed) {orderId : OrderId}
    {limit : Limit} (found : book.limitOrders.lookup orderId = some limit) :
    ∃ side, limit.order.isBuySide = side.flag ∧
      limit.order ∈ book.queueAt side limit.order.price ∧ limit.order.orderId = orderId := by
  obtain ⟨side, _next, _prev, member, sameId, _node⟩ := wellFormed.of_lookup found
  exact ⟨side, (wellFormed.belongs member).2, member, sameId⟩

/-- A cancel by the owner takes the order out. -/
theorem cancelOrder_drops (wellFormed : book.WellFormed) (clock : Nat → Int64)
    {cancel : Info.CancelOrder} {limit : Limit}
    (found : book.limitOrders.lookup cancel.orderId = some limit)
    (owner : limit.order.userId = cancel.userId) :
    ∃ without, cancelOrder clock book cancel =
        .ok { book := without
              executions := []
              emitted := [sendOrderCancelledToDispatcher clock 0 cancel] } ∧
      without.Represents (BookView.drop book.queueAt cancel.orderId) ∧
      without.limitOrders.lookup cancel.orderId = none := by
  obtain ⟨unlinked, returned, represents⟩ := unlink_represents wellFormed found
  refine ⟨{ unlinked with limitOrders := unlinked.limitOrders.erase cancel.orderId }, ?_, represents,
    AList.lookup_erase _ _⟩
  unfold cancelOrder
  rw [found]
  simp only
  rw [if_neg (not_not.mpr owner), returned]
  rfl

theorem cancelOrder_effect (wellFormed : book.WellFormed) (clock : Nat → Int64)
    (cancel : Info.CancelOrder) :
    ∃ result, cancelOrder clock book cancel = .ok result ∧
      Effect book (.cancel clock cancel) result := by
  cases found : book.limitOrders.lookup cancel.orderId with
  | none =>
      have refused : book.accepted (.cancel clock cancel) = false := by
        simp only [accepted, found]
      refine ⟨
        { book := book
          executions := []
          emitted := [rejection cancel.connection cancel.toOrderCommon .orderNotFound] },
        ?_, Effect.ignored _ _ refused rfl rfl rfl⟩
      unfold cancelOrder
      rw [found]
  | some limit =>
      have taken : book.accepted (.cancel clock cancel) =
          (limit.order.userId == cancel.userId) := by
        simp only [accepted, found]
      by_cases owner : limit.order.userId = cancel.userId
      · obtain ⟨without, returned, represents, _gone⟩ :=
          cancelOrder_drops wellFormed clock found owner
        exact ⟨_, returned,
          Effect.cancelled clock cancel limit _ (taken.trans (beq_iff_eq.mpr owner)) found owner rfl
            rfl represents⟩
      · have refused : book.accepted (.cancel clock cancel) = false :=
          taken.trans (beq_eq_false_iff_ne.mpr owner)
        refine ⟨
          { book := book
            executions := []
            emitted := [rejection cancel.connection cancel.toOrderCommon .wrongUserId] },
          ?_, Effect.ignored _ _ refused rfl rfl rfl⟩
        unfold cancelOrder
        rw [found]
        exact if_pos owner

theorem marketDataOf_processModifyError (wrongSide wrongUserId trivialModify : Bool)
    (modify : Info.ModifyOrder) :
    marketDataOf (processModifyError wrongSide wrongUserId trivialModify modify) = [] := by
  cases wrongSide <;> cases wrongUserId <;> cases trivialModify <;> rfl

/-- A change in place always succeeds, and changes the quantity only. -/
theorem modifyInPlace_eq (modify : Info.ModifyOrder) (order : Order) :
    ∃ quantity, modifyInPlace modify order = .ok (order.withQuantity quantity) := by
  unfold modifyInPlace
  split
  · exact ⟨_, rfl⟩
  · rename_i notMore
    have below : modify.quantity ≤ order.currentQuantity := UInt32.not_lt.mp notMore
    refine ⟨_, Order.decreaseQty_of_le ?_⟩
    rw [UInt32.le_iff_toNat_le, UInt32.toNat_sub_of_le _ _ below]
    omega

theorem flag_eq {flag : UInt8} (one : flag = 1 ∨ flag = 0) : ∃ side : BookSide, flag = side.flag := by
  rcases one with bids | asks
  · exact ⟨.bids, bids⟩
  · exact ⟨.asks, asks⟩

theorem addOrder_effect (wellFormed : book.WellFormed) (clock : Nat → Int64) (order : Order)
    (clean : (book.limitOrders.lookup order.orderId).isSome = true ∨
      cleanArrival book order = true) :
    ∃ left result, addOrder clock book order = .ok (left, result) ∧
      Effect book (.add clock order) result := by
  cases present : book.limitOrders.lookup order.orderId with
  | some limit =>
      have refused : book.accepted (.add clock order) = false := by
        simp only [accepted, present, Option.isNone_some, Bool.false_and]
      unfold addOrder
      rw [if_pos (by rw [present]; rfl)]
      exact ⟨_, _, rfl, Effect.ignored _ _ refused rfl rfl rfl⟩
  | none =>
      have taken : book.accepted (.add clock order) =
          (order.isBuySide == 1 || order.isBuySide == 0) := by
        simp only [accepted, present, Option.isNone_none, Bool.true_and]
      rw [present] at clean
      have arrivalClean := clean.resolve_left Bool.false_ne_true
      by_cases sided : order.isBuySide = 1 ∨ order.isBuySide = 0
      · obtain ⟨side, flagged⟩ := flag_eq sided
        obtain ⟨left, result, returned, arrives⟩ :=
          @addOrder_arrives book clock wellFormed side order present flagged
            (cleanSweep_of_arrival flagged arrivalClean)
        have sides : (order.isBuySide == 1 || order.isBuySide == 0) = true := by
          simpa only [Bool.or_eq_true, beq_iff_eq] using sided
        exact ⟨left, result, returned,
          Effect.added clock order left side result (taken.trans sides) present flagged arrives⟩
      · have noSide : (order.isBuySide == 1 || order.isBuySide == 0) = false := by
          rw [← Bool.not_eq_true]
          simpa only [Bool.or_eq_true, beq_iff_eq] using sided
        unfold addOrder
        rw [if_neg (by rw [present]; exact Bool.false_ne_true),
          if_neg (fun one => sided (Or.inl one)), if_neg (fun zero => sided (Or.inr zero))]
        exact ⟨_, _, rfl, Effect.ignored _ _ (taken.trans noSide) rfl rfl rfl⟩

theorem modifyOrder_in_place_effect (wellFormed : book.WellFormed) (clock : Nat → Int64)
    {modify : Info.ModifyOrder} {limit : Limit}
    (taken : book.accepted (.modify clock modify) = true)
    (found : book.limitOrders.lookup modify.orderId = some limit)
    (owner : limit.order.userId = modify.userId)
    (sameSide : limit.order.isBuySide = modify.isBuySide)
    (samePrice : modify.price = limit.order.price) :
    ∃ order, modifyInPlace modify limit.order = .ok order ∧
      Effect book (.modify clock modify)
        { book :=
            { book with
              limitOrders :=
                book.limitOrders.insert modify.orderId { limit with order := order } }
          executions := []
          emitted := [sendOrderModifiedToDispatcher modify] } := by
  obtain ⟨quantity, changes⟩ := modifyInPlace_eq modify limit.order
  obtain ⟨_side, _flagged, _member, sameId⟩ := wellFormed.flag_of_lookup found
  have stored : book.limitOrders.lookup (limit.order.withQuantity quantity).orderId = some limit := by
    rw [Order.withQuantity_orderId, sameId]
    exact found
  have represents := @rewrite_represents book book.queueAt wellFormed limit
    (limit.order.withQuantity quantity) stored rfl rfl
  rw [Order.withQuantity_orderId, sameId] at represents
  exact ⟨_, changes,
    Effect.changed clock modify limit _ _ taken found owner sameSide samePrice changes rfl rfl represents⟩

theorem modifyOrder_repricing_effect (wellFormed : book.WellFormed) (clock : Nat → Int64)
    {modify : Info.ModifyOrder} {limit : Limit}
    (taken : book.accepted (.modify clock modify) = true)
    (found : book.limitOrders.lookup modify.orderId = some limit)
    (owner : limit.order.userId = modify.userId)
    (sameSide : limit.order.isBuySide = modify.isBuySide)
    (newPrice : modify.price ≠ limit.order.price)
    (clean : cleanArrival book (Order.ofModify modify) = true) :
    ∃ cancelled left added, cancelOrder clock book (Info.CancelOrder.ofModify modify) =
        .ok cancelled ∧
      addOrder (fun reading => clock (reading + 1)) cancelled.book (Order.ofModify modify) =
        .ok (left, added) ∧
      Effect book (.modify clock modify)
        { added with emitted := cancelled.emitted ++ added.emitted } := by
  obtain ⟨side, flag, member, sameId⟩ := wellFormed.flag_of_lookup found
  have flagged : modify.isBuySide = side.flag := sameSide.symm.trans flag
  have resting : book.limitOrders.lookup (Info.CancelOrder.ofModify modify).orderId = some limit :=
    found
  obtain ⟨without, cancels, represents, fresh⟩ := cancelOrder_drops wellFormed clock resting owner
  have sameQueues : without.queuesOf side.opposite = book.queuesOf side.opposite := by
    refine queuesOf_congr wellFormed represents.wellFormed ?_
    intro price
    rw [represents.queueAt_eq]
    refine drop_absent ?_
    intro inside
    obtain ⟨twin, twinMember, twinSame⟩ := List.mem_map.mp inside
    exact side.opposite_ne (wellFormed.unique twinMember member (twinSame.trans sameId.symm)).1
  have arrivalClean : cleanSweep side.opposite (Order.ofModify modify)
      (without.queuesOf side.opposite) = true := by
    rw [sameQueues]
    exact cleanSweep_of_arrival flagged clean
  obtain ⟨left, added, adds, arrives⟩ :=
    @addOrder_arrives without (fun reading => clock (reading + 1)) represents.wellFormed side
      (Order.ofModify modify) fresh flagged arrivalClean
  exact ⟨_, left, added, cancels, adds,
    Effect.repriced clock modify limit side without left added _ taken found owner sameSide newPrice
      flagged represents sameQueues arrives rfl rfl rfl⟩

theorem modifyOrder_effect (wellFormed : book.WellFormed) (clock : Nat → Int64)
    (modify : Info.ModifyOrder)
    (clean : repricing book modify = true → cleanArrival book (Order.ofModify modify) = true) :
    ∃ result, modifyOrder clock book modify = .ok result ∧
      Effect book (.modify clock modify) result := by
  unfold modifyOrder
  cases found : book.limitOrders.lookup modify.orderId with
  | none =>
      have refused : book.accepted (.modify clock modify) = false := by
        simp only [accepted, found]
      exact ⟨_, rfl, Effect.ignored _ _ refused rfl rfl rfl⟩
  | some limit =>
      have taken : book.accepted (.modify clock modify) =
          !(limit.order.isBuySide != modify.isBuySide || limit.order.userId != modify.userId ||
            modifyOrderTrivial modify limit.order) := by
        simp only [accepted, found, bne, Bool.not_or, Bool.not_not]
      simp only
      split
      · rename_i rejected
        rw [rejected] at taken
        exact ⟨_, rfl,
          Effect.ignored _ _ taken rfl rfl (marketDataOf_processModifyError _ _ _ modify)⟩
      · rename_i passes
        rw [Bool.not_eq_true] at passes
        rw [passes] at taken
        rw [Bool.or_eq_false_iff, Bool.or_eq_false_iff, bne_eq_false_iff_eq, bne_eq_false_iff_eq]
          at passes
        obtain ⟨⟨sameSide, owner⟩, _notTrivial⟩ := passes
        by_cases samePrice : modify.price = limit.order.price
        · obtain ⟨order, changes, effect⟩ :=
            modifyOrder_in_place_effect wellFormed clock taken found owner sameSide samePrice
          rw [if_pos samePrice, changes]
          exact ⟨_, rfl, effect⟩
        · have moves : repricing book modify = true := by
            unfold repricing
            rw [found]
            simp only [Bool.and_eq_true, beq_iff_eq, bne_iff_ne]
            exact ⟨⟨sameSide, owner⟩, samePrice⟩
          obtain ⟨cancelled, left, added, cancels, adds, effect⟩ :=
            modifyOrder_repricing_effect wellFormed clock taken found owner sameSide samePrice
              (clean moves)
          rw [if_neg samePrice, cancels]
          simp only [ok_bind]
          rw [adds]
          exact ⟨_, rfl, effect⟩

/-- Every call that lets its orders in cleanly returns, with one of the effects. -/
theorem call_effect (wellFormed : book.WellFormed) {request : Request}
    (clean : cleanRequest book request = true) :
    ∃ result, book.call request = .ok result ∧ Effect book request result := by
  cases request with
  | add clock order =>
      have cases : (book.limitOrders.lookup order.orderId).isSome = true ∨
          cleanArrival book order = true := Bool.or_eq_true _ _ ▸ clean
      obtain ⟨left, result, returned, effect⟩ := addOrder_effect wellFormed clock order cases
      refine ⟨result, ?_, effect⟩
      simp only [call, returned]
      rfl
  | modify clock modify =>
      refine modifyOrder_effect wellFormed clock modify ?_
      intro moves
      simp only [cleanRequest, moves, Bool.not_true, Bool.false_or] at clean
      exact clean
  | cancel clock cancel => exact cancelOrder_effect wellFormed clock cancel

/-- The lists that a call leaves. -/
theorem Effect.wellFormed (wellFormed : book.WellFormed) {request : Request}
    {result : CallResult} (effect : Effect book request result) : result.book.WellFormed := by
  cases effect with
  | ignored _ _ _ sameBook _ _ =>
      rw [sameBook]
      exact wellFormed
  | added _ _ _ _ _ _ _ _ arrives => exact arrives.represents.wellFormed
  | cancelled _ _ _ _ _ _ _ _ _ dropped => exact dropped.wellFormed
  | changed _ _ _ _ _ _ _ _ _ _ _ _ _ replaced => exact replaced.wellFormed
  | repriced _ _ _ _ _ _ _ _ _ _ _ _ _ _ _ _ arrives sameBook _ _ =>
      rw [sameBook]
      exact arrives.represents.wellFormed

theorem step_of_call {request : Request} {result : CallResult}
    (returned : book.call request = .ok result) : book.step request = .ok result.book := by
  unfold step
  rw [returned]
  rfl

theorem step_wellFormed (wellFormed : book.WellFormed) {request : Request}
    (clean : cleanRequest book request = true) :
    ∃ after, book.step request = .ok after ∧ after.WellFormed := by
  obtain ⟨result, returned, effect⟩ := call_effect wellFormed clean
  exact ⟨result.book, step_of_call returned, effect.wellFormed wellFormed⟩

end OrderBook

end Engine
end SpotExchange
