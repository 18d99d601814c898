/-
The two sides never cross. What a completed match does to the prices of a side does
not depend on the lists of its levels: a level is left only when the order has
nothing left, or with an empty head, and then the level is erased.
-/

import SpotExchange.Engine.Levels
import SpotExchange.Engine.OrderBook

namespace SpotExchange
namespace Engine

open Collections Machine Wire

/-! ### The loops, whatever the lists look like -/

section Loops

variable {side : BookSide} {clock : Nat → Int64}

theorem decreaseQty_price {order changed : Order} {qtyDelta : UInt32}
    (returned : order.decreaseQty qtyDelta = .ok changed) : changed.price = order.price := by
  unfold Order.decreaseQty at returned
  split at returned
  · cases returned
  · cases returned
    rfl

theorem trade_keeps {state after : Matching side}
    (returned : FifoMatcher.tradeWithBookOrder clock state = .ok after) :
    after.cursor = state.cursor ∧ after.bookOrder = state.bookOrder ∧
      after.orderToMatch.price = state.orderToMatch.price := by
  unfold FifoMatcher.tradeWithBookOrder at returned
  obtain ⟨limit, _read, returned⟩ := bind_eq_ok returned
  obtain ⟨order, decreased, returned⟩ := bind_eq_ok returned
  obtain ⟨resting, _reduced, returned⟩ := bind_eq_ok returned
  obtain ⟨limits, _written, returned⟩ := bind_eq_ok returned
  cases returned
  exact ⟨rfl, rfl, decreaseQty_price decreased⟩

theorem remove_keeps {state after : Matching side}
    (returned : FifoMatcher.removeOrderFromBook state = .ok after) :
    after.orderToMatch = state.orderToMatch ∧
      after.cursor = state.cursor.write (Level.withHead after.bookOrder) := by
  unfold FifoMatcher.removeOrderFromBook at returned
  obtain ⟨limit, _read, returned⟩ := bind_eq_ok returned
  cases next : limit.nextLimit with
  | none =>
      rw [next] at returned
      cases returned
      exact ⟨rfl, rfl⟩
  | some orderId =>
      rw [next] at returned
      obtain ⟨limits, _written, returned⟩ := bind_eq_ok returned
      cases returned
      exact ⟨rfl, rfl⟩

theorem write_keys (cursor : LevelCursor side) (change : Level → Level) :
    (cursor.write change).book.keys = cursor.book.keys := by
  obtain ⟨book, bookItr, bookLvl, entry, touchedErased, readEnd⟩ := cursor
  cases entry with
  | none => rfl
  | some price => exact OrderedMap.keys_update book price change

theorem eraseAtIterator_keys (cursor : LevelCursor side) :
    ∀ price ∈ cursor.eraseAtIterator.book.keys, price ∈ cursor.book.keys := by
  intro price member
  unfold LevelCursor.eraseAtIterator at member
  split at member
  · exact member
  · exact ((OrderedMap.mem_keys_erase cursor.book _ price).mp member).2

/-- The level is counted, and erased when the count reads zero. -/
theorem closing_keeps {state after : Matching side}
    (returned : (state.cursor.bookLvl.getLevelOrderCount state.limitbook >>= fun count =>
      (pure
        { state with
          cursor :=
            if count == 0 then state.cursor.access.eraseAtIterator else state.cursor.access
          matchResult := state.matchResult.setOrderFilled } : Except Fault (Matching side))) =
      .ok after) :
    after.orderToMatch = state.orderToMatch ∧
      ∀ price ∈ after.cursor.book.keys, price ∈ state.cursor.book.keys := by
  obtain ⟨count, _counted, returned⟩ := bind_eq_ok returned
  cases returned
  refine ⟨rfl, ?_⟩
  intro price member
  have inside : price ∈ (if (count == 0) = true then state.cursor.access.eraseAtIterator
    else state.cursor.access).book.keys := member
  split at inside
  · exact eraseAtIterator_keys state.cursor.access price inside
  · exact inside

theorem finish_keeps {state after : Matching side}
    (returned : FifoMatcher.finishInLevel state = .ok after) :
    after.orderToMatch = state.orderToMatch ∧
      ∀ price ∈ after.cursor.book.keys, price ∈ state.cursor.book.keys := by
  unfold FifoMatcher.finishInLevel at returned
  obtain ⟨limit, _read, returned⟩ := bind_eq_ok returned
  by_cases empty : (limit.order.currentQuantity == 0) = true
  · rw [if_pos empty] at returned
    obtain ⟨trimmed, removed, returned⟩ := bind_eq_ok returned
    obtain ⟨order, cursor⟩ := remove_keeps removed
    obtain ⟨sameOrder, keys⟩ := closing_keeps returned
    rw [cursor, write_keys] at keys
    exact ⟨sameOrder.trans order, keys⟩
  · rw [if_neg empty] at returned
    exact closing_keeps returned

/-- How the in-level loop may end: with an order that is used up, or with a level
that has no head. -/
structure InLevelEnd (state after : Matching side) (filled : Bool) : Prop where
  price : after.orderToMatch.price = state.orderToMatch.price
  used : filled = true → after.orderToMatch.currentQuantity = 0 ∧
    ∀ price ∈ after.cursor.book.keys, price ∈ state.cursor.book.keys
  passed : filled = false → after.cursor.bookLvl.head = none ∧
    after.cursor.bookItr = state.cursor.bookItr ∧
    after.cursor.entry = state.cursor.entry ∧
    after.cursor.book.keys = state.cursor.book.keys

theorem orderFullyMatchedInLevel_end {fuel : Nat} {state after : Matching side} {filled : Bool}
    (atHead : state.cursor.bookLvl.head = state.bookOrder)
    (returned : FifoMatcher.orderFullyMatchedInLevel clock fuel state = .ok (filled, after)) :
    InLevelEnd state after filled := by
  induction fuel generalizing state with
  | zero =>
      unfold FifoMatcher.orderFullyMatchedInLevel at returned
      split at returned
      · cases returned
      · rename_i empty
        cases returned
        have noOrder : after.bookOrder = none := by
          simpa [FifoMatcher.ordersInLevel] using empty
        exact ⟨rfl, fun impossible => (Bool.false_ne_true impossible).elim,
          fun _ => ⟨atHead.trans noOrder, rfl, rfl, rfl⟩⟩
  | succ fuel ih =>
      unfold FifoMatcher.orderFullyMatchedInLevel at returned
      split at returned
      · obtain ⟨traded, trades, returned⟩ := bind_eq_ok returned
        obtain ⟨cursor, bookOrder, price⟩ := trade_keeps trades
        split at returned
        · rename_i matched
          obtain ⟨finished, finishes, returned⟩ := bind_eq_ok returned
          cases returned
          obtain ⟨order, keys⟩ := finish_keeps finishes
          refine ⟨by rw [order, price], fun _ => ⟨?_, ?_⟩, fun impossible => ?_⟩
          · rw [order]
            exact beq_iff_eq.mp matched
          · rw [← cursor]
            exact keys
          · cases impossible
        · obtain ⟨removed, removes, returned⟩ := bind_eq_ok returned
          obtain ⟨order, written⟩ := remove_keeps removes
          have headed : removed.cursor.bookLvl.head = removed.bookOrder := by
            rw [written]
            rfl
          have keys : removed.cursor.book.keys = state.cursor.book.keys := by
            rw [written, write_keys, cursor]
          have later := ih headed returned
          refine ⟨by rw [later.price, order, price], ?_, ?_⟩
          · intro done
            rw [← keys]
            exact later.used done
          · intro more
            obtain ⟨head, itr, entry, sameKeys⟩ := later.passed more
            refine ⟨head, ?_, ?_, sameKeys.trans keys⟩
            · rw [itr, written, ← cursor]
              rfl
            · rw [entry, written, ← cursor]
              rfl
      · rename_i empty
        cases returned
        have noOrder : after.bookOrder = none := by
          simpa [FifoMatcher.ordersInLevel] using empty
        exact ⟨rfl, fun impossible => (Bool.false_ne_true impossible).elim,
          fun _ => ⟨atHead.trans noOrder, rfl, rfl, rfl⟩⟩

/-- An order is out of reach of every price behind one that it is out of reach of. -/
theorem noMatchingLevel_behind {orderPrice best worse : Price}
    (refused : FifoMatcher.noMatchingLevel side orderPrice best = true)
    (behind : side.before best worse) :
    FifoMatcher.noMatchingLevel side orderPrice worse = true := by
  cases side with
  | asks => exact decide_eq_true (UInt64.lt_trans (of_decide_eq_true refused) behind)
  | bids => exact decide_eq_true (UInt64.lt_trans behind (of_decide_eq_true refused))

/-- What matching leaves of the prices of a side: no new ones, and none within reach
of an order that still has something left. -/
structure Exhausted (orderPrice : Price) (before after : SideBook side) (left : Order) :
    Prop where
  price : left.price = orderPrice
  shrunk : ∀ price ∈ after.keys, price ∈ before.keys
  refused : left.currentQuantity ≠ 0 →
    ∀ price ∈ after.keys, FifoMatcher.noMatchingLevel side orderPrice price = true

theorem Exhausted.refl_of_empty {book : SideBook side} (front : book.entries = [])
    (order : Order) : Exhausted order.price book book order := by
  refine ⟨rfl, fun _ member => member, fun _ price member => ?_⟩
  rw [OrderedMap.keys, front] at member
  cases member

theorem matchLevels_nil {fuel : Nat} {state after : Matching side}
    (atBegin : state.cursor.bookItr = state.cursor.book.begin?)
    (front : state.cursor.book.entries = [])
    (returned : FifoMatcher.matchLevels clock fuel state = .ok after) :
    Exhausted state.orderToMatch.price state.cursor.book after.cursor.book after.orderToMatch := by
  have atEnd : state.cursor.bookItr = none := by
    rw [atBegin, OrderedMap.begin?, front]
    rfl
  rw [FifoMatcher.matchLevels, atEnd] at returned
  cases returned
  exact Exhausted.refl_of_empty front state.orderToMatch

theorem matchLevels_exhausted {fuel : Nat} {state after : Matching side}
    (atBegin : state.cursor.bookItr = state.cursor.book.begin?)
    (bound : state.cursor.entry = none ∨ state.cursor.entry = state.cursor.book.begin?)
    (returned : FifoMatcher.matchLevels clock fuel state = .ok after) :
    Exhausted state.orderToMatch.price state.cursor.book after.cursor.book after.orderToMatch := by
  induction fuel generalizing state with
  | zero =>
      cases front : state.cursor.book.entries with
      | nil => exact matchLevels_nil atBegin front returned
      | cons entry rest =>
          have atFront : state.cursor.bookItr = some entry.1 :=
            atBegin.trans (OrderedMap.begin?_front front)
          rw [FifoMatcher.matchLevels, atFront] at returned
          cases returned
  | succ fuel ih =>
      cases front : state.cursor.book.entries with
      | nil => exact matchLevels_nil atBegin front returned
      | cons entry rest =>
          have begins := OrderedMap.begin?_front front
          have atFront : state.cursor.bookItr = some entry.1 := atBegin.trans begins
          cases accepted : accepts side state.orderToMatch.price entry.1 with
          | false =>
              have refused : FifoMatcher.noMatchingLevel side state.orderToMatch.price entry.1 = true := by
                simpa [accepts] using accepted
              rw [FifoMatcher.matchLevels, atFront] at returned
              simp only [if_pos refused] at returned
              cases returned
              refine ⟨rfl, fun _ member => member, fun _ price member => ?_⟩
              rw [OrderedMap.keys, front, List.map_cons] at member
              rcases List.mem_cons.mp member with same | later
              · rw [same]
                exact refused
              · obtain ⟨other, present, same⟩ := List.mem_map.mp later
                rw [← same]
                exact noMatchingLevel_behind refused (OrderedMap.front_before front other present)
          | true =>
              rw [matchLevels_succ fuel atFront accepted] at returned
              obtain ⟨⟨filled, looped⟩, loops, returned⟩ := bind_eq_ok returned
              have ended := orderFullyMatchedInLevel_end rfl loops
              cases filled with
              | true =>
                  cases returned
                  obtain ⟨usedUp, keys⟩ := ended.used rfl
                  exact ⟨ended.price, keys, fun more => absurd usedUp more⟩
              | false =>
                  obtain ⟨left, leaves, returned⟩ := bind_eq_ok returned
                  obtain ⟨emptied, itr, sameEntry, keys⟩ := ended.passed rfl
                  have sameKeys : looped.cursor.book.keys = entry.1 :: rest.map Prod.fst := by
                    rw [keys]
                    exact congrArg (List.map Prod.fst) front
                  obtain ⟨level, others, loopedFront, sameRest⟩ :
                      ∃ level others, looped.cursor.book.entries = (entry.1, level) :: others ∧
                        others.map Prod.fst = rest.map Prod.fst := by
                    obtain ⟨first, others, split, firstKey, restKeys⟩ :=
                      List.map_eq_cons_iff.mp sameKeys
                    exact ⟨first.2, others, split.trans (congrArg (· :: others)
                      (Prod.ext firstKey rfl)), restKeys⟩
                  have loopedBound : looped.cursor.entry = none ∨
                      looped.cursor.entry = some entry.1 := by
                    rw [sameEntry]
                    exact bound.imp id (fun first => first.trans begins)
                  obtain ⟨cursor, leaves', entries, leftBegin, _shown, unbound, _noted⟩ :=
                    leaveLevel_eq loopedFront (itr.trans atFront) loopedBound emptied
                  have same : left = { looped with cursor := cursor } :=
                    Except.ok.inj (leaves.symm.trans leaves')
                  subst same
                  have later := ih leftBegin (Or.inl unbound) returned
                  have restKeys : cursor.book.keys = rest.map Prod.fst := by
                    rw [OrderedMap.keys, entries, sameRest]
                  have samePrice : looped.orderToMatch.price = state.orderToMatch.price :=
                    ended.price
                  refine ⟨later.price.trans samePrice, fun price member => ?_, ?_⟩
                  · have inside : price ∈ cursor.book.keys := later.shrunk price member
                    rw [restKeys] at inside
                    rw [OrderedMap.keys, front]
                    exact List.mem_cons_of_mem _ inside
                  · rw [← samePrice]
                    exact later.refused

theorem fifoMatch_exhausted {order : Order} {book : SideBook side} {limits : LimitBook}
    {outcome : FifoMatcher.Outcome side}
    (returned : FifoMatcher.fifoMatch clock order book limits = .ok outcome) :
    Exhausted order.price book outcome.book outcome.order := by
  unfold FifoMatcher.fifoMatch at returned
  cases front : book.entries with
  | nil =>
      rw [front] at returned
      cases returned
      exact Exhausted.refl_of_empty front order
  | cons entry rest =>
      rw [front] at returned
      have begins := OrderedMap.begin?_front front
      cases loops : FifoMatcher.matchLevels clock book.size
          (FifoMatcher.initial order book limits entry.1 entry.2) with
      | error fault =>
          simp only [loops] at returned
          cases returned
      | ok after =>
          simp only [loops] at returned
          cases returned
          exact matchLevels_exhausted begins.symm (Or.inr begins.symm) loops

end Loops

/-! ### Calls -/

namespace OrderBook

/-- Every bid is below every ask. -/
def Uncrossed (book : OrderBook) : Prop :=
  ∀ bid ∈ book.bids.keys, ∀ ask ∈ book.asks.keys, bid < ask

theorem writeLevel_keys {book after : OrderBook} {ptr : Option LevelPtr} {change : Level → Level}
    (returned : book.writeLevel ptr change = .ok after) (side : BookSide) :
    (after.levels side).keys = (book.levels side).keys := by
  cases ptr with
  | none => cases returned
  | some level =>
      simp only [writeLevel] at returned
      split at returned
      · cases returned
      · cases returned
        by_cases same : side = level.side
        · subst same
          rw [levels_setLevels_self, OrderedMap.keys_update]
        · rw [levels_setLevels_of_ne book same]

theorem placeLimit_keys {book after : OrderBook} {ptr : LevelPtr} {order : Order}
    (returned : book.placeLimitInBookLevel ptr order = .ok after) (side : BookSide) :
    (after.levels side).keys = (book.levels side).keys := by
  unfold placeLimitInBookLevel at returned
  split at returned
  · cases returned
  · obtain ⟨level, _read, returned⟩ := bind_eq_ok returned
    split at returned
    · exact (writeLevel_keys returned side).trans (by cases side <;> rfl)
    · obtain ⟨limits, _written, returned⟩ := bind_eq_ok returned
      exact (writeLevel_keys returned side).trans (by cases side <;> rfl)

theorem getSideLevel_keys {side : BookSide} {price : Price} {sidebook placed : SideBook side}
    (returned : getSideLevel price sidebook = .ok placed) :
    ∀ other ∈ placed.keys, other ∈ sidebook.keys ∨ other = price := by
  unfold getSideLevel at returned
  intro other member
  split at returned
  · cases returned
    exact Or.inl member
  · rename_i absent
    have inserted := OrderedMap.emplace_of_absent sidebook price (Level.ofPrice price) absent
    simp only [inserted, if_true] at returned
    cases returned
    exact ((OrderedMap.mem_keys_emplace_of_absent sidebook price other _ absent).mp member).symm

/-- Placing an order adds its price to its side, and no other. -/
theorem placeOrder_keys {book after : OrderBook} {placedSide : BookSide} {order : Order}
    {flag : UInt8} (returned : book.placeOrderInBook placedSide order flag = .ok after)
    (side : BookSide) :
    ∀ price ∈ (after.levels side).keys,
      price ∈ (book.levels side).keys ∨ side = placedSide ∧ price = order.price := by
  unfold placeOrderInBook at returned
  obtain ⟨sidebook, placed, returned⟩ := bind_eq_ok returned
  intro price member
  rw [placeLimit_keys returned side] at member
  by_cases same : side = placedSide
  · subst same
    rw [levels_setLevels_self, OrderedMap.keys_update] at member
    exact (getSideLevel_keys placed price member).imp id (fun here => ⟨rfl, here⟩)
  · rw [levels_setLevels_of_ne book same] at member
    exact Or.inl member

theorem possibleMatches_false {side : BookSide} {sidebook : SideBook side} {order : Order}
    (none : possibleMatches side sidebook order = false) :
    ∀ price ∈ sidebook.keys, FifoMatcher.noMatchingLevel side order.price price = true := by
  intro price member
  cases front : sidebook.entries with
  | nil =>
      rw [OrderedMap.keys, front] at member
      cases member
  | cons entry rest =>
      unfold possibleMatches at none
      rw [OrderedMap.begin?_front front] at none
      have refused : FifoMatcher.noMatchingLevel side order.price entry.1 = true := by
        cases side with
        | asks => exact decide_eq_true (UInt64.not_le.mp (of_decide_eq_false none))
        | bids => exact decide_eq_true (UInt64.not_le.mp (of_decide_eq_false none))
      rw [OrderedMap.keys, front, List.map_cons] at member
      rcases List.mem_cons.mp member with same | later
      · rw [same]
        exact refused
      · obtain ⟨other, present, same⟩ := List.mem_map.mp later
        rw [← same]
        exact noMatchingLevel_behind refused (OrderedMap.front_before front other present)

/-- What an add does to the prices: the opposite side gains none, and the order's own
side gains at most its price, which nothing left on the opposite side reaches. -/
structure PricesAfterAdd (matchSide addSide : BookSide) (price : Price)
    (book after : OrderBook) : Prop where
  opposite : ∀ other ∈ (after.levels matchSide).keys, other ∈ (book.levels matchSide).keys
  own : ∀ other ∈ (after.levels addSide).keys, other ∈ (book.levels addSide).keys ∨
    other = price ∧ ∀ left ∈ (after.levels matchSide).keys,
      FifoMatcher.noMatchingLevel matchSide price left = true

theorem restOrder_prices {clock : Nat → Int64} {book : OrderBook} {matchSide addSide : BookSide}
    (different : matchSide ≠ addSide) {order left : Order} {reading : Nat}
    {executions : List Execution} {emitted : List Emission} {result : CallResult}
    (refused : ∀ price ∈ (book.levels matchSide).keys,
      FifoMatcher.noMatchingLevel matchSide order.price price = true)
    (returned : restOrder clock book addSide order reading executions emitted =
      .ok (left, result)) :
    PricesAfterAdd matchSide addSide order.price book result.book := by
  unfold restOrder at returned
  obtain ⟨placed, places, returned⟩ := bind_eq_ok returned
  cases returned
  have opposite : ∀ other ∈ (placed.levels matchSide).keys,
      other ∈ (book.levels matchSide).keys := by
    intro other member
    exact (placeOrder_keys places matchSide other member).resolve_right
      (fun same => different same.1)
  refine ⟨opposite, ?_⟩
  intro other member
  refine (placeOrder_keys places addSide other member).imp id (fun here => ⟨here.2, ?_⟩)
  exact fun price present => refused price (opposite price present)

theorem addOrderTo_prices {clock : Nat → Int64} {book : OrderBook}
    {matchSide addSide : BookSide} (different : matchSide ≠ addSide) {order left : Order}
    {result : CallResult}
    (returned : addOrderTo clock book order matchSide addSide = .ok (left, result)) :
    PricesAfterAdd matchSide addSide order.price book result.book := by
  unfold addOrderTo at returned
  split at returned
  · obtain ⟨matched, matches', returned⟩ := bind_eq_ok returned
    have exhausted := fifoMatch_exhausted matches'
    have matchedSide : OrderBook.levels
        { book.setLevels matchSide matched.book with limitOrders := matched.limitbook }
        matchSide = matched.book := by cases matchSide <;> rfl
    have addedSide : OrderBook.levels
        { book.setLevels matchSide matched.book with limitOrders := matched.limitbook }
        addSide = book.levels addSide := by
      cases matchSide <;> cases addSide <;> first | rfl | exact absurd rfl different
    split at returned
    · cases returned
      refine ⟨?_, ?_⟩
      · intro other member
        rw [matchedSide] at member
        exact exhausted.shrunk other member
      · intro other member
        rw [addedSide] at member
        exact Or.inl member
    · rename_i live
      have left' : matched.order.currentQuantity ≠ 0 := fun zero => live (beq_iff_eq.mpr zero)
      have prices := restOrder_prices different (by
        rw [matchedSide, exhausted.price]
        exact exhausted.refused left') returned
      rw [exhausted.price] at prices
      refine ⟨?_, ?_⟩
      · intro other member
        have inside := prices.opposite other member
        rw [matchedSide] at inside
        exact exhausted.shrunk other inside
      · intro other member
        have inside := prices.own other member
        rw [addedSide] at inside
        exact inside
  · rename_i none
    exact restOrder_prices different (possibleMatches_false (Bool.not_eq_true _ ▸ none)) returned

theorem addOrder_uncrossed {clock : Nat → Int64} {book : OrderBook} {order left : Order}
    {result : CallResult} (uncrossed : book.Uncrossed)
    (returned : addOrder clock book order = .ok (left, result)) : result.book.Uncrossed := by
  unfold addOrder at returned
  split at returned
  · cases returned
    exact uncrossed
  · split at returned
    · have prices := addOrderTo_prices (by decide) returned
      intro bid isBid ask isAsk
      rcases prices.own bid isBid with old | ⟨new, refused⟩
      · exact uncrossed bid old ask (prices.opposite ask isAsk)
      · rw [new]
        exact of_decide_eq_true (refused ask isAsk)
    · split at returned
      · have prices := addOrderTo_prices (by decide) returned
        intro bid isBid ask isAsk
        rcases prices.own ask isAsk with old | ⟨new, refused⟩
        · exact uncrossed bid (prices.opposite bid isBid) ask old
        · rw [new]
          exact of_decide_eq_true (refused bid isBid)
      · cases returned
        exact uncrossed

theorem erase_keys {side : BookSide} (sidebook : SideBook side) (erased : Price) :
    ∀ price ∈ (sidebook.erase erased).keys, price ∈ sidebook.keys :=
  fun price member => ((OrderedMap.mem_keys_erase sidebook erased price).mp member).2

theorem unlinkLimit_keys {book after : OrderBook} {limit : Limit}
    (returned : book.unlinkLimit limit = .ok after) (side : BookSide) :
    ∀ price ∈ (after.levels side).keys, price ∈ (book.levels side).keys := by
  intro price member
  unfold unlinkLimit at returned
  split at returned
  · obtain ⟨_next, _linked, returned⟩ := bind_eq_ok returned
    obtain ⟨_prev, _relinked, returned⟩ := bind_eq_ok returned
    cases returned
    cases side <;> exact member
  · split at returned
    · obtain ⟨written, writes, returned⟩ := bind_eq_ok returned
      obtain ⟨_next, _linked, returned⟩ := bind_eq_ok returned
      cases returned
      rw [← writeLevel_keys writes side]
      cases side <;> exact member
    · split at returned
      · obtain ⟨written, writes, returned⟩ := bind_eq_ok returned
        obtain ⟨_prev, _linked, returned⟩ := bind_eq_ok returned
        cases returned
        rw [← writeLevel_keys writes side]
        cases side <;> exact member
      · split at returned
        · split at returned
          · cases returned
            cases side with
            | asks => exact member
            | bids => exact erase_keys book.bids _ price member
          · cases returned
            cases side with
            | asks => exact erase_keys book.asks _ price member
            | bids => exact member
        · cases returned
          exact member

theorem cancelOrder_uncrossed {clock : Nat → Int64} {book : OrderBook}
    {cancel : Info.CancelOrder} {result : CallResult} (uncrossed : book.Uncrossed)
    (returned : cancelOrder clock book cancel = .ok result) : result.book.Uncrossed := by
  unfold cancelOrder at returned
  split at returned
  · cases returned
    exact uncrossed
  · split at returned
    · cases returned
      exact uncrossed
    · obtain ⟨unlinked, unlinks, returned⟩ := bind_eq_ok returned
      cases returned
      intro bid isBid ask isAsk
      exact uncrossed bid (unlinkLimit_keys unlinks .bids bid isBid) ask
        (unlinkLimit_keys unlinks .asks ask isAsk)

theorem modifyOrder_uncrossed {clock : Nat → Int64} {book : OrderBook}
    {modify : Info.ModifyOrder} {result : CallResult} (uncrossed : book.Uncrossed)
    (returned : modifyOrder clock book modify = .ok result) : result.book.Uncrossed := by
  unfold modifyOrder at returned
  split at returned
  · cases returned
    exact uncrossed
  · rename_i limit _found
    simp only at returned
    split at returned
    · cases returned
      exact uncrossed
    · split at returned
      · obtain ⟨_order, _changed, returned⟩ := bind_eq_ok returned
        cases returned
        exact uncrossed
      · obtain ⟨cancelled, cancels, returned⟩ := bind_eq_ok returned
        obtain ⟨⟨_left, added⟩, adds, returned⟩ := bind_eq_ok returned
        cases returned
        have afterCancel := cancelOrder_uncrossed uncrossed cancels
        have afterAdd : added.book.Uncrossed := addOrder_uncrossed afterCancel adds
        exact afterAdd

theorem step_uncrossed (book : OrderBook) (request : Request) (after : OrderBook)
    (uncrossed : book.Uncrossed) (returned : book.step request = .ok after) :
    after.Uncrossed := by
  obtain ⟨result, called, same⟩ := map_eq_ok returned
  subst same
  cases request with
  | add clock order =>
      obtain ⟨⟨left, added⟩, adds, same⟩ := map_eq_ok called
      subst same
      exact addOrder_uncrossed uncrossed adds
  | modify clock modify => exact modifyOrder_uncrossed uncrossed called
  | cancel clock cancel => exact cancelOrder_uncrossed uncrossed called

/-- In every state that completed calls reach, the best bid is below the best ask. -/
theorem never_crossed (ticker : Ticker) (requests : List Request) (book : OrderBook)
    (reached : run step (empty ticker) requests = .ok book) (bid ask : Price)
    (bestBid : book.bids.begin? = some bid) (bestAsk : book.asks.begin? = some ask) :
    bid < ask := by
  have initially : (empty ticker).Uncrossed := by
    intro price member
    cases member
  have uncrossed : book.Uncrossed := run_invariant step_uncrossed initially reached
  exact uncrossed bid (OrderedMap.mem_keys_of_begin? bestBid) ask
    (OrderedMap.mem_keys_of_begin? bestAsk)

/-- A bid is re-priced through the only ask, rests at the ask's price, and is followed
by an ask above it. -/
def crossingRun : List Request :=
  [.add (fun _ => 0) (Order.create 0 1 101 10 { orderId := 1, userId := 1, ticker := 1 }),
    .add (fun _ => 0) (Order.create 1 2 99 4 { orderId := 2, userId := 2, ticker := 1 }),
    .modify (fun _ => 0)
      { orderId := 2
        userId := 2
        ticker := 1
        price := 101
        connection := 2
        quantity := 15
        isBuySide := 1 },
    .add (fun _ => 0) (Order.create 0 1 103 3 { orderId := 3, userId := 1, ticker := 1 })]

theorem crossingRun_not_crossed :
    ∃ book, run step (empty 1) crossingRun = .ok book ∧
      book.bids.begin? = some 101 ∧ book.asks.begin? = some 103 ∧ (101 : Price) < 103 := by
  have evaluated : (run step (empty 1) crossingRun).toOption.map
      (fun book => (book.bids.begin?, book.asks.begin?)) = some (some 101, some 103) := by
    decide +kernel
  obtain ⟨book, reached, seen⟩ := returns_of_view evaluated
  have bestBid : book.bids.begin? = some 101 := congrArg Prod.fst seen
  have bestAsk : book.asks.begin? = some 103 := congrArg Prod.snd seen
  exact ⟨book, reached, bestBid, bestAsk,
    never_crossed 1 crossingRun book reached 101 103 bestBid bestAsk⟩

end OrderBook

end Engine
end SpotExchange
