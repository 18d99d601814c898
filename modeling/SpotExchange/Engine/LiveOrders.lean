/-
The orders of the id map, in any book from which a call returns: which orders a call
leaves there and with what quantity. Nothing is assumed of the levels and the links.
-/

import SpotExchange.Engine.Arrivals

namespace SpotExchange
namespace Engine

open Collections Machine Wire

/-- The same order, with its quantity or with another one that is not zero. -/
structure Order.Worn (old new : Order) : Prop where
  same : new = old.withQuantity new.currentQuantity
  left : new.currentQuantity = old.currentQuantity ∨ new.currentQuantity ≠ 0

namespace LimitBook

/-- Every entry is stored under the id of its order. -/
def OwnIds (limits : LimitBook) : Prop :=
  ∀ orderId limit, limits.lookup orderId = some limit → limit.order.orderId = orderId

/-- Every entry comes from one under the same id. Its quantity is as it was or is not zero,
but for the entry under `spared`. -/
def Descends (limits after : LimitBook) (spared : Option OrderId) : Prop :=
  ∀ orderId limit, after.lookup orderId = some limit →
    ∃ old, limits.lookup orderId = some old ∧
      limit.order = old.order.withQuantity limit.order.currentQuantity ∧
      (limit.order.currentQuantity = old.order.currentQuantity ∨
        limit.order.currentQuantity ≠ 0 ∨ some orderId = spared)

namespace Descends

variable {limits middle after : LimitBook} {spared : Option OrderId}

theorem refl (limits : LimitBook) (spared : Option OrderId) : Descends limits limits spared := by
  intro orderId limit found
  exact ⟨limit, found, rfl, Or.inl rfl⟩

theorem worn (descends : Descends limits after none) {orderId : OrderId} {limit : Limit}
    (found : after.lookup orderId = some limit) :
    ∃ old, limits.lookup orderId = some old ∧ Order.Worn old.order limit.order := by
  obtain ⟨old, stored, same, left⟩ := descends orderId limit found
  refine ⟨old, stored, same, ?_⟩
  rcases left with equal | nonzero | impossible
  · exact Or.inl equal
  · exact Or.inr nonzero
  · cases impossible

theorem ownIds (descends : Descends limits after spared) (own : limits.OwnIds) : after.OwnIds := by
  intro orderId limit found
  obtain ⟨old, stored, same, _left⟩ := descends orderId limit found
  rw [same, Order.withQuantity_orderId]
  exact own orderId old stored

/-- A write that keeps the order of the entry. -/
theorem modify {ptr : Option OrderId} {change : Limit → Limit}
    (descends : Descends limits middle spared) (keeps : ∀ limit, (change limit).order = limit.order)
    (returned : middle.modify ptr change = .ok after) : Descends limits after spared := by
  unfold LimitBook.modify at returned
  split at returned
  · cases returned
  · rename_i written
    split at returned
    · cases returned
    · rename_i node stored
      cases returned
      intro orderId limit found
      rw [lookup_insert_if] at found
      split at found
      · rename_i here
        cases found
        rw [keeps, here]
        exact descends written node stored
      · exact descends orderId limit found

theorem erase (descends : Descends limits middle spared) (erased : OrderId) :
    Descends limits (middle.erase erased) spared := by
  intro orderId limit found
  rw [lookup_erase_if] at found
  split at found
  · cases found
  · exact descends orderId limit found

/-- Once the spared entry is erased, none is. -/
theorem settle {spared : OrderId} (descends : Descends limits middle (some spared)) :
    Descends limits (middle.erase spared) none := by
  intro orderId limit found
  rw [lookup_erase_if] at found
  split at found
  · cases found
  · rename_i different
    obtain ⟨old, stored, same, left⟩ := descends orderId limit found
    refine ⟨old, stored, same, ?_⟩
    rcases left with equal | nonzero | here
    · exact Or.inl equal
    · exact Or.inr (Or.inl nonzero)
    · exact absurd (Option.some.inj here) different

end Descends

theorem read_eq_ok {limits : LimitBook} {ptr : Option OrderId} {limit : Limit}
    (returned : limits.read ptr = .ok limit) :
    ∃ orderId, ptr = some orderId ∧ limits.lookup orderId = some limit := by
  unfold read at returned
  split at returned
  · cases returned
  · rename_i orderId
    split at returned
    · cases returned
    · rename_i node stored
      cases returned
      exact ⟨orderId, rfl, stored⟩

end LimitBook

/-! ### Matching -/

namespace FifoMatcher

open LimitBook

variable {side : BookSide} {clock : Nat → Int64} {limits : LimitBook} {state next : Matching side}

theorem decreaseQty_eq_ok {order reduced : Order} {qtyDelta : UInt32}
    (returned : order.decreaseQty qtyDelta = .ok reduced) :
    reduced = order.withQuantity (order.currentQuantity - qtyDelta) := by
  unfold Order.decreaseQty at returned
  split at returned
  · cases returned
  · exact (Except.ok.inj returned).symm

/-- How far matching has come: the entries descend from those at its start, and so does
the incoming order. -/
structure Progress (limits : LimitBook) (order : Order) (spared : Option OrderId)
    (state : Matching side) : Prop where
  entries : Descends limits state.limitbook spared
  incoming : state.orderToMatch = order.withQuantity state.orderToMatch.currentQuantity

variable {order : Order}

/-- The entry that trades may be left with nothing. -/
theorem tradeWithBookOrder_progress (progress : Progress limits order none state)
    (returned : tradeWithBookOrder clock state = .ok next) :
    Progress limits order next.bookOrder next := by
  obtain ⟨bookOrder, reads, afterRead⟩ := bind_eq_ok returned
  obtain ⟨orderToMatch, reducesIncoming, afterIncoming⟩ := bind_eq_ok afterRead
  obtain ⟨resting, reduces, afterResting⟩ := bind_eq_ok afterIncoming
  obtain ⟨limitbook, writes, done⟩ := bind_eq_ok afterResting
  cases done
  obtain ⟨here, pointed, stored⟩ := read_eq_ok reads
  rw [pointed, modify_of_lookup _ stored] at writes
  cases writes
  constructor
  · intro orderId limit found
    change (state.limitbook.insert here _).lookup orderId = some limit at found
    rw [lookup_insert_if] at found
    split at found
    · rename_i same
      cases found
      obtain ⟨old, storedOld, sameOrder, _left⟩ := progress.entries here bookOrder stored
      refine ⟨old, same ▸ storedOld, ?_, Or.inr (Or.inr ?_)⟩
      · change resting = old.order.withQuantity resting.currentQuantity
        rw [decreaseQty_eq_ok reduces, Order.withQuantity_currentQuantity, sameOrder,
          Order.withQuantity_withQuantity]
      · change some orderId = state.bookOrder
        rw [pointed, same]
    · obtain ⟨old, storedOld, sameOrder, left⟩ := progress.entries orderId limit found
      refine ⟨old, storedOld, sameOrder, ?_⟩
      rcases left with equal | nonzero | impossible
      · exact Or.inl equal
      · exact Or.inr (Or.inl nonzero)
      · cases impossible
  · change orderToMatch = order.withQuantity orderToMatch.currentQuantity
    rw [decreaseQty_eq_ok reducesIncoming, Order.withQuantity_currentQuantity, progress.incoming,
      Order.withQuantity_withQuantity]

theorem removeOrderFromBook_progress (own : limits.OwnIds)
    (progress : Progress limits order state.bookOrder state)
    (returned : removeOrderFromBook state = .ok next) : Progress limits order none next := by
  have descends := progress.entries
  obtain ⟨bookLim, reads, afterRead⟩ := bind_eq_ok returned
  obtain ⟨here, pointed, stored⟩ := read_eq_ok reads
  have key : bookLim.order.orderId = here := descends.ownIds own here bookLim stored
  rw [pointed] at descends
  split at afterRead
  · cases afterRead
    refine ⟨?_, progress.incoming⟩
    change Descends limits (state.limitbook.erase bookLim.order.orderId) none
    rw [key]
    exact descends.settle
  · obtain ⟨limitbook, relinks, done⟩ := bind_eq_ok afterRead
    cases done
    refine ⟨?_, progress.incoming⟩
    change Descends limits (limitbook.erase bookLim.order.orderId) none
    rw [key]
    apply Descends.settle
    apply descends.modify _ relinks
    intro limit
    rfl

theorem finishInLevel_progress (own : limits.OwnIds)
    (progress : Progress limits order state.bookOrder state)
    (returned : finishInLevel state = .ok next) : Progress limits order none next := by
  obtain ⟨bookOrder, reads, afterRead⟩ := bind_eq_ok returned
  split at afterRead
  · obtain ⟨removed, removes, afterRemoval⟩ := bind_eq_ok afterRead
    obtain ⟨count, _counts, done⟩ := bind_eq_ok afterRemoval
    have settled := removeOrderFromBook_progress own progress removes
    cases done
    exact ⟨settled.entries, settled.incoming⟩
  · rename_i left
    obtain ⟨unchanged, same, afterRemoval⟩ := bind_eq_ok afterRead
    obtain ⟨count, _counts, done⟩ := bind_eq_ok afterRemoval
    cases same
    cases done
    obtain ⟨here, pointed, stored⟩ := read_eq_ok reads
    refine ⟨?_, progress.incoming⟩
    intro orderId limit found
    obtain ⟨old, storedOld, sameOrder, cases⟩ := progress.entries orderId limit found
    refine ⟨old, storedOld, sameOrder, ?_⟩
    rcases cases with equal | nonzero | spared
    · exact Or.inl equal
    · exact Or.inr (Or.inl nonzero)
    · rw [pointed] at spared
      have found' : state.limitbook.lookup orderId = some limit := found
      rw [Option.some.inj spared, stored] at found'
      cases found'
      rw [beq_iff_eq] at left
      exact Or.inr (Or.inl left)

/-- Induction over the turns of the loop: each turn removes the entry it empties. -/
theorem orderFullyMatchedInLevel_progress (own : limits.OwnIds) {fuel : Nat} {filled : Bool}
    (progress : Progress limits order none state)
    (returned : orderFullyMatchedInLevel clock fuel state = .ok (filled, next)) :
    Progress limits order none next := by
  induction fuel generalizing state with
  | zero =>
      unfold orderFullyMatchedInLevel at returned
      split at returned
      · cases returned
      · cases returned
        exact progress
  | succ fuel ih =>
      unfold orderFullyMatchedInLevel at returned
      split at returned
      · obtain ⟨traded, trades, afterTrade⟩ := bind_eq_ok returned
        have worn := tradeWithBookOrder_progress progress trades
        split at afterTrade
        · obtain ⟨finished, finishes, done⟩ := bind_eq_ok afterTrade
          cases done
          exact finishInLevel_progress own worn finishes
        · obtain ⟨removed, removes, rest⟩ := bind_eq_ok afterTrade
          exact ih (removeOrderFromBook_progress own worn removes) rest
      · cases returned
        exact progress

theorem matchLevels_progress (own : limits.OwnIds) {fuel : Nat}
    (progress : Progress limits order none state)
    (returned : matchLevels clock fuel state = .ok next) : Progress limits order none next := by
  induction fuel generalizing state with
  | zero =>
      unfold matchLevels at returned
      split at returned
      · cases returned
        exact progress
      · cases returned
  | succ fuel ih =>
      unfold matchLevels at returned
      split at returned
      · cases returned
        exact progress
      · simp only at returned
        split at returned
        · cases returned
          exact progress
        · obtain ⟨⟨filled, passed⟩, matched, afterMatch⟩ := bind_eq_ok returned
          have worn : Progress limits order none passed := by
            apply orderFullyMatchedInLevel_progress own _ matched
            exact ⟨progress.entries, progress.incoming⟩
          cases filled with
          | true =>
              cases afterMatch
              exact worn
          | false =>
              obtain ⟨left, leaves, rest⟩ := bind_eq_ok afterMatch
              obtain ⟨count, _counts, done⟩ := bind_eq_ok leaves
              apply ih _ rest
              cases done
              exact ⟨worn.entries, worn.incoming⟩

theorem fifoMatch_progress {book : SideBook side} {outcome : Outcome side} (own : limits.OwnIds)
    (returned : fifoMatch clock order book limits = .ok outcome) :
    Descends limits outcome.limitbook none ∧
      outcome.order = order.withQuantity outcome.order.currentQuantity := by
  unfold fifoMatch at returned
  split at returned
  · cases returned
    exact ⟨Descends.refl limits none, rfl⟩
  · obtain ⟨finished, matched, same⟩ := map_eq_ok returned
    rw [← same]
    have progress := matchLevels_progress own ⟨Descends.refl limits none, rfl⟩ matched
    exact ⟨progress.entries, progress.incoming⟩

end FifoMatcher

/-! ### Placing and taking out -/

namespace OrderBook

open LimitBook

variable {book after : OrderBook} {clock : Nat → Int64} {order : Order}

/-- The id map with one more order. -/
structure Placed (limits : LimitBook) (order : Order) (after : LimitBook) : Prop where
  here : ∃ limit, after.lookup order.orderId = some limit ∧ limit.order = order
  others : ∀ orderId limit, after.lookup orderId = some limit → orderId ≠ order.orderId →
    ∃ old, limits.lookup orderId = some old ∧ limit.order = old.order

theorem placed_insert (limits : LimitBook) {limit : Limit} (same : limit.order = order) :
    Placed limits order (limits.insert order.orderId limit) where
  here := ⟨limit, AList.lookup_insert limits, same⟩
  others := by
    intro orderId stored found different
    rw [lookup_insert_if, if_neg different] at found
    exact ⟨stored, found, rfl⟩

theorem Placed.modify {limits middle final : LimitBook} {ptr : Option OrderId}
    {change : Limit → Limit} (placed : Placed limits order middle)
    (keeps : ∀ limit, (change limit).order = limit.order)
    (returned : middle.modify ptr change = .ok final) : Placed limits order final := by
  unfold LimitBook.modify at returned
  split at returned
  · cases returned
  · rename_i written
    split at returned
    · cases returned
    · rename_i node stored
      cases returned
      constructor
      · rw [lookup_insert_if]
        obtain ⟨limit, found, same⟩ := placed.here
        split
        · rename_i here
          rw [here, stored] at found
          cases found
          exact ⟨change node, rfl, (keeps node).trans same⟩
        · exact ⟨limit, found, same⟩
      · intro orderId limit found different
        rw [lookup_insert_if] at found
        split at found
        · rename_i here
          cases found
          obtain ⟨old, storedOld, same⟩ := placed.others written node stored (here ▸ different)
          exact ⟨old, here ▸ storedOld, (keeps node).trans same⟩
        · exact placed.others orderId limit found different

theorem writeLevel_limitOrders {ptr : Option LevelPtr} {change : Level → Level}
    (returned : book.writeLevel ptr change = .ok after) : after.limitOrders = book.limitOrders := by
  unfold writeLevel at returned
  split at returned
  · cases returned
  · split at returned
    · cases returned
    · cases returned
      exact limitOrders_setLevels book _ _

theorem placeLimitInBookLevel_placed {ptr : LevelPtr}
    (returned : book.placeLimitInBookLevel ptr order = .ok after) :
    Placed book.limitOrders order after.limitOrders := by
  unfold placeLimitInBookLevel at returned
  split at returned
  · cases returned
  · obtain ⟨level, _read, written⟩ := bind_eq_ok returned
    split at written
    · rw [writeLevel_limitOrders written]
      apply placed_insert
      rfl
    · obtain ⟨limits, links, writtenTail⟩ := bind_eq_ok written
      rw [writeLevel_limitOrders writtenTail]
      apply Placed.modify _ _ links
      · apply placed_insert
        rfl
      · intro limit
        rfl

theorem placeOrderInBook_placed {side : BookSide} {isBuySide : UInt8}
    (returned : book.placeOrderInBook side order isBuySide = .ok after) :
    Placed book.limitOrders order after.limitOrders := by
  obtain ⟨sidebook, _made, places⟩ := bind_eq_ok returned
  have placed := placeLimitInBookLevel_placed places
  rw [limitOrders_setLevels] at placed
  exact placed

theorem unlinkLimit_descends {limit : Limit} (returned : book.unlinkLimit limit = .ok after) :
    Descends book.limitOrders after.limitOrders none := by
  have start := Descends.refl book.limitOrders none
  unfold unlinkLimit at returned
  split at returned
  · obtain ⟨first, relinksNext, rest⟩ := bind_eq_ok returned
    obtain ⟨second, relinksPrev, done⟩ := bind_eq_ok rest
    cases done
    apply Descends.modify _ _ relinksPrev
    · apply start.modify _ relinksNext
      intro limit
      rfl
    · intro limit
      rfl
  · split at returned
    · obtain ⟨moved, written, rest⟩ := bind_eq_ok returned
      obtain ⟨limits, relinks, done⟩ := bind_eq_ok rest
      cases done
      rw [writeLevel_limitOrders written] at relinks
      apply start.modify _ relinks
      intro limit
      rfl
    · split at returned
      · obtain ⟨moved, written, rest⟩ := bind_eq_ok returned
        obtain ⟨limits, relinks, done⟩ := bind_eq_ok rest
        cases done
        rw [writeLevel_limitOrders written] at relinks
        apply start.modify _ relinks
        intro limit
        rfl
      · split at returned
        · split at returned
          · cases returned
            exact start
          · cases returned
            exact start
        · cases returned
          exact start

/-! ### Calls -/

theorem cancelOrder_descends {cancel : Info.CancelOrder} {result : CallResult}
    (returned : cancelOrder clock book cancel = .ok result) :
    Descends book.limitOrders result.book.limitOrders none := by
  unfold cancelOrder at returned
  split at returned
  · cases returned
    exact Descends.refl _ none
  · split at returned
    · cases returned
      exact Descends.refl _ none
    · obtain ⟨unlinked, unlinks, done⟩ := bind_eq_ok returned
      cases done
      exact (unlinkLimit_descends unlinks).erase cancel.orderId

/-- Where an entry of the id map comes from after an add: from an entry that was there, or
from the added order, with all of it when nothing was in reach and else with a part that
is not zero. -/
inductive AddedEntry (book : OrderBook) (order : Order) (limit : Limit) : Prop
  | old (stored : Limit) (found : book.limitOrders.lookup limit.order.orderId = some stored)
      (worn : Order.Worn stored.order limit.order)
  | whole (same : limit.order = order) (unreached : reaches book order = false)
  | part (same : limit.order = order.withQuantity limit.order.currentQuantity)
      (left : limit.order.currentQuantity ≠ 0)

theorem Placed.entries {limits : LimitBook} {left : Order} (own : book.limitOrders.OwnIds)
    (descends : Descends book.limitOrders limits none)
    (placed : Placed limits left after.limitOrders)
    (here : ∀ limit, limit.order = left → AddedEntry book order limit) {orderId : OrderId}
    {limit : Limit} (found : after.limitOrders.lookup orderId = some limit) :
    limit.order.orderId = orderId ∧ AddedEntry book order limit := by
  by_cases same : orderId = left.orderId
  · obtain ⟨stored, foundStored, sameOrder⟩ := placed.here
    rw [← same, found] at foundStored
    cases foundStored
    refine ⟨?_, here limit sameOrder⟩
    rw [sameOrder, same]
  · obtain ⟨middle, foundMiddle, sameOrder⟩ := placed.others orderId limit found same
    obtain ⟨old, foundOld, worn⟩ := descends.worn foundMiddle
    have key : limit.order.orderId = orderId := by
      rw [sameOrder, worn.same, Order.withQuantity_orderId]
      exact own orderId old foundOld
    refine ⟨key, ?_⟩
    apply AddedEntry.old old
    · rw [key]
      exact foundOld
    · rw [sameOrder]
      exact worn

theorem old_entry {limits : LimitBook} (own : book.limitOrders.OwnIds)
    (descends : Descends book.limitOrders limits none) {orderId : OrderId} {limit : Limit}
    (found : limits.lookup orderId = some limit) :
    limit.order.orderId = orderId ∧ AddedEntry book order limit := by
  obtain ⟨old, foundOld, worn⟩ := descends.worn found
  have key := descends.ownIds own orderId limit found
  refine ⟨key, ?_⟩
  apply AddedEntry.old old _ worn
  rw [key]
  exact foundOld

theorem addOrderTo_entries {matchSide addSide : BookSide} {result : Order × CallResult}
    (own : book.limitOrders.OwnIds)
    (reached : reaches book order = possibleMatches matchSide (book.levels matchSide) order)
    (returned : addOrderTo clock book order matchSide addSide = .ok result) {orderId : OrderId}
    {limit : Limit} (found : result.2.book.limitOrders.lookup orderId = some limit) :
    limit.order.orderId = orderId ∧ AddedEntry book order limit := by
  unfold addOrderTo at returned
  split at returned
  · obtain ⟨matched, matching, rest⟩ := bind_eq_ok returned
    obtain ⟨descends, incoming⟩ := FifoMatcher.fifoMatch_progress own matching
    split at rest
    · cases rest
      exact old_entry own descends found
    · rename_i left
      obtain ⟨placed, places, done⟩ := bind_eq_ok rest
      cases done
      apply Placed.entries own descends (placeOrderInBook_placed places) _ found
      intro stored same
      rw [beq_iff_eq] at left
      apply AddedEntry.part
      · rw [same]
        exact incoming
      · rw [same]
        exact left
  · rename_i impossible
    obtain ⟨placed, places, done⟩ := bind_eq_ok returned
    cases done
    have start := Descends.refl book.limitOrders none
    apply Placed.entries own start (placeOrderInBook_placed places) _ found
    intro stored same
    apply AddedEntry.whole same
    rw [reached]
    exact Bool.eq_false_iff.mpr impossible

theorem addOrder_entries {result : Order × CallResult} (own : book.limitOrders.OwnIds)
    (returned : addOrder clock book order = .ok result) {orderId : OrderId} {limit : Limit}
    (found : result.2.book.limitOrders.lookup orderId = some limit) :
    limit.order.orderId = orderId ∧ AddedEntry book order limit := by
  have start := Descends.refl book.limitOrders none
  unfold addOrder at returned
  split at returned
  · cases returned
    exact old_entry own start found
  · split at returned
    · rename_i buys
      apply addOrderTo_entries own _ returned found
      rw [reaches, if_pos buys]
    · rename_i notBuys
      split at returned
      · rename_i sells
        apply addOrderTo_entries own _ returned found
        rw [reaches, if_neg notBuys, if_pos sells]
      · cases returned
        exact old_entry own start found

/-- Every entry is stored under its own id and has a quantity left. -/
structure Live (book : OrderBook) : Prop where
  own : book.limitOrders.OwnIds
  left : ∀ orderId limit, book.limitOrders.lookup orderId = some limit →
    0 < limit.order.currentQuantity

theorem empty_live (ticker : Ticker) : (empty ticker).Live where
  own := by
    intro orderId limit found
    cases found
  left := by
    intro orderId limit found
    cases found

theorem changed_ownIds {orderId : OrderId} {limit : Limit} {changed : Order}
    (own : book.limitOrders.OwnIds) (found : book.limitOrders.lookup orderId = some limit)
    (sameId : changed.orderId = limit.order.orderId) :
    LimitBook.OwnIds (book.limitOrders.insert orderId { limit with order := changed }) := by
  intro other stored there
  rw [lookup_insert_if] at there
  split at there
  · rename_i here
    cases there
    rw [here]
    exact sameId.trans (own orderId limit found)
  · exact own other stored there

theorem modifyInPlace_orderId {changes : Info.ModifyOrder} {changed : Order}
    (returned : modifyInPlace changes order = .ok changed) : changed.orderId = order.orderId := by
  obtain ⟨quantity, same⟩ := modifyInPlace_eq changes order
  rw [same] at returned
  cases returned
  rfl

/-- Every call keeps each entry under its own id. -/
theorem call_ownIds {request : Request} {result : CallResult} (own : book.limitOrders.OwnIds)
    (returned : book.call request = .ok result) : result.book.limitOrders.OwnIds := by
  cases request with
  | add clock order =>
      obtain ⟨added, adds, same⟩ := map_eq_ok returned
      rw [← same]
      intro orderId limit found
      exact (addOrder_entries own adds found).1
  | cancel clock cancel => exact (cancelOrder_descends returned).ownIds own
  | modify clock changes =>
      simp only [call, modifyOrder] at returned
      split at returned
      · cases returned
        exact own
      · rename_i limit found
        split at returned
        · cases returned
          exact own
        · split at returned
          · obtain ⟨changed, changing, done⟩ := bind_eq_ok returned
            cases done
            exact changed_ownIds own found (modifyInPlace_orderId changing)
          · obtain ⟨cancelled, cancels, rest⟩ := bind_eq_ok returned
            obtain ⟨added, adds, done⟩ := bind_eq_ok rest
            cases done
            have without := (cancelOrder_descends cancels).ownIds own
            intro orderId stored there
            exact (addOrder_entries without adds there).1

end OrderBook

end Engine
end SpotExchange
