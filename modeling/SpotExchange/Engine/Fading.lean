/-
Orders that only fade. Whatever the single operations of matching keep, matching keeps; so no
order has more left after it. Nothing is assumed of the levels and the links.
-/

import SpotExchange.Engine.LiveOrders

namespace SpotExchange
namespace Engine

open Collections Machine Wire

/-- The same order with no more than it had. -/
structure Order.Faded (old new : Order) : Prop where
  same : new = old.withQuantity new.currentQuantity
  less : new.currentQuantity ≤ old.currentQuantity

namespace Order.Faded

theorem refl (order : Order) : Faded order order where
  same := rfl
  less := UInt32.le_refl _

theorem trans {first second third : Order} (earlier : Faded first second)
    (later : Faded second third) : Faded first third where
  same := by
    rw [later.same, earlier.same]
    rfl
  less := UInt32.le_trans later.less earlier.less

/-- Whatever does not depend on the quantity is the same. -/
theorem kept {Value : Type} {old new : Order} (faded : Faded old new) (view : Order → Value)
    (ignores : ∀ quantity, view (old.withQuantity quantity) = view old) : view new = view old := by
  rw [faded.same]
  exact ignores new.currentQuantity

end Order.Faded

theorem decreaseQty_faded {order reduced : Order} {qtyDelta : UInt32}
    (returned : order.decreaseQty qtyDelta = .ok reduced) : Order.Faded order reduced := by
  unfold Order.decreaseQty at returned
  split at returned
  · cases returned
  · rename_i covered
    rw [← Except.ok.inj returned]
    refine ⟨rfl, ?_⟩
    rw [Order.withQuantity_currentQuantity, UInt32.le_iff_toNat_le,
      UInt32.toNat_sub_of_le _ _ (UInt32.not_lt.mp covered)]
    exact Nat.sub_le _ _

/-! ### Entries that come from others -/

namespace LimitBook

/-- Every entry comes from one under the same id, whose order is so related to its own. -/
def Inherits (relates : Order → Order → Prop) (limits after : LimitBook) : Prop :=
  ∀ orderId limit, after.lookup orderId = some limit →
    ∃ old, limits.lookup orderId = some old ∧ relates old.order limit.order

namespace Inherits

variable {relates : Order → Order → Prop} {limits middle after : LimitBook}

theorem refl (reflexive : ∀ order, relates order order) (limits : LimitBook) :
    Inherits relates limits limits := by
  intro orderId limit found
  exact ⟨limit, found, reflexive limit.order⟩

theorem trans (transitive : ∀ {first second third}, relates first second →
      relates second third → relates first third)
    (earlier : Inherits relates limits middle) (later : Inherits relates middle after) :
    Inherits relates limits after := by
  intro orderId limit found
  obtain ⟨between, stored, second⟩ := later orderId limit found
  obtain ⟨old, storedOld, first⟩ := earlier orderId between stored
  exact ⟨old, storedOld, transitive first second⟩

theorem modify {ptr : Option OrderId} {change : Limit → Limit}
    (inherits : Inherits relates limits middle)
    (keeps : ∀ limit, (change limit).order = limit.order)
    (returned : middle.modify ptr change = .ok after) : Inherits relates limits after := by
  unfold LimitBook.modify at returned
  split at returned
  · cases returned
  · rename_i written
    split at returned
    · cases returned
    · rename_i node stored
      cases returned
      intro orderId limit found
      rw [lookup_insert_if] at found
      split at found
      · rename_i here
        cases found
        rw [keeps, here]
        exact inherits written node stored
      · exact inherits orderId limit found

theorem erase (inherits : Inherits relates limits middle) (erased : OrderId) :
    Inherits relates limits (middle.erase erased) := by
  intro orderId limit found
  rw [lookup_erase_if] at found
  split at found
  · cases found
  · exact inherits orderId limit found

end Inherits

/-- The same orders under every id but one. -/
def AgreeBut (changed : OrderId) (limits after : LimitBook) : Prop :=
  ∀ orderId, orderId ≠ changed →
    (after.lookup orderId).map Limit.order = (limits.lookup orderId).map Limit.order

namespace AgreeBut

variable {changed : OrderId} {limits middle after : LimitBook}

theorem refl (changed : OrderId) (limits : LimitBook) : AgreeBut changed limits limits :=
  fun _orderId _different => rfl

theorem insert (agrees : AgreeBut changed limits middle) (limit : Limit) :
    AgreeBut changed limits (middle.insert changed limit) := by
  intro orderId different
  rw [AList.lookup_insert_ne different]
  exact agrees orderId different

theorem erase (agrees : AgreeBut changed limits middle) :
    AgreeBut changed limits (middle.erase changed) := by
  intro orderId different
  rw [AList.lookup_erase_ne different]
  exact agrees orderId different

theorem modify {ptr : Option OrderId} {change : Limit → Limit}
    (agrees : AgreeBut changed limits middle)
    (keeps : ∀ limit, (change limit).order = limit.order)
    (returned : middle.modify ptr change = .ok after) : AgreeBut changed limits after := by
  unfold LimitBook.modify at returned
  split at returned
  · cases returned
  · rename_i written
    split at returned
    · cases returned
    · rename_i node stored
      cases returned
      intro orderId different
      rw [← agrees orderId different]
      by_cases here : orderId = written
      · rw [here, AList.lookup_insert, stored, Option.map_some, Option.map_some, keeps]
      · rw [AList.lookup_insert_ne here]

/-- What is still there is what was there. -/
theorem found (agrees : AgreeBut changed limits after) {orderId : OrderId} {limit : Limit}
    (different : orderId ≠ changed) (stored : after.lookup orderId = some limit) :
    ∃ old, limits.lookup orderId = some old ∧ old.order = limit.order := by
  have same := agrees orderId different
  rw [stored, Option.map_some] at same
  exact Option.map_eq_some_iff.mp same.symm

/-- What was there is still there. -/
theorem kept (agrees : AgreeBut changed limits after) {orderId : OrderId} {limit : Limit}
    (different : orderId ≠ changed) (stored : limits.lookup orderId = some limit) :
    ∃ left, after.lookup orderId = some left ∧ left.order = limit.order := by
  have same := agrees orderId different
  rw [stored, Option.map_some] at same
  exact Option.map_eq_some_iff.mp same

end AgreeBut
end LimitBook

/-! ### What matching keeps -/

namespace FifoMatcher

open LimitBook

variable {side : BookSide} {clock : Nat → Int64}

/-- A preorder of matching states that sees neither the cursor nor the flag of the result and that
holds between the states before and after a trade, and before and after a removal. -/
structure KeptBy (clock : Nat → Int64) (relates : Matching side → Matching side → Prop) :
    Prop where
  refl : ∀ state, relates state state
  trans : ∀ {first second third}, relates first second → relates second third →
    relates first third
  moves : ∀ (state : Matching side) cursor bookOrder matchResult,
    matchResult.fills = state.matchResult.fills → relates state
      { state with
        cursor := cursor
        bookOrder := bookOrder
        matchResult := matchResult }
  trades : ∀ {state next}, tradeWithBookOrder clock state = .ok next → relates state next
  removes : ∀ {state next}, removeOrderFromBook state = .ok next → relates state next

section Kept

variable {relates : Matching side → Matching side → Prop} {state next : Matching side}

theorem finishInLevel_kept (kept : KeptBy clock relates)
    (returned : finishInLevel state = .ok next) : relates state next := by
  obtain ⟨bookOrder, _reads, afterRead⟩ := bind_eq_ok returned
  split at afterRead
  · obtain ⟨removed, removes, afterRemoval⟩ := bind_eq_ok afterRead
    obtain ⟨count, _counts, done⟩ := bind_eq_ok afterRemoval
    cases done
    exact kept.trans (kept.removes removes) (kept.moves removed _ removed.bookOrder _ rfl)
  · obtain ⟨unchanged, same, afterRemoval⟩ := bind_eq_ok afterRead
    obtain ⟨count, _counts, done⟩ := bind_eq_ok afterRemoval
    cases same
    cases done
    exact kept.moves state _ state.bookOrder _ rfl

/-- Induction over the turns of the loop. -/
theorem orderFullyMatchedInLevel_kept (kept : KeptBy clock relates) {fuel : Nat} {filled : Bool}
    (returned : orderFullyMatchedInLevel clock fuel state = .ok (filled, next)) :
    relates state next := by
  induction fuel generalizing state with
  | zero =>
      unfold orderFullyMatchedInLevel at returned
      split at returned
      · cases returned
      · cases returned
        exact kept.refl _
  | succ fuel ih =>
      unfold orderFullyMatchedInLevel at returned
      split at returned
      · obtain ⟨traded, trades, afterTrade⟩ := bind_eq_ok returned
        have first := kept.trades trades
        split at afterTrade
        · obtain ⟨finished, finishes, done⟩ := bind_eq_ok afterTrade
          cases done
          exact kept.trans first (finishInLevel_kept kept finishes)
        · obtain ⟨removed, removes, rest⟩ := bind_eq_ok afterTrade
          exact kept.trans first (kept.trans (kept.removes removes) (ih rest))
      · cases returned
        exact kept.refl _

theorem leaveLevel_kept (kept : KeptBy clock relates) (returned : leaveLevel state = .ok next) :
    relates state next := by
  obtain ⟨count, _counts, done⟩ := bind_eq_ok returned
  cases done
  exact kept.moves state _ state.bookOrder state.matchResult rfl

theorem matchLevels_kept (kept : KeptBy clock relates) {fuel : Nat}
    (returned : matchLevels clock fuel state = .ok next) : relates state next := by
  induction fuel generalizing state with
  | zero =>
      unfold matchLevels at returned
      split at returned
      · cases returned
        exact kept.refl _
      · cases returned
  | succ fuel ih =>
      unfold matchLevels at returned
      split at returned
      · cases returned
        exact kept.refl _
      · simp only at returned
        split at returned
        · cases returned
          exact kept.refl _
        · obtain ⟨⟨filled, passed⟩, matched, afterMatch⟩ := bind_eq_ok returned
          have entered := kept.moves state state.cursor.access state.cursor.bookLvl.head
            state.matchResult rfl
          have inLevel := kept.trans entered (orderFullyMatchedInLevel_kept kept matched)
          cases filled with
          | true =>
              cases afterMatch
              exact inLevel
          | false =>
              obtain ⟨left, leaves, rest⟩ := bind_eq_ok afterMatch
              exact kept.trans inLevel (kept.trans (leaveLevel_kept kept leaves) (ih rest))

end Kept

/-! ### Matching takes quantity away -/

/-- Neither the incoming order nor a resting one has more than it had. -/
structure Fading (state next : Matching side) : Prop where
  entries : Inherits Order.Faded state.limitbook next.limitbook
  incoming : Order.Faded state.orderToMatch next.orderToMatch

theorem tradeWithBookOrder_fading {state next : Matching side}
    (returned : tradeWithBookOrder clock state = .ok next) : Fading state next := by
  obtain ⟨bookOrder, reads, afterRead⟩ := bind_eq_ok returned
  obtain ⟨orderToMatch, reducesIncoming, afterIncoming⟩ := bind_eq_ok afterRead
  obtain ⟨resting, reduces, afterResting⟩ := bind_eq_ok afterIncoming
  obtain ⟨limitbook, writes, done⟩ := bind_eq_ok afterResting
  cases done
  obtain ⟨here, pointed, stored⟩ := read_eq_ok reads
  rw [pointed, modify_of_lookup _ stored] at writes
  cases writes
  refine ⟨?_, decreaseQty_faded reducesIncoming⟩
  intro orderId limit found
  rw [lookup_insert_if] at found
  split at found
  · rename_i same
    cases found
    exact ⟨bookOrder, same ▸ stored, decreaseQty_faded reduces⟩
  · exact ⟨limit, found, Order.Faded.refl limit.order⟩

theorem removeOrderFromBook_fading {state next : Matching side}
    (returned : removeOrderFromBook state = .ok next) : Fading state next := by
  have start := Inherits.refl Order.Faded.refl state.limitbook
  obtain ⟨bookLim, _reads, afterRead⟩ := bind_eq_ok returned
  split at afterRead
  · cases afterRead
    exact ⟨start.erase _, Order.Faded.refl _⟩
  · obtain ⟨limitbook, relinks, done⟩ := bind_eq_ok afterRead
    cases done
    refine ⟨?_, Order.Faded.refl _⟩
    apply Inherits.erase
    apply start.modify _ relinks
    intro limit
    rfl

theorem fading_keptBy (clock : Nat → Int64) :
    KeptBy clock (Fading : Matching side → Matching side → Prop) where
  refl := by
    intro state
    exact ⟨Inherits.refl Order.Faded.refl _, Order.Faded.refl _⟩
  trans := by
    intro first second third earlier later
    exact ⟨earlier.entries.trans Order.Faded.trans later.entries,
      earlier.incoming.trans later.incoming⟩
  moves := by
    intro state cursor bookOrder matchResult _same
    exact ⟨Inherits.refl Order.Faded.refl _, Order.Faded.refl _⟩
  trades := tradeWithBookOrder_fading
  removes := removeOrderFromBook_fading

/-- After matching every order has at most what it had before. -/
theorem fifoMatch_fades {order : Order} {book : SideBook side} {limits : LimitBook}
    {outcome : Outcome side} (returned : fifoMatch clock order book limits = .ok outcome) :
    Inherits Order.Faded limits outcome.limitbook ∧ Order.Faded order outcome.order := by
  unfold fifoMatch at returned
  split at returned
  · cases returned
    exact ⟨Inherits.refl Order.Faded.refl limits, Order.Faded.refl order⟩
  · obtain ⟨finished, matched, same⟩ := map_eq_ok returned
    rw [← same]
    have fading := matchLevels_kept (fading_keptBy clock) matched
    exact ⟨fading.entries, fading.incoming⟩

/-! ### Matching without a trade -/

/-- The executions of the later state continue those of the earlier one. -/
def Continues (state next : Matching side) : Prop := state.executions <+: next.executions

theorem continues_keptBy (clock : Nat → Int64) :
    KeptBy clock (Continues : Matching side → Matching side → Prop) where
  refl := fun _state => List.prefix_refl _
  trans := List.IsPrefix.trans
  moves := fun _state _cursor _bookOrder _matchResult _same => List.prefix_refl _
  trades := by
    intro state next returned
    obtain ⟨bookOrder, _reads, afterRead⟩ := bind_eq_ok returned
    obtain ⟨orderToMatch, _reducesIncoming, afterIncoming⟩ := bind_eq_ok afterRead
    obtain ⟨resting, _reduces, afterResting⟩ := bind_eq_ok afterIncoming
    obtain ⟨limitbook, _writes, done⟩ := bind_eq_ok afterResting
    cases done
    exact List.prefix_append _ _
  removes := by
    intro state next returned
    obtain ⟨bookLim, _reads, afterRead⟩ := bind_eq_ok returned
    split at afterRead
    · cases afterRead
      exact List.prefix_refl _
    · obtain ⟨limitbook, _relinks, done⟩ := bind_eq_ok afterRead
      cases done
      exact List.prefix_refl _

/-- A trade is listed. -/
theorem tradeWithBookOrder_listed {state next : Matching side}
    (returned : tradeWithBookOrder clock state = .ok next) : next.executions ≠ [] := by
  obtain ⟨bookOrder, _reads, afterRead⟩ := bind_eq_ok returned
  obtain ⟨orderToMatch, _reducesIncoming, afterIncoming⟩ := bind_eq_ok afterRead
  obtain ⟨resting, _reduces, afterResting⟩ := bind_eq_ok afterIncoming
  obtain ⟨limitbook, _writes, done⟩ := bind_eq_ok afterResting
  cases done
  exact List.concat_ne_nil _ _

/-- Neither the incoming order nor a resting one has changed. -/
structure Idle (state next : Matching side) : Prop where
  entries : next.limitbook = state.limitbook
  incoming : next.orderToMatch = state.orderToMatch

/-- A level in which nothing trades has no order. -/
theorem orderFullyMatchedInLevel_idle {fuel : Nat} {filled : Bool} {state next : Matching side}
    (returned : orderFullyMatchedInLevel clock fuel state = .ok (filled, next))
    (untraded : next.executions = []) : Idle state next := by
  cases fuel with
  | zero =>
      unfold orderFullyMatchedInLevel at returned
      split at returned
      · cases returned
      · cases returned
        exact ⟨rfl, rfl⟩
  | succ fuel =>
      unfold orderFullyMatchedInLevel at returned
      split at returned
      · obtain ⟨traded, trades, afterTrade⟩ := bind_eq_ok returned
        have continues : traded.executions <+: next.executions := by
          split at afterTrade
          · obtain ⟨finished, finishes, done⟩ := bind_eq_ok afterTrade
            cases done
            exact finishInLevel_kept (continues_keptBy clock) finishes
          · obtain ⟨removed, removes, rest⟩ := bind_eq_ok afterTrade
            exact ((continues_keptBy clock).removes removes).trans
              (orderFullyMatchedInLevel_kept (continues_keptBy clock) rest)
        rw [untraded] at continues
        exact absurd (List.prefix_nil.mp continues) (tradeWithBookOrder_listed trades)
      · cases returned
        exact ⟨rfl, rfl⟩

/-- Induction over the levels: each that is passed has no order. -/
theorem matchLevels_idle {fuel : Nat} {state next : Matching side}
    (returned : matchLevels clock fuel state = .ok next) (untraded : next.executions = []) :
    Idle state next := by
  induction fuel generalizing state with
  | zero =>
      unfold matchLevels at returned
      split at returned
      · cases returned
        exact ⟨rfl, rfl⟩
      · cases returned
  | succ fuel ih =>
      unfold matchLevels at returned
      split at returned
      · cases returned
        exact ⟨rfl, rfl⟩
      · simp only at returned
        split at returned
        · cases returned
          exact ⟨rfl, rfl⟩
        · obtain ⟨⟨filled, passed⟩, matched, afterMatch⟩ := bind_eq_ok returned
          cases filled with
          | true =>
              cases afterMatch
              have idle := orderFullyMatchedInLevel_idle matched untraded
              exact ⟨idle.entries, idle.incoming⟩
          | false =>
              obtain ⟨left, leaves, rest⟩ := bind_eq_ok afterMatch
              have further := ih rest
              have continues : left.executions <+: next.executions :=
                matchLevels_kept (continues_keptBy clock) rest
              obtain ⟨count, _counts, done⟩ := bind_eq_ok leaves
              cases done
              rw [untraded] at continues
              have idle := orderFullyMatchedInLevel_idle matched (List.prefix_nil.mp continues)
              exact ⟨further.entries.trans idle.entries, further.incoming.trans idle.incoming⟩

/-- Matching that trades nothing changes nothing. -/
theorem fifoMatch_idle {order : Order} {book : SideBook side} {limits : LimitBook}
    {outcome : Outcome side} (returned : fifoMatch clock order book limits = .ok outcome)
    (untraded : outcome.executions = []) :
    outcome.limitbook = limits ∧ outcome.order = order := by
  unfold fifoMatch at returned
  split at returned
  · cases returned
    exact ⟨rfl, rfl⟩
  · obtain ⟨finished, matched, same⟩ := map_eq_ok returned
    rw [← same] at untraded ⊢
    have idle := matchLevels_idle matched untraded
    exact ⟨idle.entries, idle.incoming⟩

end FifoMatcher

end Engine
end SpotExchange
