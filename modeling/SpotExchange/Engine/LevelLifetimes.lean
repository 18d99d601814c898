/-
How long the level reference of the matching loop is good for, and which levels
matching erases. The reference is bound to the best level of the side. It is used
again after that level has been erased exactly when the order is not filled there.
-/

import SpotExchange.Engine.Balance
import SpotExchange.Engine.PriceTimePriority
import SpotExchange.Engine.Uncrossed

namespace SpotExchange
namespace Engine

open Collections IntrusiveList Allocation Machine

/-! ### Uses of erased levels -/

section Uses

variable {side : BookSide} {clock : Nat → Int64} {state next : Matching side}

namespace LevelCursor

variable {cursor : LevelCursor side}

theorem access_touched (touched : cursor.touchedErased = true) :
    cursor.access.touchedErased = true := by
  simp only [access, touched, Bool.true_or]

theorem eraseAtIterator_touched (touched : cursor.touchedErased = true) :
    cursor.eraseAtIterator.touchedErased = true := by
  unfold eraseAtIterator
  split
  · exact touched
  · exact touched

theorem advance_touched (touched : cursor.touchedErased = true) :
    cursor.advance.touchedErased = true := by
  unfold advance
  split
  · exact touched
  · exact touched

theorem assignFromIterator_touched (touched : cursor.touchedErased = true) :
    cursor.assignFromIterator.touchedErased = true := by
  unfold assignFromIterator
  split
  · exact access_touched touched
  · exact access_touched touched

end LevelCursor

namespace FifoMatcher

open LevelCursor

/-! A use of erased storage that was noted stays noted. -/

theorem removeOrderFromBook_touched (touched : state.cursor.touchedErased = true)
    (returned : removeOrderFromBook state = .ok next) : next.cursor.touchedErased = true := by
  obtain ⟨_order, cursor⟩ := remove_keeps returned
  rw [cursor]
  exact access_touched touched

theorem finishInLevel_touched (touched : state.cursor.touchedErased = true)
    (returned : finishInLevel state = .ok next) : next.cursor.touchedErased = true := by
  have closes : ∀ {kept : Matching side}, kept.cursor.touchedErased = true →
      (kept.cursor.bookLvl.getLevelOrderCount kept.limitbook >>= fun count =>
        (pure
          { kept with
            cursor :=
              if count == 0 then kept.cursor.access.eraseAtIterator else kept.cursor.access
            matchResult := kept.matchResult.setOrderFilled } : Except Fault (Matching side))) =
        .ok next → next.cursor.touchedErased = true := by
    intro kept keptTouched closed
    obtain ⟨count, _counts, done⟩ := bind_eq_ok closed
    have accessed := access_touched keptTouched
    cases done
    simp only
    split
    · exact eraseAtIterator_touched accessed
    · exact accessed
  obtain ⟨bookOrder, _reads, afterRead⟩ := bind_eq_ok returned
  by_cases empty : (bookOrder.order.currentQuantity == 0) = true
  · rw [if_pos empty] at afterRead
    obtain ⟨trimmed, removes, closed⟩ := bind_eq_ok afterRead
    exact closes (removeOrderFromBook_touched touched removes) closed
  · rw [if_neg empty] at afterRead
    exact closes touched afterRead

theorem orderFullyMatchedInLevel_touched {fuel : Nat} {filled : Bool}
    (touched : state.cursor.touchedErased = true)
    (returned : orderFullyMatchedInLevel clock fuel state = .ok (filled, next)) :
    next.cursor.touchedErased = true := by
  induction fuel generalizing state with
  | zero =>
      unfold orderFullyMatchedInLevel at returned
      split at returned
      · cases returned
      · cases returned
        exact touched
  | succ fuel ih =>
      unfold orderFullyMatchedInLevel at returned
      split at returned
      · obtain ⟨traded, trades, afterTrade⟩ := bind_eq_ok returned
        have tradedTouched : traded.cursor.touchedErased = true := by
          rw [(trade_keeps trades).1]
          exact touched
        split at afterTrade
        · obtain ⟨finished, finishes, done⟩ := bind_eq_ok afterTrade
          cases done
          exact finishInLevel_touched tradedTouched finishes
        · obtain ⟨removed, removes, rest⟩ := bind_eq_ok afterTrade
          exact ih (removeOrderFromBook_touched tradedTouched removes) rest
      · cases returned
        exact touched

theorem leaveLevel_touched (touched : state.cursor.touchedErased = true)
    (returned : leaveLevel state = .ok next) : next.cursor.touchedErased = true := by
  obtain ⟨count, _counts, done⟩ := bind_eq_ok returned
  have accessed := access_touched touched
  cases done
  apply assignFromIterator_touched
  split
  · exact eraseAtIterator_touched accessed
  · exact advance_touched accessed

theorem matchLevels_touched {fuel : Nat} (touched : state.cursor.touchedErased = true)
    (returned : matchLevels clock fuel state = .ok next) : next.cursor.touchedErased = true := by
  induction fuel generalizing state with
  | zero =>
      unfold matchLevels at returned
      split at returned
      · cases returned
        exact touched
      · cases returned
  | succ fuel ih =>
      unfold matchLevels at returned
      split at returned
      · cases returned
        exact touched
      · simp only at returned
        split at returned
        · cases returned
          exact touched
        · obtain ⟨⟨filled, passed⟩, matched, afterMatch⟩ := bind_eq_ok returned
          have passedTouched : passed.cursor.touchedErased = true :=
            orderFullyMatchedInLevel_touched (access_touched touched) matched
          cases filled with
          | true =>
              cases afterMatch
              exact passedTouched
          | false =>
              obtain ⟨left, leaves, rest⟩ := bind_eq_ok afterMatch
              exact ih (leaveLevel_touched passedTouched leaves) rest

end FifoMatcher

/-- Once the reference is bound to no entry, a use of erased storage has been noted. -/
theorem touched_of_unbound {cursor : LevelCursor side} (noted : cursor.access = cursor)
    (unbound : cursor.entry = none) : cursor.touchedErased = true := by
  rw [← noted]
  simp [LevelCursor.access, unbound]

/-- Closing the level that the reference is bound to uses nothing that is erased. -/
theorem closeLevel_untouched {cursor : LevelCursor side} {price : Price}
    (bound : cursor.entry = some price) (atFront : cursor.bookItr = some price)
    (untouched : cursor.touchedErased = false) (inside : cursor.readEnd = false)
    (head : Option OrderId) (remaining : List Order) :
    (closeLevel (cursor.write (Level.withHead head)) remaining).touchedErased = false ∧
      (closeLevel (cursor.write (Level.withHead head)) remaining).readEnd = false := by
  have written : (cursor.write (Level.withHead head)).touchedErased = false := by
    simp [LevelCursor.write, LevelCursor.access, bound, untouched]
  have itr : (cursor.write (Level.withHead head)).bookItr = some price := atFront
  unfold closeLevel
  split
  · unfold LevelCursor.eraseAtIterator
    rw [itr]
    exact ⟨written, inside⟩
  · exact ⟨written, inside⟩

end Uses

/-- Matching returns, and on the way it has used no erased level and has not read
through the end iterator. A read or a write of an erased limit would be a fault. -/
def UsesLiveLevels {side : BookSide} (clock : Nat → Int64) (order : Order)
    (book : SideBook side) (limits : LimitBook) : Prop :=
  ∃ outcome, FifoMatcher.fifoMatch clock order book limits = .ok outcome ∧
    outcome.touchedErased = false ∧ outcome.readEnd = false

/-- An order that reaches the best level uses live levels only exactly when that level
holds enough to fill it. -/
theorem usesLiveLevels_iff {side : BookSide} (clock : Nat → Int64) (order : Order)
    (book : SideBook side) (limits : LimitBook) (price : Price) (items : List Order)
    (rest : Queues) (held : Holds side limits book.entries ((price, items) :: rest))
    (distinct : (allIds ((price, items) :: rest)).Nodup)
    (crosses : accepts side order.price price = true) :
    UsesLiveLevels clock order book limits ↔ orderAmount order ≤ offered orderAmount items := by
  obtain ⟨entry, others, ⟨samePrice, here⟩, later, front⟩ :=
    List.forall₂_cons_right_iff.mp held
  obtain ⟨entryPrice, level⟩ := entry
  have same : entryPrice = price := samePrice
  subst same
  have standing : AtLevels (FifoMatcher.initial order book limits entryPrice level)
      ((entryPrice, items) :: rest) := AtLevels.initial held distinct front
  have accepted : accepts side
      (FifoMatcher.initial order book limits entryPrice level).orderToMatch.price entryPrice =
        true := crosses
  have sized : book.size = others.length + 1 := by
    rw [OrderedMap.size, front, List.length_cons]
  obtain ⟨looped, turned, result⟩ :=
    @AtLevels.turn side clock _ entryPrice items rest standing others.length accepted
  have matched : FifoMatcher.fifoMatch clock order book limits =
      (if (fillOrders order items).left = 0 then .ok looped
        else FifoMatcher.leaveLevel looped >>=
          FifoMatcher.matchLevels clock others.length).map FifoMatcher.outcome := by
    unfold FifoMatcher.fifoMatch
    rw [front]
    simp only
    rw [sized, turned]
    rfl
  unfold UsesLiveLevels
  rw [matched]
  by_cases stopped : (fillOrders order items).left = 0
  · have enough : orderAmount order ≤ offered orderAmount items := offered_of_filled stopped
    rw [if_pos stopped]
    constructor
    · intro _used
      exact enough
    · intro _enough
      obtain ⟨closed, _flag⟩ := result.closed stopped
      have clean := @closeLevel_untouched side
        (FifoMatcher.initial order book limits entryPrice level).cursor entryPrice rfl rfl rfl rfl
        (headOf (fillOrders order items).remaining) (fillOrders order items).remaining
      refine ⟨FifoMatcher.outcome looped, rfl, ?_⟩
      change looped.cursor.touchedErased = false ∧ looped.cursor.readEnd = false
      rw [closed]
      exact clean
  · rw [if_neg stopped]
    constructor
    · rintro ⟨outcome, returned, untouched, _inside⟩
      obtain ⟨after, runs, same⟩ := map_eq_ok returned
      obtain ⟨left, leaves, finishes⟩ := bind_eq_ok runs
      obtain ⟨next, nextLeaves, nextStanding, unbound, _swept⟩ :=
        standing.leave front later rfl (Or.inr rfl) stopped result
      rw [nextLeaves] at leaves
      cases leaves
      have touched := FifoMatcher.matchLevels_touched
        (touched_of_unbound nextStanding.noted unbound) finishes
      rw [← same] at untouched
      exact absurd (touched.symm.trans untouched) Bool.true_eq_false.mp
    · intro enough
      exact absurd (fillQueue_covers enough) stopped

/-- Five are bought: the first of two levels is used up and erased. -/
theorem usesLiveLevels_twoLevels :
    UsesLiveLevels (fun _ => 0) { sampleBuy 5 with price := 101 } twoLevelBook twoLevelLimits :=
  (usesLiveLevels_iff (fun _ => 0) { sampleBuy 5 with price := 101 } twoLevelBook twoLevelLimits
    100 [laterSell 3 100] [(101, [laterSell 4 101, laterSell 5 101])] twoLevels_hold (by decide)
    (by decide)).mpr (by decide)

/-- Four thousand are sold to a side that holds two thousand. -/
theorem whole_side_uses_dead_level :
    Holds .bids (soloLimits .bids (sampleBuy 2000)) (soloBook .bids (sampleBuy 2000)).entries
        [(100, [sampleBuy 2000])] ∧
      accepts .bids (sampleSell 4000).price 100 = true ∧
      ¬UsesLiveLevels (fun _ => 0) (sampleSell 4000) (soloBook .bids (sampleBuy 2000))
        (soloLimits .bids (sampleBuy 2000)) := by
  refine ⟨solo_holds .bids (sampleBuy 2000) rfl, by decide, ?_⟩
  rintro ⟨outcome, returned, untouched, _inside⟩
  have evaluated : (FifoMatcher.fifoMatch (fun _ => 0) (sampleSell 4000)
      (soloBook .bids (sampleBuy 2000)) (soloLimits .bids (sampleBuy 2000))).toOption.map
        (fun outcome => (outcome.touchedErased, outcome.readEnd)) = some (true, true) := by
    decide +kernel
  rw [returned] at evaluated
  have touched : outcome.touchedErased = true := (Prod.mk.inj (Option.some.inj evaluated)).1
  rw [touched] at untouched
  cases untouched

/-! ### Erased levels -/

namespace OrderBook

variable {book after : OrderBook} {side : BookSide} {order : Order} {clock : Nat → Int64}

end OrderBook

end Engine
end SpotExchange
