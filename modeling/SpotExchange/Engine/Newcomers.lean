/-
What becomes known of an order that comes in under a new id: its client and the market data are
told the same fills, and the market data whether something of it rests.
-/

import SpotExchange.Engine.Headed
import SpotExchange.Engine.Reports

namespace SpotExchange
namespace Engine

open Collections Machine Wire

/-- The fills are those of the order. -/
theorem Reports.common_eq {common : Info.OrderCommon} {remaining : OrderId → UInt32}
    {quantity left : UInt32} {executions : List Execution} {fills : List OrderEntryFill}
    (reports : Reports common remaining quantity executions fills left) :
    ∀ fill ∈ fills, fill.statusCommon = common := by
  induction reports with
  | nothing remaining left =>
      intro fill member
      cases member
  | execution timestamp incoming least last further ih =>
      intro fill member
      rcases List.mem_cons.mp member with first | later
      · rw [first]
        rfl
      · rcases List.mem_cons.mp later with second | rest
        · rw [second]
          rfl
        · exact ih fill rest

/-- The order has traded and nothing is left of it, or what is left rests and is announced. So
much remains of the orders that rested before it. -/
inductive Newcomer (order : Order) (remaining : OrderId → UInt32) (result : CallResult) : Prop
  | used {fills : List OrderEntryFill} (some : result.executions ≠ [])
      (reports : Reports order.common remaining order.currentQuantity result.executions fills 0)
      (told : toClients result.emitted =
        fills.map (fun fill => (order.connection, OrderEntryResponse.fill fill)))
      (published : marketDataOf result.emitted = fills.map MarketDataResponse.fill)
  | rests {fills : List OrderEntryFill} {left : UInt32} (timestamp : UInt64)
      (reports : Reports order.common remaining order.currentQuantity result.executions fills
        left)
      (some : left ≠ 0 ∨ result.executions = [])
      (told : toClients result.emitted =
        fills.map (fun fill => (order.connection, OrderEntryResponse.fill fill)))
      (published : marketDataOf result.emitted =
        fills.map MarketDataResponse.fill ++
          [.add
            { timestamp := timestamp
              orderId := order.orderId
              ticker := order.ticker
              price := order.price
              quantity := left
              isBuySide := order.isBuySide != 0 }])

namespace OrderBook

variable {book : OrderBook} {clock : Nat → Int64} {order rested : Order} {result : CallResult}

/-- The fills go to the client and into the market data. -/
theorem communicated {matched : MatchResult} {left : UInt32} {fills : List OrderEntryFill}
    (sent : FifoMatcher.sentFills order matched.fills =
      fills.map (fun fill => (order.connection, fill))) :
    toClients (communicateMatchResults matched (order.withQuantity left)) =
        fills.map (fun fill => (order.connection, OrderEntryResponse.fill fill)) ∧
      marketDataOf (communicateMatchResults matched (order.withQuantity left)) =
        fills.map MarketDataResponse.fill := by
  constructor
  · rw [toClients_communicate, FifoMatcher.sentFills_withQuantity, sent, List.map_map]
    rfl
  · have acknowledged : fillAcks matched (order.withQuantity left) = fills := by
      have second := congrArg (List.map Prod.snd) sent
      rw [FifoMatcher.sentFills, List.map_map, List.map_map] at second
      exact second.trans (List.map_id fills)
    rw [marketDataOf_communicateMatchResults, acknowledged]

/-- An order that is let through to matching meets the best level, and that one has a head. -/
theorem executions_of_possibleMatches {side : BookSide} {executions : List Execution}
    (headed : book.Headed) (some : possibleMatches side (book.levels side) order = true)
    (begun : ∀ price level rest, (book.levels side).entries = (price, level) :: rest →
      FifoMatcher.noMatchingLevel side order.price price = false → level.head ≠ none →
        executions ≠ []) : executions ≠ [] := by
  obtain ⟨best, first, accepted⟩ := accepts_of_possibleMatches some
  cases front : (book.levels side).entries with
  | nil =>
      rw [OrderedMap.begin?, front] at first
      cases first
  | cons entry rest =>
      have isBest : entry.1 = best :=
        Option.some.inj ((OrderedMap.begin?_front front).symm.trans first)
      refine begun entry.1 entry.2 rest front ?_ ?_
      · rw [isBest]
        rwa [accepts, Bool.not_eq_true'] at accepted
      · exact headed.levels side entry (by rw [front]; exact List.mem_cons_self)

theorem addOrderTo_newcomer {matchSide addSide : BookSide} (own : book.limitOrders.OwnIds)
    (headed : book.Headed)
    (returned : addOrderTo clock book order matchSide addSide = .ok (rested, result)) :
    Newcomer order book.limitOrders.quantityOf result := by
  unfold addOrderTo at returned
  split at returned
  · rename_i possible
    obtain ⟨matched, matches_, afterMatch⟩ := bind_eq_ok returned
    obtain ⟨same, ⟨fills, sent, reports⟩, begun⟩ := FifoMatcher.fifoMatch_reports own matches_
    obtain ⟨told, published⟩ := @communicated order matched.matchResult
      matched.order.currentQuantity fills sent
    rw [← same] at told published
    simp only at afterMatch
    split at afterMatch
    · rename_i nothing
      rw [beq_iff_eq.mp nothing] at reports
      cases afterMatch
      have some := executions_of_possibleMatches headed possible begun
      exact Newcomer.used some reports told published
    · rename_i something
      obtain ⟨placed, _places, done⟩ := bind_eq_ok afterMatch
      cases done
      refine Newcomer.rests (clock matched.matchResult.fills.length).toUInt64 reports
        (Or.inl ?_) ?_ ?_
      · intro none
        exact something (beq_iff_eq.mpr none)
      · rw [toClients_append, told]
        exact List.append_nil _
      · rw [marketDataOf_append, published, same]
        rfl
  · obtain ⟨placed, _places, done⟩ := bind_eq_ok returned
    cases done
    exact Newcomer.rests (clock 0).toUInt64 (Reports.nothing _ _) (Or.inr rfl) rfl rfl

theorem addOrder_newcomer (own : book.limitOrders.OwnIds) (headed : book.Headed)
    (fresh : book.limitOrders.lookup order.orderId = none)
    (sided : order.isBuySide = 1 ∨ order.isBuySide = 0)
    (returned : book.addOrder clock order = .ok (rested, result)) :
    Newcomer order book.limitOrders.quantityOf result := by
  unfold addOrder at returned
  rw [if_neg (by rw [fresh]; exact Bool.false_ne_true)] at returned
  rcases sided with buys | sells
  · rw [if_pos buys] at returned
    exact addOrderTo_newcomer own headed returned
  · rw [sells, if_neg (by decide), if_pos rfl] at returned
    exact addOrderTo_newcomer own headed returned

end OrderBook
end Engine
end SpotExchange
