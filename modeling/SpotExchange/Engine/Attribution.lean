/-
Whom the fill responses are sent to and whose fills they report. Each execution
owes a notice to the resting order and one to the incoming order.
-/

import SpotExchange.Engine.Fills
import SpotExchange.Engine.OrderBook

namespace SpotExchange
namespace Engine

open Collections Allocation Wire

/-- What a fill response says: whom it goes to, the order and user it names, and
how much of the order was filled. -/
structure FillNotice where
  connection : ConnectionRef
  orderId : OrderId
  userId : UserId
  quantity : UInt32
  complete : Bool
  deriving DecidableEq, Repr

def noticeOf (sent : ConnectionRef × OrderEntryFill) : FillNotice :=
  { connection := sent.1
    orderId := sent.2.statusCommon.orderId
    userId := sent.2.statusCommon.userId
    quantity := sent.2.fillQuantity
    complete := sent.2.completeFill }

/-- The notices among the responses sent after a match. -/
def sentNotices (result : MatchResult) (order : Order) : List FillNotice :=
  (fillResponsesOf (OrderBook.communicateMatchResults result order)).map noticeOf

/-- The notice that an order is owed for its part of a trade. -/
def owedNotice (order : Order) (part : Nat) : FillNotice :=
  { connection := order.connection
    orderId := order.orderId
    userId := order.userId
    quantity := UInt32.ofNat part
    complete := (reduceOrder order part).currentQuantity == 0 }

/-- One notice for each party of each trade. -/
def owedNotices : Order → List (Order × Nat) → List FillNotice
  | _, [] => []
  | order, (item, part) :: rest =>
      owedNotice item part :: owedNotice order part :: owedNotices (reduceOrder order part) rest

/-- The executions of a match, with the resting orders as they were before it. -/
def tradesOf (limits : LimitBook) (executions : List Execution) : List (Order × Nat) :=
  executions.filterMap (fun execution =>
    (limits.lookup execution.restingId).map (fun limit =>
      (limit.order, execution.quantity.toNat)))

/-- Both parties of every execution are told of their own fill, each once, and
nobody is told of another. -/
def PartiesTold {side : BookSide} (order : Order) (limits : LimitBook)
    (outcome : FifoMatcher.Outcome side) : Prop :=
  (sentNotices outcome.matchResult outcome.order).Perm
    (owedNotices order (tradesOf limits outcome.executions))

theorem fillResponsesOf_communicate (result : MatchResult) (order : Order) :
    fillResponsesOf (OrderBook.communicateMatchResults result order) =
      result.fills.map (fun fill => (fill.connection, OrderBook.fillAck fill order)) := by
  unfold OrderBook.communicateMatchResults
  induction result.fills with
  | nil => rfl
  | cons fill rest ih =>
      rw [List.flatMap_cons, List.map_cons, ← ih]
      rfl

/-- Every notice sent names the incoming order. -/
theorem sentNotices_orderId (result : MatchResult) (order : Order) :
    ∀ notice ∈ sentNotices result order, notice.orderId = order.orderId := by
  intro notice member
  unfold sentNotices at member
  rw [fillResponsesOf_communicate, List.map_map] at member
  obtain ⟨fill, _present, same⟩ := List.mem_map.mp member
  rw [← same]
  rfl

section Executions

variable {side : BookSide} {clock : Nat → Int64} {order : Order} {book : SideBook side}
  {limits : LimitBook} {queues : Queues} {outcome : FifoMatcher.Outcome side}

theorem tradesOf_executions {taken : List (Order × Nat)}
    (present : ∀ entry ∈ taken, ∃ limit, limits.lookup entry.1.orderId = some limit ∧
      limit.order = entry.1)
    (covered : ∀ entry ∈ taken, entry.2 ≤ orderAmount entry.1) (incoming : OrderId) :
    tradesOf limits (taken.map (executionOf incoming)) = taken := by
  induction taken with
  | nil => rfl
  | cons entry rest ih =>
      obtain ⟨limit, found, same⟩ := present entry List.mem_cons_self
      have exactly := ofNat_toNat_of_le (covered entry List.mem_cons_self)
      have later := ih (fun entry member => present entry (List.mem_cons_of_mem _ member))
        (fun entry member => covered entry (List.mem_cons_of_mem _ member))
      have here : (limits.lookup (executionOf incoming entry).restingId).map
          (fun limit => (limit.order, (executionOf incoming entry).quantity.toNat)) =
          some entry := by
        change (limits.lookup entry.1.orderId).map _ = some entry
        rw [found, Option.map_some, same]
        exact congrArg some (Prod.ext rfl exactly)
      unfold tradesOf at later ⊢
      rw [List.map_cons, List.filterMap_cons, here, later]

theorem Matched.tradesOf_eq (held : Holds side limits book.entries queues)
    (matched : Matched clock order book limits queues outcome (sweepOrders side order queues)) :
    tradesOf limits outcome.executions = (sweepOrders side order queues).taken := by
  rw [matched.executed]
  refine tradesOf_executions ?_ (taken_covered held order) order.orderId
  intro entry member
  obtain ⟨queue, present, resting⟩ := mem_of_taken held member
  obtain ⟨next, prev, found⟩ := held.lookup present resting
  exact ⟨_, found, rfl⟩

theorem taken_eq_nil_iff (held : Holds side limits book.entries queues) (order : Order) :
    (sweepOrders side order queues).taken = [] ↔ reachableOrders side order queues = [] := by
  rw [sweepOrders_taken held]
  cases reachable : reachableOrders side order queues with
  | nil => exact ⟨fun _ => rfl, fun _ => rfl⟩
  | cons item rest =>
      constructor
      · intro none
        rcases Nat.lt_or_ge (orderAmount item) (orderAmount order) with short | covered
        · rw [fillQueue_usedUp rest short] at none
          cases none
        · rw [fillQueue_covered rest covered] at none
          cases none
      · intro impossible
        cases impossible

/-- The parties are told of their own fills only when there is nothing to tell:
when some order is within reach, the resting order of the first execution is owed
a notice under its own id, and no notice sent carries that id. -/
theorem parties_told_iff {side : BookSide} (clock : Nat → Int64) (order : Order)
    (book : SideBook side) (limits : LimitBook) (queues : Queues)
    (held : Holds side limits book.entries queues) (distinct : (allIds queues).Nodup)
    (fresh : order.orderId ∉ allIds queues) :
    (∃ outcome, FifoMatcher.fifoMatch clock order book limits = .ok outcome ∧
        PartiesTold order limits outcome) ↔
      reachableOrders side order queues = [] := by
  obtain ⟨outcome, returned, matched⟩ := @fifoMatch_spec side clock order book limits queues held
    distinct
  have trades := matched.tradesOf_eq held
  rw [← taken_eq_nil_iff held]
  constructor
  · rintro ⟨other, otherReturned, told⟩
    have same : other = outcome := Except.ok.inj (otherReturned.symm.trans returned)
    subst same
    cases taken : (sweepOrders side order queues).taken with
    | nil => rfl
    | cons entry rest =>
        have owed : owedNotice entry.1 entry.2 ∈
            owedNotices order (tradesOf limits other.executions) := by
          rw [trades, taken]
          exact List.mem_cons_self
        have sent := sentNotices_orderId _ _ _ (told.symm.subset owed)
        have names : entry.1.orderId = order.orderId := by
          rw [matched.residual] at sent
          exact sent
        have different := taken_fresh held fresh entry (taken ▸ List.mem_cons_self)
        exact absurd names different
  · intro none
    refine ⟨outcome, returned, ?_⟩
    unfold PartiesTold sentNotices
    rw [trades, fillResponsesOf_communicate, matched.fills_eq, none]
    exact List.Perm.refl []

theorem partly_filled_seller_not_told :
    ¬∃ outcome, FifoMatcher.fifoMatch (fun _ => 0) (sampleBuy 5) (soloBook .asks (sampleSell 7))
        (soloLimits .asks (sampleSell 7)) = .ok outcome ∧
      PartiesTold (sampleBuy 5) (soloLimits .asks (sampleSell 7)) outcome := by
  intro told
  have none := (parties_told_iff (fun _ => 0) (sampleBuy 5) (soloBook .asks (sampleSell 7))
    (soloLimits .asks (sampleSell 7)) [(100, [sampleSell 7])]
    (solo_holds .asks (sampleSell 7) rfl) (by decide) (by decide)).mp told
  exact absurd none (by decide)

/-- Both responses go to the buyer's connection and name the buyer's order. -/
theorem seller_not_told :
    ¬∃ outcome, FifoMatcher.fifoMatch (fun _ => 0) (sampleBuy 5) (soloBook .asks (sampleSell 5))
        (soloLimits .asks (sampleSell 5)) = .ok outcome ∧
      PartiesTold (sampleBuy 5) (soloLimits .asks (sampleSell 5)) outcome := by
  rintro ⟨outcome, returned, told⟩
  have sent : (FifoMatcher.fifoMatch (fun _ => 0) (sampleBuy 5) (soloBook .asks (sampleSell 5))
        (soloLimits .asks (sampleSell 5))).toOption.map
          (fun outcome => sentNotices outcome.matchResult outcome.order) =
      some [owedNotice (sampleBuy 5) 5, owedNotice (sampleBuy 5) 5] := by decide
  have owed : (FifoMatcher.fifoMatch (fun _ => 0) (sampleBuy 5) (soloBook .asks (sampleSell 5))
        (soloLimits .asks (sampleSell 5))).toOption.map
          (fun outcome => tradesOf (soloLimits .asks (sampleSell 5)) outcome.executions) =
      some [(sampleSell 5, 5)] := by decide
  rw [returned] at sent owed
  have sentHere : sentNotices outcome.matchResult outcome.order = _ := Option.some.inj sent
  have owedHere : tradesOf (soloLimits .asks (sampleSell 5)) outcome.executions = _ :=
    Option.some.inj owed
  unfold PartiesTold at told
  rw [sentHere, owedHere] at told
  exact absurd told (by decide)

end Executions

end Engine
end SpotExchange
