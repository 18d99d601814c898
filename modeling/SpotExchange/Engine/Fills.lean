/-
The fills recorded for a match, and how far they agree with what was traded. A
fill records its quantity in 16 bits, while orders trade 32-bit quantities.
-/

import SpotExchange.Engine.CleanStop

namespace SpotExchange
namespace Engine

open Collections Allocation

/-! ### The list of fills -/

/-- The two fills of a trade: the resting order's first, the incoming order's second. -/
def tradeFills (time : Int64) (order item : Order) (part : Nat) : List Info.Fill :=
  (FifoMatcher.addFills MatchResult.empty time (reduceOrder order part) (reduceOrder item part)
    (UInt32.ofNat part)).fills

def fillsFrom (clock : Nat → Int64) : Nat → Order → List (Order × Nat) → List Info.Fill
  | _, _, [] => []
  | count, order, (item, part) :: rest =>
      tradeFills (clock count) order item part ++
        fillsFrom clock (count + 2) (reduceOrder order part) rest

theorem report_fills (clock : Nat → Int64) (result : MatchResult) (order : Order)
    (taken : List (Order × Nat)) :
    (report clock result order taken).fills =
      result.fills ++ fillsFrom clock result.fills.length order taken := by
  induction taken generalizing result order with
  | nil => exact (List.append_nil result.fills).symm
  | cons entry rest ih =>
      obtain ⟨item, part⟩ := entry
      have added : (FifoMatcher.addFills result (clock result.fills.length) (reduceOrder order part)
            (reduceOrder item part) (UInt32.ofNat part)).fills =
          result.fills ++ tradeFills (clock result.fills.length) order item part := by
        simp [FifoMatcher.addFills, MatchResult.addFill, tradeFills, MatchResult.empty]
      rw [report, ih, added, fillsFrom, List.append_assoc]
      congr 2
      rw [List.length_append]
      rfl

theorem Matched.fills_eq {side : BookSide} {clock : Nat → Int64} {order : Order}
    {book : SideBook side} {limits : LimitBook} {queues : Queues}
    {outcome : FifoMatcher.Outcome side} {result : SweepResult Price Order}
    (matched : Matched clock order book limits queues outcome result) :
    outcome.matchResult.fills = fillsFrom clock 0 order result.taken := by
  rw [matched.reported, report_fills]
  rfl

/-- The orders that an order may trade with, in the order of their priority. -/
def reachableOrders (side : BookSide) (order : Order) (queues : Queues) : List Order :=
  within (accepts side order.price) queues

theorem sweepOrders_taken {side : BookSide} {limits : LimitBook} {entries : List (Price × Level)}
    {queues : Queues} (held : Holds side limits entries queues) (order : Order) :
    (sweepOrders side order queues).taken =
      (fillQueue orderAmount reduceOrder (orderAmount order)
        (reachableOrders side order queues)).taken := by
  refine (sweep_within ?_ (orderAmount order)).1
  intro queue member
  obtain ⟨_level, _present, holds⟩ := held.of_mem member
  exact holds.occupied

/-! ### The law of conservation -/

/-- What an order has left in the id map; an order that is not there has nothing left. -/
def remainingIn (limits : LimitBook) (orderId : OrderId) : Nat :=
  match limits.lookup orderId with
  | none => 0
  | some limit => orderAmount limit.order

/-- The quantities before the match. -/
def quantities (order : Order) (limits : LimitBook) (orderId : OrderId) : Nat :=
  if orderId = order.orderId then orderAmount order else remainingIn limits orderId

theorem ofNat_toNat_of_le {part : Nat} {order : Order} (covered : part ≤ orderAmount order) :
    (UInt32.ofNat part).toNat = part :=
  UInt32.toNat_ofNat_of_lt' (Nat.lt_of_le_of_lt covered order.currentQuantity.toNat_lt)

section Taken

variable {side : BookSide} {limits : LimitBook} {entries : List (Price × Level)}
  {queues : Queues}

theorem sweepOrders_taken_front (held : Holds side limits entries queues) (order : Order) :
    (sweepOrders side order queues).taken.map Prod.fst <+: queues.flatMap Prod.snd := by
  rw [sweepOrders_taken held]
  exact (fillQueue_taken_front _ _).trans (within_front _ _)

theorem mem_of_taken (held : Holds side limits entries queues) {order : Order}
    {entry : Order × Nat} (member : entry ∈ (sweepOrders side order queues).taken) :
    ∃ queue ∈ queues, entry.1 ∈ queue.2 := by
  have inside := (sweepOrders_taken_front held order).mem (List.mem_map_of_mem member)
  obtain ⟨queue, present, item⟩ := List.mem_flatMap.mp inside
  exact ⟨queue, present, item⟩

theorem taken_fresh (held : Holds side limits entries queues) {order : Order}
    (fresh : order.orderId ∉ allIds queues) :
    ∀ entry ∈ (sweepOrders side order queues).taken, entry.1.orderId ≠ order.orderId := by
  intro entry member same
  obtain ⟨queue, present, item⟩ := mem_of_taken held member
  exact fresh (mem_allIds.mpr ⟨queue, present, same ▸ List.mem_map_of_mem item⟩)

theorem taken_covered (held : Holds side limits entries queues) (order : Order) :
    ∀ entry ∈ (sweepOrders side order queues).taken, entry.2 ≤ orderAmount entry.1 := by
  rw [sweepOrders_taken held]
  exact fillQueue_taken_le _ _

theorem Holds.lookup (held : Holds side limits entries queues) {queue : Price × List Order}
    (present : queue ∈ queues) {item : Order} (member : item ∈ queue.2) :
    ∃ next prev, limits.lookup item.orderId =
      some (limitAt { side := side, price := queue.1 } item next prev) := by
  obtain ⟨_level, _inside, holds⟩ := held.of_mem present
  exact holds.linked.lookup_of_mem member

theorem remainingIn_of_lookup {orderId : OrderId} {limit : Limit}
    (found : limits.lookup orderId = some limit) :
    remainingIn limits orderId = orderAmount limit.order := by
  rw [remainingIn, found]

end Taken

/-- What a sweep takes from an order and what it leaves it add up. -/
theorem sweepOrders_accounts (side : BookSide) (order : Order) (queues : Queues)
    (orderId : OrderId) :
    takenFrom Order.orderId (sweepOrders side order queues).taken orderId +
        offeredBy orderAmount Order.orderId
          ((sweepOrders side order queues).levels.flatMap Prod.snd) orderId =
      offeredBy orderAmount Order.orderId (queues.flatMap Prod.snd) orderId :=
  sweep_accounts (fun _item _part covered => reduceOrder_amount covered) reduceOrder_orderId
    (orderAmount order) queues orderId

theorem sweepOrders_conserves (side : BookSide) (order : Order) (queues : Queues) :
    total (sweepOrders side order queues).taken + (sweepOrders side order queues).left =
      orderAmount order :=
  sweep_conserves (orderAmount order) queues

theorem Matched.orderAmount_eq {side : BookSide} {clock : Nat → Int64} {order : Order}
    {book : SideBook side} {limits : LimitBook} {queues : Queues}
    {outcome : FifoMatcher.Outcome side}
    (matched : Matched clock order book limits queues outcome (sweepOrders side order queues)) :
    orderAmount outcome.order = (sweepOrders side order queues).left := by
  have conserved := sweepOrders_conserves side order queues
  rw [matched.residual]
  exact withQuantity_ofNat_amount order (by omega)

def sampleSell (quantity : UInt32) : Order :=
  Order.create 0 1 100 quantity { orderId := 1, userId := 1, ticker := 1 }

def sampleBuy (quantity : UInt32) : Order :=
  Order.create 1 2 100 quantity { orderId := 2, userId := 2, ticker := 1 }

end Engine
end SpotExchange
