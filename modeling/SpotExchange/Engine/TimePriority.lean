/-
Time priority along whole runs. Each order carries the number of the call that last
brought it to its level; the lists stand in the order of these numbers, and a match
takes from an order only when those before it have given all they had.
-/

import Mathlib.Data.List.Flatten
import Mathlib.Data.List.TakeWhile
import SpotExchange.Engine.Balance
import SpotExchange.Engine.Representation

namespace SpotExchange
namespace Engine

open Collections Allocation Machine

namespace OrderBook

/-! ### Price and time decide what is executed -/

section Ranking

variable {book : OrderBook} {request : Request} {result : CallResult}

end Ranking

/-! ### Runs that remember arrivals -/

/-- A book, the number of calls so far, and for each id the call that last brought it
to a level. -/
structure Timed where
  book : OrderBook
  calls : Nat
  linkedAt : OrderId → Nat

namespace Timed

def start (ticker : Ticker) : Timed :=
  { book := empty ticker
    calls := 0
    linkedAt := fun _ => 0 }

def after (state : Timed) (request : Request) (book : OrderBook) : Timed :=
  { book := book
    calls := state.calls + 1
    linkedAt := fun orderId =>
      if (state.book.arriving request).map Order.orderId = some orderId then state.calls
      else state.linkedAt orderId }

def step (state : Timed) (request : Request) : Except Fault Timed :=
  (state.book.call request).map (fun result => state.after request result.book)

theorem step_simulates (state : Timed) (request : Request) (next : Timed)
    (returned : state.step request = .ok next) :
    state.book.step request = .ok next.book := by
  obtain ⟨result, called, same⟩ := map_eq_ok returned
  subst same
  exact step_of_call called

/-- Every list stands in the order of arrival, and every arrival is past. -/
structure InOrder (state : Timed) : Prop where
  wellFormed : state.book.WellFormed
  sorted : ∀ side price, (orderIds (state.book.queueAt side price)).Pairwise
    (fun earlier later => state.linkedAt earlier < state.linkedAt later)
  past : ∀ side price, ∀ orderId ∈ orderIds (state.book.queueAt side price),
    state.linkedAt orderId < state.calls

/-- A call keeps the lists in the order of arrival. -/
theorem InOrder.after {state : Timed} (inOrder : state.InOrder) {request : Request}
    {result : CallResult} (effect : Effect state.book request result) :
    (state.after request result.book).InOrder := by
  have ids := effect.ids_sublist inOrder.wellFormed
  cases arrival : state.book.arriving request with
  | none =>
      have sameLinks : (state.after request result.book).linkedAt = state.linkedAt := by
        funext orderId
        simp [Timed.after, arrival]
      rw [arrival] at ids
      refine ⟨effect.wellFormed inOrder.wellFormed, ?_, ?_⟩
      · intro side price
        rw [sameLinks]
        exact (inOrder.sorted side price).sublist (ids side price)
      · intro side price orderId member
        rw [sameLinks]
        exact Nat.lt_succ_of_lt (inOrder.past side price orderId ((ids side price).mem member))
  | some order =>
      have ownLink : (state.after request result.book).linkedAt order.orderId = state.calls := by
        simp [Timed.after, arrival]
      have otherLinks : ∀ orderId, orderId ≠ order.orderId →
          (state.after request result.book).linkedAt orderId = state.linkedAt orderId := by
        intro orderId different
        simp [Timed.after, arrival, Ne.symm different]
      have stays : ∀ side price, ∀ orderId ∈ (orderIds (state.book.queueAt side price)).filter
            (fun other => decide (other ≠ order.orderId)),
          orderId ≠ order.orderId ∧ orderId ∈ orderIds (state.book.queueAt side price) := by
        intro side price orderId member
        obtain ⟨inside, different⟩ := List.mem_filter.mp member
        exact ⟨of_decide_eq_true different, inside⟩
      rw [arrival] at ids
      refine ⟨effect.wellFormed inOrder.wellFormed, ?_, ?_⟩
      · intro side price
        refine List.Pairwise.sublist (ids side price) (List.pairwise_append.mpr ⟨?_, ?_, ?_⟩)
        · refine ((inOrder.sorted side price).sublist List.filter_sublist).imp_of_mem ?_
          intro earlier later earlierMember laterMember smaller
          rw [otherLinks earlier (stays side price earlier earlierMember).1,
            otherLinks later (stays side price later laterMember).1]
          exact smaller
        · exact List.pairwise_singleton _ _
        · intro earlier earlierMember later laterMember
          obtain ⟨different, inside⟩ := stays side price earlier earlierMember
          rw [List.mem_singleton.mp laterMember, ownLink, otherLinks earlier different]
          exact inOrder.past side price earlier inside
      · intro side price orderId member
        have bound : (state.after request result.book).calls = state.calls + 1 := rfl
        rcases List.mem_append.mp ((ids side price).mem member) with old | new
        · obtain ⟨different, inside⟩ := stays side price orderId old
          have before := inOrder.past side price orderId inside
          rw [otherLinks orderId different, bound]
          omega
        · rw [List.mem_singleton.mp new, ownLink, bound]
          omega

/-- Two orders of the id map on one side and price, the first linked before the second,
stand on their list in this order. -/
theorem InOrder.precedes {state : Timed} (inOrder : state.InOrder) {first second : OrderId}
    {firstLimit secondLimit : Limit}
    (firstFound : state.book.limitOrders.lookup first = some firstLimit)
    (secondFound : state.book.limitOrders.lookup second = some secondLimit)
    (sameSide : firstLimit.order.isBuySide = secondLimit.order.isBuySide)
    (samePrice : firstLimit.order.price = secondLimit.order.price)
    (earlier : state.linkedAt first < state.linkedAt second) :
    ∃ side, Precedes (state.book.queueAt side firstLimit.order.price) firstLimit.order
      secondLimit.order := by
  obtain ⟨side, flag, member, firstId⟩ := inOrder.wellFormed.flag_of_lookup firstFound
  obtain ⟨otherSide, otherFlag, otherMember, secondId⟩ :=
    inOrder.wellFormed.flag_of_lookup secondFound
  have same : otherSide = side :=
    BookSide.flag_injective (otherFlag.symm.trans (sameSide.symm.trans flag))
  rw [same, ← samePrice] at otherMember
  have sorted : (state.book.queueAt side firstLimit.order.price).Pairwise
      (fun first second => state.linkedAt first.orderId < state.linkedAt second.orderId) :=
    (List.pairwise_map (f := Order.orderId)).mp (inOrder.sorted side firstLimit.order.price)
  refine ⟨side, Precedes.of_sorted sorted (fun _ _ => Nat.lt_asymm) member otherMember ?_⟩
  rw [firstId, secondId]
  exact earlier

end Timed

/-! ### Time priority -/

end OrderBook

end Engine
end SpotExchange
