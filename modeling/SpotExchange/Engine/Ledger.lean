/-
What was requested and what was executed for each order id along a run. An id is
finished when its order is cancelled or has nothing left, until it is added again.
-/

import Mathlib.Algebra.Order.BigOperators.Group.List
import Mathlib.Algebra.Order.Group.Nat
import SpotExchange.Engine.Balance
import SpotExchange.Engine.Representation

namespace SpotExchange
namespace Engine

open Collections Allocation Machine

/-- What the last accepted add or modify of an id requested, and what was executed for
it since. -/
structure Account where
  requested : Nat
  executed : Nat
  finished : Bool

namespace OrderBook

/-- An accepted change in place finds something left of its order, and leaves no more
than it asks for: it asks for less, or the doubled quantity wraps at 32 bits. -/
def keepsAllowance (book : OrderBook) : Request → Bool
  | .add _ _ => true
  | .modify clock modify =>
      !book.accepted (.modify clock modify) || book.repricing modify ||
        match book.limitOrders.lookup modify.orderId with
        | none => true
        | some limit =>
            decide (0 < orderAmount limit.order) &&
              (decide (modify.quantity.toNat ≤ orderAmount limit.order) ||
                decide ((modify.quantity.toNat + 2 * orderAmount limit.order) % 4294967296 ≤
                  modify.quantity.toNat))
  | .cancel _ _ => true

structure Ledgered where
  book : OrderBook
  accounts : OrderId → Account

namespace Ledgered

def start (ticker : Ticker) : Ledgered :=
  { book := empty ticker
    accounts := fun _ =>
      { requested := 0
        executed := 0
        finished := true } }

/-- The accounts once a call has been accepted, before it executes anything. -/
def opened (state : Ledgered) (request : Request) (orderId : OrderId) : Account :=
  match request with
  | .add clock order =>
      if state.book.accepted (.add clock order) && orderId == order.orderId then
        { requested := orderAmount order
          executed := 0
          finished := false }
      else state.accounts orderId
  | .modify clock modify =>
      if state.book.accepted (.modify clock modify) && orderId == modify.orderId then
        { requested := modify.quantity.toNat
          executed := 0
          finished := !state.book.repricing modify && (state.accounts orderId).finished }
      else state.accounts orderId
  | .cancel clock cancel =>
      if state.book.accepted (.cancel clock cancel) && orderId == cancel.orderId then
        { state.accounts orderId with finished := true }
      else state.accounts orderId

def after (state : Ledgered) (request : Request) (result : CallResult) : Ledgered :=
  { book := result.book
    accounts := fun orderId =>
      { requested := (state.opened request orderId).requested
        executed :=
          (state.opened request orderId).executed + executedFor result.executions orderId
        finished :=
          (state.opened request orderId).finished ||
            decide (remainingIn result.book.limitOrders orderId = 0) } }

def step (state : Ledgered) (request : Request) : Except Fault Ledgered :=
  (state.book.call request).map (state.after request)

theorem step_simulates (state : Ledgered) (request : Request) (next : Ledgered)
    (returned : state.step request = .ok next) :
    state.book.step request = .ok next.book := by
  obtain ⟨result, called, same⟩ := map_eq_ok returned
  subst same
  exact step_of_call called

/-! ### The accounts cover what rests -/

/-- What was executed and what is left are covered by what was requested, and nothing is
left of an order that is finished. -/
structure Accounted (state : Ledgered) : Prop where
  wellFormed : state.book.WellFormed
  covered : ∀ orderId, (state.accounts orderId).executed +
    remainingIn state.book.limitOrders orderId ≤ (state.accounts orderId).requested
  closed : ∀ orderId, (state.accounts orderId).finished = true →
    remainingIn state.book.limitOrders orderId = 0

/-- What a change in place leaves of an order, where it keeps the allowance. -/
theorem changedAmount_le {book : OrderBook} {clock : Nat → Int64} {modify : Info.ModifyOrder}
    (taken : book.accepted (.modify clock modify) = true)
    (stays : book.repricing modify = false)
    (keeps : book.keepsAllowance (.modify clock modify) = true) :
    book.changedAmount modify ≤ modify.quantity.toNat ∧
      0 < remainingIn book.limitOrders modify.orderId := by
  cases found : book.limitOrders.lookup modify.orderId with
  | none => simp [accepted, found] at taken
  | some limit =>
      simp only [keepsAllowance, taken, stays, found, Bool.not_true, Bool.false_or,
        Bool.and_eq_true, Bool.or_eq_true, decide_eq_true_iff] at keeps
      obtain ⟨live, allowed⟩ := keeps
      rw [remainingIn_of_lookup found]
      refine ⟨?_, live⟩
      simp only [changedAmount, found, modifyInPlace]
      by_cases more : limit.order.currentQuantity < modify.quantity
      · have larger := UInt32.lt_iff_toNat_lt.mp more
        have notLess : ¬modify.quantity.toNat ≤ orderAmount limit.order := Nat.not_le.mpr larger
        have wraps := allowed.resolve_left notLess
        rw [if_pos more]
        simp only [Order.increaseQty, orderAmount, Order.withQuantity_currentQuantity,
          UInt32.toNat_add] at wraps ⊢
        omega
      · have below : modify.quantity ≤ limit.order.currentQuantity := UInt32.not_lt.mp more
        have gap : (limit.order.currentQuantity - modify.quantity).toNat =
            limit.order.currentQuantity.toNat - modify.quantity.toNat :=
          UInt32.toNat_sub_of_le _ _ below
        have part : limit.order.currentQuantity - modify.quantity ≤
            limit.order.currentQuantity := by
          rw [UInt32.le_iff_toNat_le, gap]
          omega
        have smaller := UInt32.le_iff_toNat_le.mp below
        rw [if_neg more, Order.decreaseQty_of_le part]
        simp only [orderAmount, Order.withQuantity_currentQuantity]
        rw [UInt32.toNat_sub_of_le _ _ part, gap]
        omega

variable {state : Ledgered} {request : Request} {result : CallResult}

theorem Accounted.opened_covers (accounted : state.Accounted)
    (keeps : state.book.keepsAllowance request = true) (orderId : OrderId) :
    (state.opened request orderId).executed + state.book.granted request orderId ≤
      (state.opened request orderId).requested := by
  have covered := accounted.covered orderId
  cases request with
  | add clock order =>
      simp only [opened, granted]
      split
      · exact Nat.le_of_eq (Nat.zero_add _)
      · exact covered
  | modify clock modify =>
      simp only [opened, granted]
      split
      · rename_i here
        simp only [Bool.and_eq_true, beq_iff_eq] at here
        rw [Nat.zero_add]
        cases moves : state.book.repricing modify with
        | true => exact Nat.le_refl _
        | false => exact (changedAmount_le here.1 moves keeps).1
      · exact covered
  | cancel clock cancel =>
      simp only [opened, granted]
      split
      · simp only
        omega
      · exact covered

theorem Accounted.opened_closed (accounted : state.Accounted)
    (keeps : state.book.keepsAllowance request = true) {orderId : OrderId}
    (finished : (state.opened request orderId).finished = true) :
    state.book.granted request orderId = 0 := by
  have closed := accounted.closed orderId
  cases request with
  | add clock order =>
      simp only [opened] at finished
      simp only [granted]
      split
      · rename_i here
        rw [if_pos here] at finished
        cases finished
      · rename_i elsewhere
        rw [if_neg elsewhere] at finished
        exact closed finished
  | modify clock modify =>
      simp only [opened] at finished
      simp only [granted]
      split
      · rename_i here
        rw [if_pos here] at finished
        simp only [Bool.and_eq_true, beq_iff_eq, Bool.not_eq_true'] at here finished
        have live := (changedAmount_le here.1 finished.1 keeps).2
        rw [← here.2, closed finished.2] at live
        exact absurd live (Nat.lt_irrefl 0)
      · rename_i elsewhere
        rw [if_neg elsewhere] at finished
        exact closed finished
  | cancel clock cancel =>
      simp only [opened] at finished
      simp only [granted]
      split
      · rfl
      · rename_i elsewhere
        rw [if_neg elsewhere] at finished
        exact closed finished

theorem Accounted.after (accounted : state.Accounted)
    (keeps : state.book.keepsAllowance request = true)
    (effect : Effect state.book request result) : (state.after request result).Accounted where
  wellFormed := effect.wellFormed accounted.wellFormed
  covered := by
    intro orderId
    have balance := effect.balance accounted.wellFormed orderId
    have covers := accounted.opened_covers keeps orderId
    simp only [Ledgered.after]
    omega
  closed := by
    intro orderId finished
    have balance := effect.balance accounted.wellFormed orderId
    simp only [Ledgered.after, Bool.or_eq_true, decide_eq_true_iff] at finished ⊢
    rcases finished with before | nothing
    · have nothing := accounted.opened_closed keeps before
      omega
    · exact nothing

end Ledgered

/-! ### No order is over-executed -/

/-- Every order that a call of the run lets in stops cleanly, and every accepted change in
place keeps the allowance of its order. -/
def AllowanceRun (ticker : Ticker) (requests : List Request) : Prop :=
  Guarded step
    (fun book request => book.cleanRequest request = true ∧ book.keepsAllowance request = true)
    (empty ticker) requests

instance AllowanceRun.decidable (ticker : Ticker) (requests : List Request) :
    Decidable (AllowanceRun ticker requests) :=
  inferInstanceAs (Decidable (Guarded step
    (fun book request => book.cleanRequest request = true ∧ book.keepsAllowance request = true)
    (empty ticker) requests))

end OrderBook

end Engine
end SpotExchange
