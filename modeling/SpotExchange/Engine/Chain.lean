/-
The list of a level as a segment of linked limits, and the order count over it.
-/

import Mathlib.Data.List.Induction
import SpotExchange.Collections.IntrusiveList
import SpotExchange.Engine.FifoMatching

namespace SpotExchange
namespace Engine

open Collections IntrusiveList Machine

/-- What an order offers to the allocation. -/
def orderAmount (order : Order) : Nat := order.currentQuantity.toNat

def reduceOrder (order : Order) (part : Nat) : Order :=
  order.withQuantity (order.currentQuantity - UInt32.ofNat part)

def orderIds (orders : List Order) : List OrderId := orders.map Order.orderId

/-- The node of an order that rests on a level between two neighbours. -/
def limitAt (ptr : LevelPtr) (order : Order) (next prev : Option OrderId) : Limit :=
  { order := order
    nextLimit := next
    prevLimit := prev
    currentLevel := some ptr }

@[simp]
theorem limitAt_order (ptr : LevelPtr) (order : Order) (next prev : Option OrderId) :
    (limitAt ptr order next prev).order = order := rfl

@[simp]
theorem limitAt_nextLimit (ptr : LevelPtr) (order : Order) (next prev : Option OrderId) :
    (limitAt ptr order next prev).nextLimit = next := rfl

@[simp]
theorem limitAt_prevLimit (ptr : LevelPtr) (order : Order) (next prev : Option OrderId) :
    (limitAt ptr order next prev).prevLimit = prev := rfl

def Chain (ptr : LevelPtr) (limits : LimitBook) :
    Option OrderId → List Order → Option OrderId → Prop :=
  Segment Order.orderId (limitAt ptr) limits.lookup

/-- The first order of a list, as a pointer. -/
def headOf (orders : List Order) : Option OrderId := first Order.orderId orders none

def tailOf (orders : List Order) : Option OrderId := last Order.orderId none orders

@[simp]
theorem reduceOrder_orderId (order : Order) (part : Nat) :
    (reduceOrder order part).orderId = order.orderId := rfl

theorem toNat_sub_ofNat {quantity : UInt32} {part : Nat} (covered : part ≤ quantity.toNat) :
    (quantity - UInt32.ofNat part).toNat = quantity.toNat - part := by
  have exact : (UInt32.ofNat part).toNat = part :=
    UInt32.toNat_ofNat_of_lt' (Nat.lt_of_le_of_lt covered quantity.toNat_lt)
  rw [UInt32.toNat_sub_of_le, exact]
  rw [UInt32.le_iff_toNat_le, exact]
  exact covered

theorem reduceOrder_amount {order : Order} {part : Nat} (covered : part ≤ orderAmount order) :
    orderAmount (reduceOrder order part) = orderAmount order - part :=
  toNat_sub_ofNat covered

namespace Chain

variable {ptr : LevelPtr} {limits : LimitBook} {before after : Option OrderId}
  {orders : List Order}

theorem lookup_of_mem (linked : Chain ptr limits before orders after) {order : Order}
    (member : order ∈ orders) :
    ∃ next prev, limits.lookup order.orderId = some (limitAt ptr order next prev) :=
  Segment.look_of_mem linked member

theorem present (linked : Chain ptr limits before orders after) :
    ∀ orderId ∈ orderIds orders, (limits.lookup orderId).isSome := by
  intro orderId member
  obtain ⟨order, resting, same⟩ := List.mem_map.mp member
  obtain ⟨next, prev, found⟩ := linked.lookup_of_mem resting
  rw [← same, found]
  rfl

theorem length_le (linked : Chain ptr limits before orders after)
    (distinct : (orderIds orders).Nodup) : orders.length ≤ limits.size := by
  have bound := limits.length_le_size (orderIds orders) distinct linked.present
  simpa [orderIds] using bound

end Chain

/-- The orders that the order count counts. -/
def liveCount (orders : List Order) : Nat :=
  orders.countP (fun order => decide (order.currentQuantity ≠ 0))

theorem countFrom_chain {ptr : LevelPtr} {limits : LimitBook} {before : Option OrderId}
    {orders : List Order} (linked : Chain ptr limits before orders none) {fuel : Nat}
    (enough : orders.length ≤ fuel) (cnt : UInt16) :
    Level.countFrom limits fuel (headOf orders) cnt =
      .ok (cnt + UInt16.ofNat (liveCount orders)) := by
  induction orders generalizing before fuel cnt with
  | nil =>
      cases fuel <;> simp [Level.countFrom, headOf, liveCount]
  | cons order rest ih =>
      cases fuel with
      | zero => exact absurd enough (Nat.not_succ_le_zero rest.length)
      | succ fuel =>
          have here : limits.read (some order.orderId) =
              .ok (limitAt ptr order (headOf rest) before) :=
            LimitBook.read_of_lookup linked.1
          have later := ih linked.2 (Nat.le_of_succ_le_succ enough)
          simp only [headOf, first_cons, Level.countFrom, here]
          change Level.countFrom limits fuel (headOf rest)
            (if order.currentQuantity ≠ 0 then cnt + 1 else cnt) = _
          by_cases empty : order.currentQuantity = 0
          · rw [if_neg (not_not_intro empty), later]
            simp [liveCount, empty]
          · rw [if_pos empty, later]
            simp only [liveCount, List.countP_cons, empty, ne_eq, not_false_iff, decide_true,
              if_true]
            congr 1
            rw [UInt16.ofNat_add, UInt16.add_assoc, UInt16.add_comm 1]
            rfl

theorem getLevelOrderCount_chain {ptr : LevelPtr} {limits : LimitBook} {orders : List Order}
    {level : Level} (linked : Chain ptr limits none orders none)
    (distinct : (orderIds orders).Nodup) (atHead : level.head = headOf orders) :
    level.getLevelOrderCount limits = .ok (UInt16.ofNat (liveCount orders)) := by
  unfold Level.getLevelOrderCount
  rw [atHead, countFrom_chain linked (linked.length_le distinct), UInt16.zero_add]

/-- The 16-bit counter reads zero at every multiple of its range. -/
theorem ofNat_beq_zero (count : Nat) :
    (UInt16.ofNat count == 0) = decide (count % 65536 = 0) := by
  rw [Bool.eq_iff_iff, beq_iff_eq, decide_eq_true_iff]
  constructor
  · intro zero
    have value := congrArg UInt16.toNat zero
    simpa using value
  · intro zero
    apply UInt16.toNat_inj.mp
    simpa using zero

/-! ### Lists from their heads -/

/-- The orders found on the way from a head along the links. -/
def listFrom (limits : LimitBook) : Nat → Option OrderId → Except Fault (List Order)
  | _, none => .ok []
  | 0, some _ => .error .outOfFuel
  | fuel + 1, some orderId =>
      limits.read (some orderId) >>= fun limit =>
        listFrom limits fuel limit.nextLimit >>= fun rest => .ok (limit.order :: rest)

theorem listFrom_chain {ptr : LevelPtr} {limits : LimitBook} {before : Option OrderId}
    {orders : List Order} (linked : Chain ptr limits before orders none) {fuel : Nat}
    (enough : orders.length ≤ fuel) : listFrom limits fuel (headOf orders) = .ok orders := by
  induction orders generalizing before fuel with
  | nil => cases fuel <;> rfl
  | cons order rest ih =>
      cases fuel with
      | zero => exact absurd enough (Nat.not_succ_le_zero rest.length)
      | succ fuel =>
          have here : limits.read (some order.orderId) =
              .ok (limitAt ptr order (headOf rest) before) := LimitBook.read_of_lookup linked.1
          have later := ih linked.2 (Nat.le_of_succ_le_succ enough)
          rw [headOf, first_cons, listFrom, here]
          simp only [ok_bind, limitAt_nextLimit, later, limitAt_order]

/-- The orders found on the way from a tail against the links. -/
def listBack (limits : LimitBook) : Nat → Option OrderId → Except Fault (List Order)
  | _, none => .ok []
  | 0, some _ => .error .outOfFuel
  | fuel + 1, some orderId =>
      limits.read (some orderId) >>= fun limit =>
        listBack limits fuel limit.prevLimit >>= fun rest => .ok (limit.order :: rest)

theorem listBack_chain {ptr : LevelPtr} {limits : LimitBook} {after : Option OrderId}
    {orders : List Order} (linked : Chain ptr limits none orders after) {fuel : Nat}
    (enough : orders.length ≤ fuel) : listBack limits fuel (tailOf orders) = .ok orders.reverse := by
  induction orders using List.reverseRecOn generalizing after fuel with
  | nil => cases fuel <;> rfl
  | append_singleton front order ih =>
      rw [List.length_append, List.length_singleton] at enough
      cases fuel with
      | zero => exact absurd enough (Nat.not_succ_le_zero front.length)
      | succ fuel =>
          obtain ⟨earlier, node, _end⟩ := (Segment.append_iff front [order]).mp linked
          have here : limits.read (some order.orderId) =
              .ok (limitAt ptr order after (tailOf front)) := LimitBook.read_of_lookup node
          have rest := ih earlier (Nat.le_of_succ_le_succ enough)
          rw [tailOf, last_concat, listBack, here]
          simp only [ok_bind, limitAt_prevLimit, rest, limitAt_order, List.reverse_append,
            List.reverse_singleton, List.singleton_append]

end Engine
end SpotExchange
