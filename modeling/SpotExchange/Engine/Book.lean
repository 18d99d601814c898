/-
Limits, price levels, and the three maps that make up an order book.

A limit is a node of the id map and is pointed to by its id: the nodes of that
map do not move while they live. A level is a node of one side's price map and
is pointed to by its side and price. A pointer to an erased node finds nothing.
-/

import Mathlib.Data.List.AList
import SpotExchange.Collections.OrderedMap
import SpotExchange.Info.Order

namespace SpotExchange
namespace Engine

open Collections

/-- The two instances of the price map: asks with the lowest price first, bids
with the highest price first. -/
inductive BookSide where
  | asks
  | bids
  deriving DecidableEq, Repr

namespace BookSide

def before : BookSide → Price → Price → Prop
  | .asks => fun left right => left < right
  | .bids => fun left right => right < left

instance (side : BookSide) : DecidableRel side.before := by
  intro left right
  cases side <;> unfold before <;> infer_instance

/-- The value of `isBuySide` in the orders that rest on a side. -/
def flag : BookSide → UInt8
  | .asks => 0
  | .bids => 1

theorem flag_injective {left right : BookSide} (same : left.flag = right.flag) :
    left = right := by
  cases left <;> cases right <;> first | rfl | exact absurd same (by decide)

private theorem price_trichotomous (left right : Price) :
    left < right ∨ left = right ∨ right < left := by
  rcases Nat.lt_trichotomy left.toNat right.toNat with below | same | above
  · exact Or.inl (UInt64.lt_iff_toNat_lt.mpr below)
  · exact Or.inr (Or.inl (UInt64.toNat_inj.mp same))
  · exact Or.inr (Or.inr (UInt64.lt_iff_toNat_lt.mpr above))

instance (side : BookSide) : IsStrictTotalOrder Price side.before where
  irrefl := by
    intro price
    cases side <;> exact UInt64.lt_irrefl price
  trans := by
    intro left middle right first second
    cases side with
    | asks => exact UInt64.lt_trans first second
    | bids => exact UInt64.lt_trans second first
  trichotomous := by
    intro left right notBelow notAbove
    rcases price_trichotomous left right with below | same | above
    · cases side with
      | asks => exact absurd below notBelow
      | bids => exact absurd below notAbove
    · exact same
    · cases side with
      | asks => exact absurd above notAbove
      | bids => exact absurd above notBelow

end BookSide

structure LevelPtr where
  side : BookSide
  price : Price
  deriving DecidableEq, Repr

structure Limit where
  order : Order
  nextLimit : Option OrderId
  prevLimit : Option OrderId
  currentLevel : Option LevelPtr
  deriving DecidableEq, Repr

def Limit.ofOrder (order : Order) : Limit :=
  { order := order
    nextLimit := none
    prevLimit := none
    currentLevel := none }

structure Level where
  head : Option OrderId
  tail : Option OrderId
  isBuySide : UInt8
  price : Price
  deriving DecidableEq, Repr

def Level.withHead (head : Option OrderId) (level : Level) : Level :=
  { level with head := head }

def Level.ofPrice (price : Price) : Level :=
  { head := none
    tail := none
    isBuySide := 0
    price := price }

abbrev LimitBook := AList (fun _ : OrderId => Limit)

abbrev SideBook (side : BookSide) := OrderedMap side.before Level

namespace LimitBook

def size (limits : LimitBook) : Nat := limits.entries.length

/-- A read through a `Limit*`. -/
def read (limits : LimitBook) : Option OrderId → Except Fault Limit
  | none => .error .nullLimit
  | some orderId =>
      match limits.lookup orderId with
      | none => .error (.deadLimit orderId)
      | some limit => .ok limit

/-- A write through a `Limit*`. -/
def modify (limits : LimitBook) (ptr : Option OrderId) (change : Limit → Limit) :
    Except Fault LimitBook :=
  match ptr with
  | none => .error .nullLimit
  | some orderId =>
      match limits.lookup orderId with
      | none => .error (.deadLimit orderId)
      | some limit => .ok (limits.insert orderId (change limit))

theorem read_of_lookup {limits : LimitBook} {orderId : OrderId} {limit : Limit}
    (present : limits.lookup orderId = some limit) :
    limits.read (some orderId) = .ok limit := by
  simp only [read, present]

theorem modify_of_lookup {limits : LimitBook} {orderId : OrderId} {limit : Limit}
    (change : Limit → Limit) (present : limits.lookup orderId = some limit) :
    limits.modify (some orderId) change = .ok (limits.insert orderId (change limit)) := by
  simp only [modify, present]

theorem lookup_insert_if (limits : LimitBook) (written orderId : OrderId) (limit : Limit) :
    (limits.insert written limit).lookup orderId =
      if orderId = written then some limit else limits.lookup orderId := by
  by_cases same : orderId = written
  · subst same
    rw [if_pos rfl]
    exact AList.lookup_insert limits
  · rw [if_neg same]
    exact AList.lookup_insert_ne same

theorem lookup_erase_if (limits : LimitBook) (erased orderId : OrderId) :
    (limits.erase erased).lookup orderId =
      if orderId = erased then none else limits.lookup orderId := by
  by_cases same : orderId = erased
  · subst same
    rw [if_pos rfl]
    exact AList.lookup_erase orderId limits
  · rw [if_neg same]
    exact AList.lookup_erase_ne same

/-- Distinct ids that are all present are no more than the entries. -/
theorem length_le_size (limits : LimitBook) (ids : List OrderId) (distinct : ids.Nodup)
    (present : ∀ orderId ∈ ids, (limits.lookup orderId).isSome) :
    ids.length ≤ limits.size := by
  have inside : ids ⊆ limits.keys := by
    intro orderId member
    exact AList.mem_keys.mp (AList.lookup_isSome.mp (present orderId member))
  have bound := (List.subperm_of_subset distinct inside).length_le
  simpa [AList.keys, List.keys, size] using bound

end LimitBook

namespace Level

/-- The loop of the order count: it walks from the head and counts the orders
with a quantity left, in a 16-bit counter. -/
def countFrom (limits : LimitBook) : Nat → Option OrderId → UInt16 → Except Fault UInt16
  | _, none, cnt => .ok cnt
  | 0, some _, _ => .error .outOfFuel
  | fuel + 1, some headptr, cnt =>
      match limits.read (some headptr) with
      | .error fault => .error fault
      | .ok limit =>
          countFrom limits fuel limit.nextLimit
            (if limit.order.currentQuantity ≠ 0 then cnt + 1 else cnt)

def getLevelOrderCount (limits : LimitBook) (level : Level) : Except Fault UInt16 :=
  countFrom limits limits.size level.head 0

end Level

end Engine
end SpotExchange
