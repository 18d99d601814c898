/-
The lists of a book, for each side and price, and what it means for the price maps,
the id map and the lists to agree.
-/

import SpotExchange.Engine.CleanStop
import SpotExchange.Engine.OrderBook

namespace SpotExchange
namespace Engine

open Collections IntrusiveList Allocation Machine

/-- A list of orders for each side and price, head first. -/
abbrev BookView := BookSide → Price → List Order

/-! ### Levels and lists by price -/

/-- The list under a price. -/
def queueIn (queues : Queues) (price : Price) : List Order :=
  (OrderedMap.lookupIn price queues).getD []

theorem Holds.lookupIn {side : BookSide} {limits : LimitBook} {entries : List (Price × Level)}
    {queues : Queues} (held : Holds side limits entries queues) (price : Price) :
    (OrderedMap.lookupIn price entries = none ∧ OrderedMap.lookupIn price queues = none) ∨
      ∃ level orders, OrderedMap.lookupIn price entries = some level ∧
        OrderedMap.lookupIn price queues = some orders ∧
        LevelHolds side limits price level orders := by
  induction held with
  | nil => exact Or.inl ⟨rfl, rfl⟩
  | @cons entry queue entries queues here _later ih =>
      obtain ⟨entryPrice, level⟩ := entry
      obtain ⟨queuePrice, orders⟩ := queue
      obtain ⟨same, holds⟩ := here
      have samePrice : entryPrice = queuePrice := same
      subst samePrice
      by_cases found : price = entryPrice
      · subst found
        refine Or.inr ⟨level, orders, ?_, ?_, holds⟩ <;> simp [OrderedMap.lookupIn]
      · simpa only [OrderedMap.lookupIn, if_neg found] using ih

theorem Holds.prices {side : BookSide} {limits : LimitBook} {entries : List (Price × Level)}
    {queues : Queues} (held : Holds side limits entries queues) :
    entries.map Prod.fst = queues.map Prod.fst := by
  induction held with
  | nil => rfl
  | cons here _later ih => rw [List.map_cons, List.map_cons, here.1, ih]

theorem mem_queueIn {queues : Queues} {price : Price} {order : Order}
    (member : order ∈ queueIn queues price) : (price, queueIn queues price) ∈ queues := by
  unfold queueIn at member ⊢
  cases found : OrderedMap.lookupIn price queues with
  | none =>
      rw [found] at member
      cases member
  | some orders => exact OrderedMap.mem_of_lookupIn found

theorem mem_ids_queueIn {queues : Queues} {price : Price} {orderId : OrderId}
    (member : orderId ∈ orderIds (queueIn queues price)) : orderId ∈ allIds queues := by
  obtain ⟨order, resting, _same⟩ := List.mem_map.mp member
  exact mem_allIds.mpr ⟨_, mem_queueIn resting, member⟩

theorem queueIn_of_mem {queues : Queues} (distinct : (queues.map Prod.fst).Nodup)
    {queue : Price × List Order} (member : queue ∈ queues) : queueIn queues queue.1 = queue.2 := by
  rw [queueIn, OrderedMap.lookupIn_of_mem distinct member]
  rfl

theorem queueIn_nodup {queues : Queues} (distinct : (allIds queues).Nodup) (price : Price) :
    (orderIds (queueIn queues price)).Nodup := by
  cases orders : queueIn queues price with
  | nil => exact List.nodup_nil
  | cons order rest =>
      have member := mem_queueIn (orders ▸ List.mem_cons_self : order ∈ queueIn queues price)
      rw [← orders]
      obtain ⟨front, back, split⟩ := List.append_of_mem member
      rw [split, allIds, List.flatMap_append, List.flatMap_cons] at distinct
      exact (List.nodup_append.mp (List.nodup_append.mp distinct).2.1).1

/-! ### Books and views -/

namespace OrderBook

/-- The orders on the way from the head of the level at a price. -/
def queueAt (book : OrderBook) : BookView := fun side price =>
  match (book.levels side).find? price with
  | none => []
  | some level =>
      (listFrom book.limitOrders book.limitOrders.size level.head).toOption.getD []

/-- The book holds the lists of a view: every level holds its list, prices without a
level have none, and every entry of the id map is on a list. -/
structure Represents (book : OrderBook) (view : BookView) : Prop where
  level : ∀ side price level, (book.levels side).find? price = some level →
    LevelHolds side book.limitOrders price level (view side price)
  absent : ∀ side price, (book.levels side).find? price = none → view side price = []
  distinct : ∀ side price, (orderIds (view side price)).Nodup
  resting : ∀ orderId limit, book.limitOrders.lookup orderId = some limit →
    ∃ side price, orderId ∈ orderIds (view side price)

/-- The book holds its own lists. -/
def WellFormed (book : OrderBook) : Prop := book.Represents book.queueAt

/-- The lists of a side, best price first. -/
def queuesOf (book : OrderBook) (side : BookSide) : Queues :=
  (book.levels side).keys.map (fun price => (price, book.queueAt side price))

namespace Represents

variable {book : OrderBook} {view : BookView}

theorem levelHolds (represents : book.Represents view) {side : BookSide} {price : Price}
    (occupied : view side price ≠ []) :
    ∃ level, (book.levels side).find? price = some level ∧
      LevelHolds side book.limitOrders price level (view side price) := by
  cases found : (book.levels side).find? price with
  | none => exact absurd (represents.absent side price found) occupied
  | some level => exact ⟨level, rfl, represents.level side price level found⟩

theorem queueAt_eq (represents : book.Represents view) : book.queueAt = view := by
  funext side price
  unfold queueAt
  cases found : (book.levels side).find? price with
  | none => exact (represents.absent side price found).symm
  | some level =>
      have held := represents.level side price level found
      have enough := held.linked.length_le (represents.distinct side price)
      simp only [held.atHead, listFrom_chain held.linked enough]
      rfl

theorem wellFormed (represents : book.Represents view) : book.WellFormed := by
  unfold WellFormed
  rw [represents.queueAt_eq]
  exact represents

theorem lookup (represents : book.Represents view) {side : BookSide} {price : Price}
    {order : Order} (member : order ∈ view side price) :
    ∃ next prev, book.limitOrders.lookup order.orderId =
      some (limitAt { side := side, price := price } order next prev) := by
  obtain ⟨_level, _found, held⟩ := represents.levelHolds (List.ne_nil_of_mem member)
  exact held.linked.lookup_of_mem member

theorem belongs (represents : book.Represents view) {side : BookSide} {price : Price}
    {order : Order} (member : order ∈ view side price) :
    order.price = price ∧ order.isBuySide = side.flag := by
  obtain ⟨_level, _found, held⟩ := represents.levelHolds (List.ne_nil_of_mem member)
  exact held.belongs order member

/-- An id stands on one list only, for one order. -/
theorem unique (represents : book.Represents view) {side other : BookSide}
    {price otherPrice : Price} {order otherOrder : Order} (member : order ∈ view side price)
    (otherMember : otherOrder ∈ view other otherPrice)
    (same : order.orderId = otherOrder.orderId) :
    side = other ∧ price = otherPrice ∧ order = otherOrder := by
  obtain ⟨next, prev, found⟩ := represents.lookup member
  obtain ⟨otherNext, otherPrev, otherFound⟩ := represents.lookup otherMember
  rw [same, otherFound] at found
  have equal := Option.some.inj found
  have level := congrArg Limit.currentLevel equal
  have orders := congrArg Limit.order equal
  simp only [limitAt, Option.some.injEq, LevelPtr.mk.injEq] at level orders
  exact ⟨level.1.symm, level.2.symm, orders.symm⟩

/-- What the id map holds is on the list of its side and price. -/
theorem of_lookup (represents : book.Represents view) {orderId : OrderId} {limit : Limit}
    (found : book.limitOrders.lookup orderId = some limit) :
    ∃ side next prev, limit.order ∈ view side limit.order.price ∧
      limit.order.orderId = orderId ∧
      limit = limitAt { side := side, price := limit.order.price } limit.order next prev := by
  obtain ⟨side, price, member⟩ := represents.resting orderId limit found
  obtain ⟨order, inside, same⟩ := List.mem_map.mp member
  obtain ⟨next, prev, stored⟩ := represents.lookup inside
  rw [same, found] at stored
  have equal := Option.some.inj stored
  obtain ⟨samePrice, _flag⟩ := represents.belongs inside
  refine ⟨side, next, prev, ?_⟩
  rw [equal, limitAt_order, samePrice]
  exact ⟨inside, same, rfl⟩

end Represents

namespace WellFormed

variable {book : OrderBook}

theorem entries_eq (wellFormed : book.WellFormed) (side : BookSide) :
    Holds side book.limitOrders (book.levels side).entries (book.queuesOf side) := by
  unfold Holds queuesOf OrderedMap.keys
  rw [List.map_map, List.forall₂_map_right_iff, List.forall₂_same]
  intro entry member
  have found := ((book.levels side).find?_eq_some_iff entry.1 entry.2).mpr member
  exact ⟨rfl, wellFormed.level side entry.1 entry.2 found⟩

theorem mem_queuesOf {side : BookSide} {queue : Price × List Order}
    (member : queue ∈ book.queuesOf side) : queue.2 = book.queueAt side queue.1 := by
  obtain ⟨price, _key, same⟩ := List.mem_map.mp member
  rw [← same]

theorem queueIn_queuesOf (wellFormed : book.WellFormed) (side : BookSide) (price : Price) :
    queueIn (book.queuesOf side) price = book.queueAt side price := by
  have prices : (book.queuesOf side).map Prod.fst = (book.levels side).keys := by
    rw [queuesOf, List.map_map]
    exact List.map_id _
  by_cases key : price ∈ (book.levels side).keys
  · have distinct : ((book.queuesOf side).map Prod.fst).Nodup := by
      rw [prices]
      exact (book.levels side).keys_nodup
    exact queueIn_of_mem distinct (List.mem_map.mpr ⟨price, key, rfl⟩)
  · have none := ((book.levels side).find?_eq_none_iff price).mpr key
    rw [wellFormed.absent side price none]
    cases orders : queueIn (book.queuesOf side) price with
    | nil => rfl
    | cons order rest =>
        have member := mem_queueIn
          (orders ▸ List.mem_cons_self : order ∈ queueIn (book.queuesOf side) price)
        have inside := List.mem_map_of_mem (f := Prod.fst) member
        rw [prices] at inside
        exact absurd inside key

theorem mem_allIds_queuesOf (wellFormed : book.WellFormed) {side : BookSide}
    {orderId : OrderId} :
    orderId ∈ allIds (book.queuesOf side) ↔
      ∃ price, orderId ∈ orderIds (book.queueAt side price) := by
  constructor
  · intro member
    obtain ⟨queue, present, inside⟩ := mem_allIds.mp member
    rw [mem_queuesOf present] at inside
    exact ⟨queue.1, inside⟩
  · rintro ⟨price, member⟩
    rw [← wellFormed.queueIn_queuesOf] at member
    exact mem_ids_queueIn member

theorem ids_nodup (wellFormed : book.WellFormed) (side : BookSide) :
    (allIds (book.queuesOf side)).Nodup := by
  unfold allIds queuesOf
  rw [List.flatMap_map]
  refine List.nodup_flatMap.mpr ⟨fun price _key => wellFormed.distinct side price, ?_⟩
  refine (book.levels side).keys_nodup.imp ?_
  intro price other different orderId here there
  obtain ⟨order, member, same⟩ := List.mem_map.mp here
  obtain ⟨otherOrder, otherMember, otherSame⟩ := List.mem_map.mp there
  exact different (wellFormed.unique member otherMember (same.trans otherSame.symm)).2.1

end WellFormed

theorem empty_wellFormed (ticker : Ticker) : (empty ticker).WellFormed := by
  have represents : (empty ticker).Represents (fun _ _ => []) :=
    { level := by
        intro side price level found
        cases side <;> cases found
      absent := fun _ _ _ => rfl
      distinct := fun _ _ => List.nodup_nil
      resting := by
        intro orderId limit found
        cases found }
  exact represents.wellFormed

/-! ### Books with orders on one side -/

section OneSided

variable {side : BookSide} {levels : SideBook side} {limits : LimitBook} {queues : Queues}

def oneSided (side : BookSide) (levels : SideBook side) (limits : LimitBook) : OrderBook :=
  { (empty 1).setLevels side levels with limitOrders := limits }

theorem oneSided_levels (levels : SideBook side) (limits : LimitBook) :
    (oneSided side levels limits).levels side = levels := by
  cases side <;> rfl

theorem oneSided_other {other : BookSide} (different : other ≠ side) (levels : SideBook side)
    (limits : LimitBook) : (oneSided side levels limits).levels other = OrderedMap.empty := by
  cases side <;> cases other <;> first | rfl | exact absurd rfl different

/-- A side that holds its lists, with nothing else in the id map, is a well-formed book. -/
theorem oneSided_wellFormed (held : Holds side limits levels.entries queues)
    (distinct : (allIds queues).Nodup)
    (covered : ∀ orderId limit, limits.lookup orderId = some limit → orderId ∈ allIds queues) :
    (oneSided side levels limits).WellFormed := by
  have prices : levels.keys = queues.map Prod.fst := held.prices
  have represents : (oneSided side levels limits).Represents
      (fun other price => if other = side then queueIn queues price else []) :=
    { level := by
        intro other price level found
        by_cases same : other = side
        · subst same
          rw [oneSided_levels] at found
          rw [if_pos rfl, queueIn]
          have entry : OrderedMap.lookupIn price levels.entries = some level := found
          rcases held.lookupIn price with ⟨absent, _none⟩ | ⟨kept, orders, present, queue, holds⟩
          · rw [absent] at entry
            cases entry
          · rw [present] at entry
            cases entry
            rw [queue]
            exact holds
        · rw [oneSided_other same] at found
          cases found
      absent := by
        intro other price found
        by_cases same : other = side
        · subst same
          rw [oneSided_levels] at found
          have entry : OrderedMap.lookupIn price levels.entries = none := found
          rw [if_pos rfl, queueIn]
          rcases held.lookupIn price with ⟨_absent, none⟩ | ⟨kept, orders, present, _queue, _holds⟩
          · rw [none]
            rfl
          · rw [present] at entry
            cases entry
        · exact if_neg same
      distinct := by
        intro other price
        split
        · exact queueIn_nodup distinct price
        · exact List.nodup_nil
      resting := by
        intro orderId limit found
        obtain ⟨queue, present, inside⟩ := mem_allIds.mp (covered orderId limit found)
        refine ⟨side, queue.1, ?_⟩
        rw [if_pos rfl, queueIn_of_mem (prices ▸ levels.keys_nodup) present]
        exact inside }
  exact represents.wellFormed

theorem solo_wellFormed (side : BookSide) (order : Order) (flagged : order.isBuySide = side.flag) :
    (oneSided side (soloBook side order) (soloLimits side order)).WellFormed := by
  apply oneSided_wellFormed (solo_holds side order flagged)
  · exact List.nodup_singleton order.orderId
  · intro orderId limit found
    unfold soloLimits at found
    rw [LimitBook.lookup_insert_if] at found
    split at found
    · rename_i same
      rw [same]
      exact List.mem_singleton.mpr rfl
    · cases found

theorem twoLevels_wellFormed : (oneSided .asks twoLevelBook twoLevelLimits).WellFormed := by
  apply oneSided_wellFormed twoLevels_hold (by decide)
  intro orderId limit found
  have key : orderId ∈ twoLevelLimits.keys :=
    AList.mem_keys.mp (AList.lookup_isSome.mp (Option.isSome_of_mem found))
  have same : allIds twoLevelQueues = twoLevelLimits.keys.reverse := by decide
  rw [same]
  exact List.mem_reverse.mpr key

end OneSided

end OrderBook

end Engine
end SpotExchange
