/-
Placing, cancelling and changing a single order. Each operation touches the list of
one level, and leaves a book that holds the lists with that one change.
-/

import SpotExchange.Engine.View

namespace SpotExchange
namespace Engine

open Collections IntrusiveList Machine

namespace BookView

def append (view : BookView) (placed : BookSide) (order : Order) : BookView :=
  fun side price =>
    if side = placed ∧ price = order.price then view side price ++ [order] else view side price

def drop (view : BookView) (orderId : OrderId) : BookView :=
  fun side price => (view side price).filter (fun order => decide (order.orderId ≠ orderId))

def replace (view : BookView) (changed : Order) : BookView :=
  fun side price => (view side price).map (fun order =>
    if order.orderId = changed.orderId then changed else order)

end BookView

namespace OrderBook

section Levels

variable (book : OrderBook)

theorem levels_limitOrders (limits : LimitBook) (side : BookSide) :
    OrderBook.levels { book with limitOrders := limits } side = book.levels side := by
  cases side <;> rfl

theorem writeLevel_of_found {ptr : LevelPtr} {level : Level} (change : Level → Level)
    (found : (book.levels ptr.side).find? ptr.price = some level) :
    book.writeLevel (some ptr) change =
      .ok (book.setLevels ptr.side ((book.levels ptr.side).update ptr.price change)) := by
  simp only [writeLevel, found]

theorem readLevel_of_found {ptr : LevelPtr} {level : Level}
    (found : (book.levels ptr.side).find? ptr.price = some level) :
    book.readLevel ptr = .ok level := by
  simp only [readLevel, found]

/-- What a write to one level leaves under each price of each side. -/
theorem find?_setLevels_update (side other : BookSide) (price otherPrice : Price)
    (change : Level → Level) :
    ((book.setLevels side ((book.levels side).update price change)).levels other).find? otherPrice =
      if other = side ∧ otherPrice = price then
        ((book.levels other).find? otherPrice).map change
      else (book.levels other).find? otherPrice := by
  by_cases same : other = side
  · subst same
    rw [levels_setLevels_self, OrderedMap.find?_update]
    simp only [true_and]
  · rw [levels_setLevels_of_ne book same, if_neg (fun both => same both.1)]

end Levels

/-- One list changes: the other levels and the nodes of the other lists stay. -/
theorem Represents.change {book after : OrderBook} {view changed : BookView}
    (represents : book.Represents view) (side : BookSide) (price : Price)
    (others : ∀ other otherPrice, ¬(other = side ∧ otherPrice = price) →
      changed other otherPrice = view other otherPrice)
    (otherLevels : ∀ other otherPrice, ¬(other = side ∧ otherPrice = price) →
      (after.levels other).find? otherPrice = (book.levels other).find? otherPrice)
    (frame : ∀ other otherPrice, ¬(other = side ∧ otherPrice = price) →
      ∀ orderId ∈ orderIds (view other otherPrice),
        after.limitOrders.lookup orderId = book.limitOrders.lookup orderId)
    (level : ∀ level, (after.levels side).find? price = some level →
      LevelHolds side after.limitOrders price level (changed side price))
    (absent : (after.levels side).find? price = none → changed side price = [])
    (distinct : (orderIds (changed side price)).Nodup)
    (resting : ∀ orderId limit, after.limitOrders.lookup orderId = some limit →
      orderId ∈ orderIds (changed side price) ∨
        ∃ other otherPrice, ¬(other = side ∧ otherPrice = price) ∧
          orderId ∈ orderIds (view other otherPrice)) :
    after.Represents changed where
  level := by
    intro other otherPrice otherLevel found
    by_cases here : other = side ∧ otherPrice = price
    · obtain ⟨sameSide, samePrice⟩ := here
      subst sameSide samePrice
      exact level otherLevel found
    · rw [otherLevels other otherPrice here] at found
      rw [others other otherPrice here]
      exact (represents.level other otherPrice otherLevel found).frame (frame other otherPrice here)
  absent := by
    intro other otherPrice none
    by_cases here : other = side ∧ otherPrice = price
    · obtain ⟨sameSide, samePrice⟩ := here
      subst sameSide samePrice
      exact absent none
    · rw [otherLevels other otherPrice here] at none
      rw [others other otherPrice here]
      exact represents.absent other otherPrice none
  distinct := by
    intro other otherPrice
    by_cases here : other = side ∧ otherPrice = price
    · obtain ⟨sameSide, samePrice⟩ := here
      subst sameSide samePrice
      exact distinct
    · rw [others other otherPrice here]
      exact represents.distinct other otherPrice
  resting := by
    intro orderId limit found
    rcases resting orderId limit found with here | ⟨other, otherPrice, away, member⟩
    · exact ⟨side, price, here⟩
    · refine ⟨other, otherPrice, ?_⟩
      rw [others other otherPrice away]
      exact member

/-! ### Placing an order -/

section Placing

variable {book : OrderBook} {view : BookView} {side : BookSide} {order : Order}

/-- The level at a price once it has been made sure of, before the order is linked. -/
theorem getSideLevel_eq (sidebook : SideBook side) (price : Price) :
    ∃ placed, getSideLevel price sidebook = .ok placed ∧
      ∀ other, placed.find? other =
        if other = price then
          some ((sidebook.find? price).getD (Level.ofPrice price))
        else sidebook.find? other := by
  unfold getSideLevel
  cases found : sidebook.find? price with
  | some level =>
      refine ⟨sidebook, rfl, ?_⟩
      intro other
      by_cases same : other = price
      · rw [if_pos same, same, found]
        rfl
      · rw [if_neg same]
  | none =>
      have inserted := OrderedMap.emplace_of_absent sidebook price (Level.ofPrice price) found
      refine ⟨(sidebook.emplace price (Level.ofPrice price)).1, ?_, ?_⟩
      · simp only [inserted, if_true]
      · intro other
        rw [OrderedMap.find?_emplace_of_absent sidebook price other _ found]
        rfl

theorem notMem_of_lookup_none (represents : book.Represents view) {orderId : OrderId}
    (fresh : book.limitOrders.lookup orderId = none) (side : BookSide) (price : Price) :
    orderId ∉ orderIds (view side price) := by
  intro member
  obtain ⟨order, inside, same⟩ := List.mem_map.mp member
  obtain ⟨next, prev, found⟩ := represents.lookup inside
  rw [same, fresh] at found
  cases found

theorem headOf_append {orders : List Order} (occupied : orders ≠ []) (back : List Order) :
    headOf (orders ++ back) = headOf orders := by
  cases orders with
  | nil => exact absurd rfl occupied
  | cons first rest => rfl

/-- The result of linking an order behind the list of a level. -/
structure Linked (side : BookSide) (order : Order) (book : OrderBook) (level : Level)
    (orders : List Order) (after : OrderBook) : Prop where
  found : ∀ other price, (after.levels other).find? price =
    if other = side ∧ price = order.price then
      some { level with
        head := headOf (orders ++ [order])
        tail := some order.orderId }
    else (book.levels other).find? price
  linked : Chain { side := side, price := order.price } after.limitOrders none
    (orders ++ [order]) none
  frame : ∀ orderId, orderId ∉ orderIds (orders ++ [order]) →
    after.limitOrders.lookup orderId = book.limitOrders.lookup orderId

theorem placeLimit_first (book : OrderBook) {level : Level}
    (fresh : book.limitOrders.lookup order.orderId = none)
    (found : (book.levels side).find? order.price = some level) (noHead : level.head = none) :
    ∃ after, book.placeLimitInBookLevel { side := side, price := order.price } order = .ok after ∧
      Linked side order book level [] after := by
  have read : book.readLevel { side := side, price := order.price } = .ok level :=
    readLevel_of_found book found
  have headless : level.head.isNone = true := by
    rw [noHead]
    rfl
  unfold placeLimitInBookLevel
  rw [fresh]
  simp only [read, ok_bind, if_pos headless]
  refine ⟨_, writeLevel_of_found _ _ ((levels_limitOrders book _ side).symm ▸ found), ?_, ?_, ?_⟩
  · intro other price
    rw [find?_setLevels_update, levels_limitOrders]
    by_cases here : other = side ∧ price = order.price
    · obtain ⟨sameSide, samePrice⟩ := here
      subst sameSide samePrice
      rw [if_pos ⟨rfl, rfl⟩, if_pos ⟨rfl, rfl⟩, found]
      rfl
    · rw [if_neg here, if_neg here]
  · rw [limitOrders_setLevels]
    exact ⟨AList.lookup_insert _, trivial⟩
  · intro orderId outside
    rw [limitOrders_setLevels]
    exact AList.lookup_insert_ne (fun same => outside (same ▸ List.mem_cons_self))

theorem placeLimit_last (book : OrderBook) {level : Level} {front : List Order} {last : Order}
    (fresh : book.limitOrders.lookup order.orderId = none)
    (found : (book.levels side).find? order.price = some level)
    (atHead : level.head = headOf (front ++ [last])) (atTail : level.tail = some last.orderId)
    (linked : Chain { side := side, price := order.price } book.limitOrders none
      (front ++ [last]) none)
    (distinct : (orderIds (front ++ [last])).Nodup) :
    ∃ after, book.placeLimitInBookLevel { side := side, price := order.price } order = .ok after ∧
      Linked side order book level (front ++ [last]) after := by
  have read : book.readLevel { side := side, price := order.price } = .ok level :=
    readLevel_of_found book found
  have headed : ¬level.head.isNone = true := by
    rw [atHead, headOf_eq_head?]
    simp [orderIds]
  have pieces := (Segment.append_iff front [last]).mp linked
  have lastNode : book.limitOrders.lookup last.orderId =
      some (limitAt { side := side, price := order.price } last none
        (IntrusiveList.last Order.orderId none front)) := pieces.2.1
  have lastDifferent : last.orderId ≠ order.orderId := by
    intro same
    rw [same, fresh] at lastNode
    cases lastNode
  have inserted : (book.limitOrders.insert order.orderId
      (limitAt { side := side, price := order.price } order none (some last.orderId))).lookup
        last.orderId =
      some (limitAt { side := side, price := order.price } last none
        (IntrusiveList.last Order.orderId none front)) := by
    rw [AList.lookup_insert_ne lastDifferent]
    exact lastNode
  have modified := LimitBook.modify_of_lookup
    (fun limit => { limit with nextLimit := some order.orderId }) inserted
  have notLast : ∀ other ∈ front, other.orderId ≠ last.orderId := by
    intro other member same
    rw [orderIds, List.map_append] at distinct
    exact (List.nodup_append.mp distinct).2.2 _ (List.mem_map_of_mem member) _
      (List.mem_map_of_mem List.mem_cons_self) same
  have notOrder : ∀ other ∈ front, other.orderId ≠ order.orderId := by
    intro other member same
    obtain ⟨next, prev, stored⟩ :=
      Chain.lookup_of_mem linked (List.mem_append_left [last] member)
    rw [same, fresh] at stored
    cases stored
  have stepped : book.placeLimitInBookLevel { side := side, price := order.price } order =
      OrderBook.writeLevel
        { book with
          limitOrders :=
            (book.limitOrders.insert order.orderId
              (limitAt { side := side, price := order.price } order none
                (some last.orderId))).insert last.orderId
              (limitAt { side := side, price := order.price } last (some order.orderId)
                (IntrusiveList.last Order.orderId none front)) }
        (some { side := side, price := order.price })
        (fun level => { level with tail := some order.orderId }) := by
    unfold placeLimitInBookLevel
    rw [fresh]
    simp only [read, ok_bind, if_neg headed, atTail]
    exact congrArg (fun linked => linked >>= fun limits =>
      OrderBook.writeLevel { book with limitOrders := limits }
        (some { side := side, price := order.price })
        (fun level => { level with tail := some order.orderId })) modified
  rw [stepped]
  refine ⟨_, writeLevel_of_found _ _ ((levels_limitOrders book _ side).symm ▸ found), ?_, ?_, ?_⟩
  · intro other price
    rw [find?_setLevels_update, levels_limitOrders]
    by_cases here : other = side ∧ price = order.price
    · obtain ⟨sameSide, samePrice⟩ := here
      subst sameSide samePrice
      have sameHead := headOf_append (List.append_ne_nil_of_right_ne_nil front
        (List.cons_ne_nil last [])) [order]
      rw [if_pos ⟨rfl, rfl⟩, if_pos ⟨rfl, rfl⟩, found, Option.map_some, sameHead, ← atHead]
    · rw [if_neg here, if_neg here]
  · rw [limitOrders_setLevels]
    refine Segment.push linked ?_ ?_ ?_
    · rw [last_concat]
      exact (AList.lookup_insert_ne (Ne.symm lastDifferent)).trans (AList.lookup_insert _)
    · intro initial lastItem split
      obtain ⟨sameFront, sameLast⟩ := List.append_inj' split rfl
      cases List.singleton_inj.mp sameLast
      rw [← sameFront]
      exact AList.lookup_insert _
    · intro initial lastItem split other member
      obtain ⟨sameFront, sameLast⟩ := List.append_inj' split rfl
      rw [← sameFront] at member
      exact (AList.lookup_insert_ne (notLast other member)).trans
        (AList.lookup_insert_ne (notOrder other member))
  · intro orderId outside
    have away : orderId ≠ last.orderId := by
      intro same
      rw [same] at outside
      exact outside (by simp [orderIds])
    have notNew : orderId ≠ order.orderId := by
      intro same
      rw [same] at outside
      exact outside (by simp [orderIds])
    rw [limitOrders_setLevels]
    exact (AList.lookup_insert_ne away).trans (AList.lookup_insert_ne notNew)

theorem placeLimit_eq (book : OrderBook) {level : Level} {orders : List Order}
    (fresh : book.limitOrders.lookup order.orderId = none)
    (found : (book.levels side).find? order.price = some level)
    (atHead : level.head = headOf orders) (atTail : level.tail = tailOf orders)
    (linked : Chain { side := side, price := order.price } book.limitOrders none orders none)
    (distinct : (orderIds orders).Nodup) :
    ∃ after, book.placeLimitInBookLevel { side := side, price := order.price } order = .ok after ∧
      Linked side order book level orders after := by
  rcases List.eq_nil_or_concat' orders with empty | ⟨front, last, split⟩
  · subst empty
    exact placeLimit_first book fresh found atHead
  · subst split
    have tail : level.tail = some last.orderId := by
      rw [atTail, tailOf, last_concat]
    exact placeLimit_last book fresh found atHead tail linked distinct

theorem append_self (view : BookView) (side : BookSide) (order : Order) :
    view.append side order side order.price = view side order.price ++ [order] :=
  if_pos ⟨rfl, rfl⟩

theorem append_away (view : BookView) {side other : BookSide} {order : Order}
    {otherPrice : Price} (away : ¬(other = side ∧ otherPrice = order.price)) :
    view.append side order other otherPrice = view other otherPrice := if_neg away

/-- The level at the order's price, made sure of and flagged. -/
theorem placeOrder_marked (represents : book.Represents view)
    (flagged : order.isBuySide = side.flag) :
    ∃ marked level, book.placeOrderInBook side order order.isBuySide =
        (book.setLevels side marked).placeLimitInBookLevel
          { side := side, price := order.price } order ∧
      marked.find? order.price = some level ∧
      (∀ other, other ≠ order.price → marked.find? other = (book.levels side).find? other) ∧
      level.head = headOf (view side order.price) ∧
      level.tail = tailOf (view side order.price) ∧
      level.price = order.price ∧
      level.isBuySide = side.flag := by
  obtain ⟨placed, places, stored⟩ := getSideLevel_eq (book.levels side) order.price
  have returned : book.placeOrderInBook side order order.isBuySide =
      (book.setLevels side (placed.update order.price
        (fun level => { level with isBuySide := order.isBuySide }))).placeLimitInBookLevel
          { side := side, price := order.price } order := by
    unfold placeOrderInBook
    rw [places]
    rfl
  have ends : (((book.levels side).find? order.price).getD (Level.ofPrice order.price)).head =
        headOf (view side order.price) ∧
      (((book.levels side).find? order.price).getD (Level.ofPrice order.price)).tail =
        tailOf (view side order.price) ∧
      (((book.levels side).find? order.price).getD (Level.ofPrice order.price)).price =
        order.price := by
    cases found : (book.levels side).find? order.price with
    | none =>
        rw [represents.absent side order.price found]
        exact ⟨rfl, rfl, rfl⟩
    | some level =>
        have held := represents.level side order.price level found
        exact ⟨held.atHead, held.atTail, held.priced⟩
  refine ⟨_,
    { ((book.levels side).find? order.price).getD (Level.ofPrice order.price) with
      isBuySide := order.isBuySide }, returned, ?_, ?_, ends.1, ends.2.1, ends.2.2, flagged⟩
  · rw [OrderedMap.find?_update, if_pos rfl, stored, if_pos rfl]
    rfl
  · intro other different
    rw [OrderedMap.find?_update, if_neg different, stored, if_neg different]

/-- An order that is placed goes to the end of its list. -/
theorem placeOrder_represents (represents : book.Represents view)
    (fresh : book.limitOrders.lookup order.orderId = none)
    (flagged : order.isBuySide = side.flag) :
    ∃ after, book.placeOrderInBook side order order.isBuySide = .ok after ∧
      after.Represents (view.append side order) := by
  obtain ⟨marked, level, returned, found, others, atHead, atTail, priced, levelFlag⟩ :=
    placeOrder_marked represents flagged
  have linkedBefore : Chain { side := side, price := order.price } book.limitOrders none
      (view side order.price) none := by
    cases stored : (book.levels side).find? order.price with
    | none =>
        rw [represents.absent side order.price stored]
        trivial
    | some level => exact (represents.level side order.price level stored).linked
  have absentId := notMem_of_lookup_none represents fresh
  have markedBook : ∀ other price, ¬(other = side ∧ price = order.price) →
      ((book.setLevels side marked).levels other).find? price =
        (book.levels other).find? price := by
    intro other price away
    by_cases same : other = side
    · subst same
      rw [levels_setLevels_self]
      exact others price (fun samePrice => away ⟨rfl, samePrice⟩)
    · rw [levels_setLevels_of_ne book same]
  obtain ⟨after, links, result⟩ := placeLimit_eq (book.setLevels side marked)
    ((limitOrders_setLevels book side marked).symm ▸ fresh)
    ((levels_setLevels_self book side marked).symm ▸ found) atHead atTail
    ((limitOrders_setLevels book side marked).symm ▸ linkedBefore)
    (represents.distinct side order.price)
  have frame : ∀ orderId, orderId ∉ orderIds (view side order.price ++ [order]) →
      after.limitOrders.lookup orderId = book.limitOrders.lookup orderId := by
    intro orderId outside
    rw [result.frame orderId outside, limitOrders_setLevels]
  have ids : orderIds (view side order.price ++ [order]) =
      orderIds (view side order.price) ++ [order.orderId] := by
    simp [orderIds]
  refine ⟨after, returned.trans links, Represents.change represents side order.price
    (fun _ _ away => append_away view away) ?_ ?_ ?_ ?_ ?_ ?_⟩
  · intro other price away
    rw [result.found, if_neg away, markedBook other price away]
  · intro other price away orderId member
    refine frame orderId ?_
    rw [ids, List.mem_append, List.mem_singleton]
    rintro (here | same)
    · obtain ⟨first, firstMember, firstSame⟩ := List.mem_map.mp member
      obtain ⟨second, secondMember, secondSame⟩ := List.mem_map.mp here
      have place := represents.unique firstMember secondMember (firstSame.trans secondSame.symm)
      exact away ⟨place.1, place.2.1⟩
    · rw [same] at member
      exact absentId other price member
  · intro placedLevel stored
    rw [result.found, if_pos ⟨rfl, rfl⟩] at stored
    cases stored
    rw [append_self]
    refine
      { occupied := List.append_ne_nil_of_right_ne_nil _ (List.cons_ne_nil order [])
        atHead := rfl
        atTail := (last_concat Order.orderId none _ order).symm
        priced := priced
        flagged := levelFlag
        linked := result.linked
        belongs := ?_ }
    intro other member
    rcases List.mem_append.mp member with old | new
    · exact represents.belongs old
    · rw [List.mem_singleton.mp new]
      exact ⟨rfl, flagged⟩
  · intro none
    rw [result.found, if_pos ⟨rfl, rfl⟩] at none
    cases none
  · rw [append_self, ids]
    refine List.nodup_append.mpr ⟨represents.distinct side order.price, List.nodup_singleton _, ?_⟩
    intro orderId member other single same
    rw [List.mem_singleton.mp single] at same
    rw [same] at member
    exact absentId side order.price member
  · intro orderId limit stored
    rw [append_self]
    by_cases here : orderId ∈ orderIds (view side order.price ++ [order])
    · exact Or.inl here
    · rw [frame orderId here] at stored
      obtain ⟨other, price, member⟩ := represents.resting orderId limit stored
      refine Or.inr ⟨other, price, ?_, member⟩
      rintro ⟨sameSide, samePrice⟩
      rw [sameSide, samePrice] at member
      rw [ids, List.mem_append, not_or] at here
      exact here.1 member

end Placing

/-! ### Taking an order out -/

section Unlinking

variable {book : OrderBook} {view : BookView} {side : BookSide} {price : Price} {order : Order}
  {front back : List Order} {level : Level}

/-- The result of taking an order out of the list of its level. -/
structure Unlinked (side : BookSide) (price : Price) (front : List Order) (order : Order)
    (back : List Order) (book after : OrderBook) : Prop where
  others : ∀ other otherPrice, ¬(other = side ∧ otherPrice = price) →
    (after.levels other).find? otherPrice = (book.levels other).find? otherPrice
  level : ∀ level, (after.levels side).find? price = some level →
    LevelHolds side after.limitOrders price level (front ++ back)
  absent : (after.levels side).find? price = none → front ++ back = []
  gone : after.limitOrders.lookup order.orderId = none
  frame : ∀ orderId, orderId ∉ orderIds (front ++ order :: back) →
    after.limitOrders.lookup orderId = book.limitOrders.lookup orderId

/-- The ids of a list around one of its orders. -/
structure Apart (front : List Order) (order : Order) (back : List Order) : Prop where
  frontNodup : (orderIds front).Nodup
  backNodup : (orderIds back).Nodup
  notFront : ∀ other ∈ front, other.orderId ≠ order.orderId
  notBack : ∀ other ∈ back, other.orderId ≠ order.orderId
  disjoint : ∀ first ∈ front, ∀ second ∈ back, first.orderId ≠ second.orderId

theorem apart_of_nodup (distinct : (orderIds (front ++ order :: back)).Nodup) :
    Apart front order back := by
  rw [orderIds, List.map_append, List.map_cons] at distinct
  obtain ⟨frontNodup, later, disjoint⟩ := List.nodup_append.mp distinct
  obtain ⟨absent, backNodup⟩ := List.nodup_cons.mp later
  refine ⟨frontNodup, backNodup, ?_, ?_, ?_⟩
  · intro other member
    exact disjoint _ (List.mem_map_of_mem member) _ List.mem_cons_self
  · intro other member same
    exact absent (same ▸ List.mem_map_of_mem member)
  · intro first firstMember second secondMember
    exact disjoint _ (List.mem_map_of_mem firstMember) _
      (List.mem_cons_of_mem _ (List.mem_map_of_mem secondMember))

theorem not_last_of_nodup {last : Order} (distinct : (orderIds (front ++ [last])).Nodup) :
    ∀ other ∈ front, other.orderId ≠ last.orderId :=
  (apart_of_nodup distinct).notFront

/-- A level that keeps its list but for one order. -/
theorem LevelHolds.without {limits : LimitBook}
    (held : LevelHolds side book.limitOrders price level (front ++ order :: back))
    (occupied : front ++ back ≠ [])
    (linked : Chain { side := side, price := price } limits none (front ++ back) none)
    {head tail : Option OrderId} (atHead : head = headOf (front ++ back))
    (atTail : tail = tailOf (front ++ back)) :
    LevelHolds side limits price { level with head := head, tail := tail } (front ++ back) where
  occupied := occupied
  atHead := atHead
  atTail := atTail
  priced := held.priced
  flagged := held.flagged
  linked := linked
  belongs := by
    intro other member
    refine held.belongs other ?_
    rcases List.mem_append.mp member with early | late
    · exact List.mem_append_left _ early
    · exact List.mem_append_right _ (List.mem_cons_of_mem _ late)

/-- The only order of a level takes the level with it. -/
theorem unlink_only (found : (book.levels side).find? price = some level)
    (held : LevelHolds side book.limitOrders price level [order]) :
    ∃ unlinked, book.unlinkLimit (limitAt { side := side, price := price } order none none) =
        .ok unlinked ∧
      Unlinked side price [] order [] book
        { unlinked with limitOrders := unlinked.limitOrders.erase order.orderId } := by
  obtain ⟨samePrice, flag⟩ := held.belongs order List.mem_cons_self
  have erases : book.unlinkLimit (limitAt { side := side, price := price } order none none) =
      .ok (book.setLevels side ((book.levels side).erase price)) := by
    cases side with
    | asks => simp [unlinkLimit, isInMiddleOfLevel, isHeadOrder, isTailOrder, isHeadAndTail,
        limitAt, flag, BookSide.flag, samePrice, setLevels, levels]
    | bids => simp [unlinkLimit, isInMiddleOfLevel, isHeadOrder, isTailOrder, isHeadAndTail,
        limitAt, flag, BookSide.flag, samePrice, setLevels, levels]
  refine ⟨_, erases, ?_, ?_, fun _ => rfl, ?_, ?_⟩
  · intro other otherPrice away
    rw [levels_limitOrders]
    by_cases same : other = side
    · subst same
      rw [levels_setLevels_self, OrderedMap.find?_erase,
        if_neg (fun samePrice => away ⟨rfl, samePrice⟩)]
    · rw [levels_setLevels_of_ne book same]
  · intro otherLevel stored
    rw [levels_limitOrders, levels_setLevels_self, OrderedMap.find?_erase, if_pos rfl] at stored
    cases stored
  · exact AList.lookup_erase _ _
  · intro orderId outside
    rw [limitOrders_setLevels]
    exact AList.lookup_erase_ne (fun same => outside (same ▸ List.mem_cons_self))

/-- An end of the level has moved to a neighbour of the order, which is relinked. -/
theorem Unlinked.of_updated {change : Level → Level} {neighbour : OrderId} {moved : Limit}
    (found : (book.levels side).find? price = some level)
    (held : LevelHolds side ((book.limitOrders.insert neighbour moved).erase order.orderId) price
      (change level) (front ++ back))
    (inside : neighbour ∈ orderIds (front ++ order :: back)) :
    Unlinked side price front order back book
      { book.setLevels side ((book.levels side).update price change) with
        limitOrders := (book.limitOrders.insert neighbour moved).erase order.orderId } where
  others := by
    intro other otherPrice away
    rw [levels_limitOrders, find?_setLevels_update, if_neg away]
  level := by
    intro otherLevel stored
    rw [levels_limitOrders, find?_setLevels_update, if_pos ⟨rfl, rfl⟩, found] at stored
    cases stored
    exact held
  absent := by
    intro none
    rw [levels_limitOrders, find?_setLevels_update, if_pos ⟨rfl, rfl⟩, found] at none
    cases none
  gone := AList.lookup_erase _ _
  frame := by
    intro orderId outside
    have notItem : orderId ≠ order.orderId := by
      intro same
      exact outside (same ▸ by simp [orderIds])
    have away : orderId ≠ neighbour := by
      intro same
      exact outside (same ▸ inside)
    exact (AList.lookup_erase_ne notItem).trans (AList.lookup_insert_ne away)

/-- The first order of a longer list: the level moves its head. -/
theorem unlink_head {next : Order} {rest : List Order}
    (found : (book.levels side).find? price = some level)
    (held : LevelHolds side book.limitOrders price level (order :: next :: rest))
    (distinct : (orderIds (order :: next :: rest)).Nodup) :
    ∃ unlinked, book.unlinkLimit
        (limitAt { side := side, price := price } order (some next.orderId) none) = .ok unlinked ∧
      Unlinked side price [] order (next :: rest) book
        { unlinked with limitOrders := unlinked.limitOrders.erase order.orderId } := by
  have apart := @apart_of_nodup order [] (next :: rest) distinct
  have nextNode : book.limitOrders.lookup next.orderId =
      some (limitAt { side := side, price := price } next (headOf rest) (some order.orderId)) :=
    held.linked.2.1
  have different : next.orderId ≠ order.orderId := apart.notBack next List.mem_cons_self
  have notNext := (List.nodup_cons.mp apart.backNodup).1
  have written := @writeLevel_of_found book { side := side, price := price } level
    (fun level => { level with head := some next.orderId }) found
  have modified := LimitBook.modify_of_lookup (fun limit => { limit with prevLimit := none })
    nextNode
  have steps : book.unlinkLimit
      (limitAt { side := side, price := price } order (some next.orderId) none) =
      .ok { book.setLevels side ((book.levels side).update price
            (fun level => { level with head := some next.orderId })) with
          limitOrders := book.limitOrders.insert next.orderId
            (limitAt { side := side, price := price } next (headOf rest) none) } := by
    simp only [unlinkLimit, isInMiddleOfLevel, isHeadOrder, limitAt, Option.isSome_some,
      Option.isSome_none, Option.isNone_none, Bool.and_false, Bool.and_self, Bool.false_eq_true,
      if_false, if_true, written, ok_bind, limitOrders_setLevels, modified]
    rfl
  refine ⟨_, steps, Unlinked.of_updated found ?_ (List.mem_cons_of_mem _ List.mem_cons_self)⟩
  refine @LevelHolds.without book side price order [] (next :: rest) level _ held
    (List.cons_ne_nil next rest) ?_ _ _ rfl held.atTail
  refine Segment.relink_front held.linked.2 rfl ?_ ?_
  · exact (AList.lookup_erase_ne different).trans (AList.lookup_insert _)
  · intro other member
    have notItem := apart.notBack other (List.mem_cons_of_mem next member)
    have away : other.orderId ≠ next.orderId := by
      intro same
      exact notNext (same ▸ List.mem_map_of_mem member)
    exact (AList.lookup_erase_ne notItem).trans (AList.lookup_insert_ne away)

/-- The last order of a longer list: the level moves its tail. -/
theorem unlink_tail {last : Order}
    (found : (book.levels side).find? price = some level)
    (held : LevelHolds side book.limitOrders price level (front ++ [last] ++ [order]))
    (distinct : (orderIds (front ++ [last] ++ [order])).Nodup) :
    ∃ unlinked, book.unlinkLimit
        (limitAt { side := side, price := price } order none (some last.orderId)) = .ok unlinked ∧
      Unlinked side price (front ++ [last]) order [] book
        { unlinked with limitOrders := unlinked.limitOrders.erase order.orderId } := by
  have apart := @apart_of_nodup order (front ++ [last]) [] distinct
  have notLast := not_last_of_nodup apart.frontNodup
  have pieces := (Segment.append_iff (front ++ [last]) [order]).mp held.linked
  have lastNode : book.limitOrders.lookup last.orderId =
      some (limitAt { side := side, price := price } last (some order.orderId)
        (IntrusiveList.last Order.orderId none front)) :=
    ((Segment.append_iff front [last]).mp pieces.1).2.1
  have different : last.orderId ≠ order.orderId :=
    apart.notFront last (List.mem_append_right _ List.mem_cons_self)
  have written := @writeLevel_of_found book { side := side, price := price } level
    (fun level => { level with tail := some last.orderId }) found
  have modified := LimitBook.modify_of_lookup (fun limit => { limit with nextLimit := none })
    lastNode
  have steps : book.unlinkLimit
      (limitAt { side := side, price := price } order none (some last.orderId)) =
      .ok { book.setLevels side ((book.levels side).update price
            (fun level => { level with tail := some last.orderId })) with
          limitOrders := book.limitOrders.insert last.orderId
            (limitAt { side := side, price := price } last none
              (IntrusiveList.last Order.orderId none front)) } := by
    simp only [unlinkLimit, isInMiddleOfLevel, isHeadOrder, isTailOrder, limitAt,
      Option.isSome_some, Option.isSome_none, Option.isNone_none, Option.isNone_some,
      Bool.and_self, Bool.false_and, Bool.false_eq_true, if_false, if_true,
      written, ok_bind, limitOrders_setLevels, modified]
    rfl
  have occupied : front ++ [last] ≠ [] :=
    List.append_ne_nil_of_right_ne_nil front (List.cons_ne_nil last [])
  have lastInside : last.orderId ∈ orderIds (front ++ [last] ++ order :: []) := by
    simp [orderIds]
  refine ⟨_, steps, Unlinked.of_updated found ?_ lastInside⟩
  have sameHead := headOf_append occupied [order]
  have rest : front ++ [last] ++ [] = front ++ [last] := List.append_nil _
  refine @LevelHolds.without book side price order (front ++ [last]) [] level _ held
    (fun none => occupied (rest ▸ none)) ?_ _ _ ?_ ?_
  · rw [rest]
    refine Segment.relink_back pieces.1 ?_ ?_
    · exact (AList.lookup_erase_ne different).trans (AList.lookup_insert _)
    · intro other member
      have notItem := apart.notFront other (List.mem_append_left _ member)
      exact (AList.lookup_erase_ne notItem).trans (AList.lookup_insert_ne (notLast other member))
  · rw [rest, ← sameHead]
    exact held.atHead
  · rw [rest, tailOf, last_concat]

/-- The neighbours of an order between two others name each other. -/
def relinked (limits : LimitBook) (ptr : LevelPtr) (front : List Order) (last next : Order)
    (rest : List Order) : LimitBook :=
  (limits.insert next.orderId (limitAt ptr next (headOf rest) (some last.orderId))).insert
    last.orderId
    (limitAt ptr last (some next.orderId) (IntrusiveList.last Order.orderId none front))

theorem lookup_relinked {limits : LimitBook} {ptr : LevelPtr} {last next : Order}
    {rest : List Order} {orderId : OrderId} (notLast : orderId ≠ last.orderId)
    (notNext : orderId ≠ next.orderId) :
    (relinked limits ptr front last next rest).lookup orderId = limits.lookup orderId :=
  (AList.lookup_insert_ne notLast).trans (AList.lookup_insert_ne notNext)

theorem chain_relinked {limits : LimitBook} {ptr : LevelPtr} {last next : Order}
    {rest : List Order}
    (linked : Chain ptr limits none (front ++ [last] ++ order :: next :: rest) none)
    (apart : Apart (front ++ [last]) order (next :: rest)) :
    Chain ptr ((relinked limits ptr front last next rest).erase order.orderId) none
      (front ++ [last] ++ next :: rest) none := by
  have notLast := not_last_of_nodup apart.frontNodup
  have notNext := (List.nodup_cons.mp apart.backNodup).1
  have lastMember : last ∈ front ++ [last] := List.mem_append_right _ List.mem_cons_self
  have lastOrder : last.orderId ≠ order.orderId := apart.notFront last lastMember
  have nextItem : next.orderId ≠ order.orderId := apart.notBack next List.mem_cons_self
  have lastNext : last.orderId ≠ next.orderId :=
    apart.disjoint last lastMember next List.mem_cons_self
  apply Segment.unlink linked
  · intro initial lastItem split
    obtain ⟨sameFront, sameLast⟩ := List.append_inj' split rfl
    cases List.singleton_inj.mp sameLast
    rw [← sameFront]
    constructor
    · exact (AList.lookup_erase_ne lastOrder).trans (AList.lookup_insert _)
    · intro other member
      have notItem := apart.notFront other (List.mem_append_left _ member)
      have notNextId := apart.disjoint other (List.mem_append_left _ member) next
        List.mem_cons_self
      exact (AList.lookup_erase_ne notItem).trans
        (lookup_relinked (notLast other member) notNextId)
  · intro firstItem others split
    cases split
    constructor
    · rw [last_concat]
      exact (AList.lookup_erase_ne nextItem).trans
        ((AList.lookup_insert_ne (Ne.symm lastNext)).trans (AList.lookup_insert _))
    · intro other member
      have notItem := apart.notBack other (List.mem_cons_of_mem _ member)
      have notLastId := (apart.disjoint last lastMember other
        (List.mem_cons_of_mem _ member)).symm
      have notNextId : other.orderId ≠ next.orderId := by
        intro same
        exact notNext (same ▸ List.mem_map_of_mem member)
      exact (AList.lookup_erase_ne notItem).trans (lookup_relinked notLastId notNextId)

theorem unlinkLimit_middle {ptr : LevelPtr} {last next : Order} {rest : List Order}
    (lastNode : book.limitOrders.lookup last.orderId =
      some (limitAt ptr last (some order.orderId)
        (IntrusiveList.last Order.orderId none front)))
    (nextNode : book.limitOrders.lookup next.orderId =
      some (limitAt ptr next (headOf rest) (some order.orderId)))
    (lastNext : last.orderId ≠ next.orderId) :
    book.unlinkLimit (limitAt ptr order (some next.orderId) (some last.orderId)) =
      .ok { book with limitOrders := relinked book.limitOrders ptr front last next rest } := by
  have stepNext : book.limitOrders.modify (some next.orderId)
      (fun next => { next with prevLimit := some last.orderId }) =
      .ok (book.limitOrders.insert next.orderId
        (limitAt ptr next (headOf rest) (some last.orderId))) :=
    LimitBook.modify_of_lookup _ nextNode
  have lastStays : (book.limitOrders.insert next.orderId
      (limitAt ptr next (headOf rest) (some last.orderId))).lookup last.orderId =
      some (limitAt ptr last (some order.orderId)
        (IntrusiveList.last Order.orderId none front)) :=
    (AList.lookup_insert_ne lastNext).trans lastNode
  have stepLast : LimitBook.modify (book.limitOrders.insert next.orderId
        (limitAt ptr next (headOf rest) (some last.orderId)))
      (some last.orderId) (fun prev => { prev with nextLimit := some next.orderId }) =
      .ok (relinked book.limitOrders ptr front last next rest) :=
    LimitBook.modify_of_lookup _ lastStays
  simp only [unlinkLimit, isInMiddleOfLevel, limitAt_nextLimit, limitAt_prevLimit,
    Option.isSome_some, Bool.and_self, if_true, stepNext, ok_bind, stepLast]
  rfl

/-- An order between two others: they name each other. -/
theorem unlink_middle {last next : Order} {rest : List Order}
    (found : (book.levels side).find? price = some level)
    (held : LevelHolds side book.limitOrders price level
      (front ++ [last] ++ order :: next :: rest))
    (distinct : (orderIds (front ++ [last] ++ order :: next :: rest)).Nodup) :
    ∃ unlinked, book.unlinkLimit
        (limitAt { side := side, price := price } order (some next.orderId) (some last.orderId)) =
          .ok unlinked ∧
      Unlinked side price (front ++ [last]) order (next :: rest) book
        { unlinked with limitOrders := unlinked.limitOrders.erase order.orderId } := by
  have apart := @apart_of_nodup order (front ++ [last]) (next :: rest) distinct
  have pieces := (Segment.append_iff (front ++ [last]) (order :: next :: rest)).mp held.linked
  have lastMember : last ∈ front ++ [last] := List.mem_append_right _ List.mem_cons_self
  have lastNext : last.orderId ≠ next.orderId :=
    apart.disjoint last lastMember next List.mem_cons_self
  have steps := unlinkLimit_middle ((Segment.append_iff front [last]).mp pieces.1).2.1
    pieces.2.2.1 lastNext
  refine ⟨_, steps, ?_, ?_, ?_, ?_, ?_⟩
  · intro other otherPrice _away
    rw [levels_limitOrders, levels_limitOrders]
  · intro otherLevel stored
    rw [levels_limitOrders, levels_limitOrders, found] at stored
    cases stored
    have sameHead := headOf_append (List.append_ne_nil_of_right_ne_nil front
      (List.cons_ne_nil last []))
    have sameTail : tailOf (front ++ [last] ++ next :: rest) =
        tailOf (front ++ [last] ++ order :: next :: rest) := by
      rw [tailOf, tailOf, last_append Order.orderId none (front ++ [last]) (next :: rest),
        last_append Order.orderId none (front ++ [last]) (order :: next :: rest)]
      rfl
    refine @LevelHolds.without book side price order (front ++ [last]) (next :: rest) level _ held
      (List.append_ne_nil_of_right_ne_nil _ (List.cons_ne_nil next rest))
      (chain_relinked held.linked apart) _ _ ?_ ?_
    · rw [sameHead, ← sameHead (order :: next :: rest)]
      exact held.atHead
    · rw [sameTail]
      exact held.atTail
  · intro none
    rw [levels_limitOrders, levels_limitOrders, found] at none
    cases none
  · exact AList.lookup_erase _ _
  · intro orderId outside
    have notItem : orderId ≠ order.orderId := by
      intro same
      exact outside (same ▸ by simp [orderIds])
    have notLastId : orderId ≠ last.orderId := by
      intro same
      exact outside (same ▸ by simp [orderIds])
    have notNextId : orderId ≠ next.orderId := by
      intro same
      exact outside (same ▸ by simp [orderIds])
    exact (AList.lookup_erase_ne notItem).trans (lookup_relinked notLastId notNextId)

/-- An order is taken out wherever it stands. -/
theorem unlink_eq {limit : Limit} (found : (book.levels side).find? price = some level)
    (held : LevelHolds side book.limitOrders price level (front ++ order :: back))
    (distinct : (orderIds (front ++ order :: back)).Nodup)
    (stored : book.limitOrders.lookup order.orderId = some limit) :
    ∃ unlinked, book.unlinkLimit limit = .ok unlinked ∧
      Unlinked side price front order back book
        { unlinked with limitOrders := unlinked.limitOrders.erase order.orderId } := by
  have node : book.limitOrders.lookup order.orderId =
      some (limitAt { side := side, price := price } order (headOf back)
        (IntrusiveList.last Order.orderId none front)) :=
    ((Segment.append_iff front (order :: back)).mp held.linked).2.1
  have same : limit = limitAt { side := side, price := price } order (headOf back)
      (IntrusiveList.last Order.orderId none front) := Option.some.inj (stored.symm.trans node)
  subst same
  rcases List.eq_nil_or_concat' front with empty | ⟨initial, last, split⟩
  · subst empty
    cases back with
    | nil => exact unlink_only found held
    | cons next rest => exact unlink_head found held distinct
  · subst split
    rw [last_concat]
    cases back with
    | nil => exact unlink_tail found held distinct
    | cons next rest => exact unlink_middle found held distinct

theorem drop_around (distinct : (orderIds (front ++ order :: back)).Nodup) :
    (front ++ order :: back).filter (fun other => decide (other.orderId ≠ order.orderId)) =
      front ++ back := by
  have apart := apart_of_nodup distinct
  rw [List.filter_append, List.filter_cons_of_neg (by simp)]
  have keepsFront : front.filter (fun other => decide (other.orderId ≠ order.orderId)) = front :=
    List.filter_eq_self.mpr (fun other member => decide_eq_true (apart.notFront other member))
  have keepsBack : back.filter (fun other => decide (other.orderId ≠ order.orderId)) = back :=
    List.filter_eq_self.mpr (fun other member => decide_eq_true (apart.notBack other member))
  rw [keepsFront, keepsBack]

theorem drop_absent {orders : List Order} {orderId : OrderId}
    (absent : orderId ∉ orderIds orders) :
    orders.filter (fun other => decide (other.orderId ≠ orderId)) = orders := by
  apply List.filter_eq_self.mpr
  intro other member
  refine decide_eq_true ?_
  intro same
  exact absent (same ▸ List.mem_map_of_mem member)

/-- Taking out an order that is there drops it from its list. -/
theorem unlink_represents (represents : book.Represents view) {orderId : OrderId} {limit : Limit}
    (stored : book.limitOrders.lookup orderId = some limit) :
    ∃ unlinked, book.unlinkLimit limit = .ok unlinked ∧
      OrderBook.Represents
        { unlinked with limitOrders := unlinked.limitOrders.erase orderId }
        (view.drop orderId) := by
  obtain ⟨side, next, prev, member, sameId, _node⟩ := represents.of_lookup stored
  subst sameId
  obtain ⟨level, found, held⟩ := represents.levelHolds (List.ne_nil_of_mem member)
  obtain ⟨front, back, split⟩ := List.append_of_mem member
  have distinct := represents.distinct side limit.order.price
  rw [split] at held distinct
  obtain ⟨unlinked, returned, result⟩ := unlink_eq found held distinct stored
  have dropped : view.drop limit.order.orderId side limit.order.price = front ++ back := by
    unfold BookView.drop
    rw [split]
    exact drop_around distinct
  have absentElsewhere : ∀ other price, ¬(other = side ∧ price = limit.order.price) →
      limit.order.orderId ∉ orderIds (view other price) := by
    intro other price away inside
    obtain ⟨twin, twinMember, twinSame⟩ := List.mem_map.mp inside
    have place := represents.unique twinMember member twinSame
    exact away ⟨place.1, place.2.1⟩
  refine ⟨unlinked, returned, Represents.change represents side limit.order.price ?_ result.others
    ?_ ?_ ?_ ?_ ?_⟩
  · intro other price away
    exact drop_absent (absentElsewhere other price away)
  · intro other price away orderId inside
    refine result.frame orderId ?_
    intro here
    rw [← split] at here
    obtain ⟨first, firstMember, firstSame⟩ := List.mem_map.mp inside
    obtain ⟨second, secondMember, secondSame⟩ := List.mem_map.mp here
    have place := represents.unique firstMember secondMember (firstSame.trans secondSame.symm)
    exact away ⟨place.1, place.2.1⟩
  · intro otherLevel otherFound
    rw [dropped]
    exact result.level otherLevel otherFound
  · intro none
    rw [dropped]
    exact result.absent none
  · rw [dropped]
    rw [orderIds, List.map_append, List.map_cons] at distinct
    rw [orderIds, List.map_append]
    exact distinct.sublist (List.Sublist.append_left (List.sublist_cons_self _ _) _)
  · intro orderId otherLimit otherStored
    rw [dropped]
    by_cases here : orderId ∈ orderIds (front ++ limit.order :: back)
    · refine Or.inl ?_
      rw [orderIds, List.map_append, List.map_cons, List.mem_append, List.mem_cons] at here
      rw [orderIds, List.map_append, List.mem_append]
      rcases here with early | same | late
      · exact Or.inl early
      · rw [same, result.gone] at otherStored
        cases otherStored
      · exact Or.inr late
    · rw [result.frame orderId here] at otherStored
      obtain ⟨other, price, inside⟩ := represents.resting orderId otherLimit otherStored
      refine Or.inr ⟨other, price, ?_, inside⟩
      rintro ⟨sameSide, samePrice⟩
      rw [sameSide, samePrice, split] at inside
      exact here inside

end Unlinking

/-! ### Changing an order in place -/

section Changing

variable {book : OrderBook} {view : BookView}

theorem replace_around {front back : List Order} {order changed : Order}
    (sameId : changed.orderId = order.orderId)
    (distinct : (orderIds (front ++ order :: back)).Nodup) :
    (front ++ order :: back).map
        (fun other => if other.orderId = changed.orderId then changed else other) =
      front ++ changed :: back := by
  have apart := apart_of_nodup distinct
  have keepsFront : front.map (fun other =>
      if other.orderId = changed.orderId then changed else other) = front := by
    refine (List.map_congr_left (g := id) ?_).trans (List.map_id front)
    intro other member
    exact if_neg (sameId ▸ apart.notFront other member)
  have keepsBack : back.map (fun other =>
      if other.orderId = changed.orderId then changed else other) = back := by
    refine (List.map_congr_left (g := id) ?_).trans (List.map_id back)
    intro other member
    exact if_neg (sameId ▸ apart.notBack other member)
  rw [List.map_append, List.map_cons, keepsFront, keepsBack, if_pos sameId.symm]

theorem replace_absent {orders : List Order} {changed : Order}
    (absent : changed.orderId ∉ orderIds orders) :
    orders.map (fun other => if other.orderId = changed.orderId then changed else other) =
      orders := by
  refine (List.map_congr_left (g := id) ?_).trans (List.map_id orders)
  intro other member
  refine if_neg ?_
  intro same
  exact absent (same ▸ List.mem_map_of_mem member)

/-- An order changed in place keeps its place. -/
theorem rewrite_represents (represents : book.Represents view) {limit : Limit}
    {changed : Order}
    (stored : book.limitOrders.lookup changed.orderId = some limit)
    (samePrice : changed.price = limit.order.price)
    (sameFlag : changed.isBuySide = limit.order.isBuySide) :
    OrderBook.Represents
      { book with
        limitOrders :=
          book.limitOrders.insert changed.orderId { limit with order := changed } }
      (view.replace changed) := by
  obtain ⟨side, next, prev, member, sameId, _node⟩ := represents.of_lookup stored
  obtain ⟨level, found, held⟩ := represents.levelHolds (List.ne_nil_of_mem member)
  obtain ⟨front, back, split⟩ := List.append_of_mem member
  have distinct := represents.distinct side limit.order.price
  rw [split] at held distinct
  have apart := apart_of_nodup distinct
  have pieces := (Segment.append_iff front (limit.order :: back)).mp held.linked
  have node : limit = limitAt { side := side, price := limit.order.price } limit.order
      (headOf back) (IntrusiveList.last Order.orderId none front) := by
    have here : book.limitOrders.lookup limit.order.orderId = _ := pieces.2.1
    rw [sameId, stored] at here
    exact Option.some.inj here
  have replaced : view.replace changed side limit.order.price = front ++ changed :: back := by
    unfold BookView.replace
    rw [split]
    exact replace_around sameId.symm distinct
  have ids : orderIds (front ++ changed :: back) = orderIds (front ++ limit.order :: back) := by
    rw [orderIds, orderIds, List.map_append, List.map_append, List.map_cons, List.map_cons, sameId]
  have absentElsewhere : ∀ other price, ¬(other = side ∧ price = limit.order.price) →
      changed.orderId ∉ orderIds (view other price) := by
    intro other price away inside
    obtain ⟨twin, twinMember, twinSame⟩ := List.mem_map.mp inside
    have place := represents.unique twinMember member (twinSame.trans sameId.symm)
    exact away ⟨place.1, place.2.1⟩
  refine Represents.change represents side limit.order.price ?_ ?_ ?_ ?_ ?_ ?_ ?_
  · intro other price away
    exact replace_absent (absentElsewhere other price away)
  · intro other price _away
    rw [levels_limitOrders]
  · intro other price away orderId inside
    refine AList.lookup_insert_ne ?_
    intro same
    exact absentElsewhere other price away (same ▸ inside)
  · intro otherLevel otherFound
    rw [levels_limitOrders, found] at otherFound
    cases otherFound
    rw [replaced]
    refine
      { occupied := List.append_ne_nil_of_right_ne_nil _ (List.cons_ne_nil _ _)
        atHead := ?_
        atTail := ?_
        priced := held.priced
        flagged := held.flagged
        linked := ?_
        belongs := ?_ }
    · rw [headOf_eq_head?, ids, ← headOf_eq_head?]
      exact held.atHead
    · rw [tailOf_eq_getLast?, ids, ← tailOf_eq_getLast?]
      exact held.atTail
    · refine Segment.rewrite held.linked sameId.symm ?_ ?_ ?_
      · rw [sameId]
        refine (AList.lookup_insert _).trans ?_
        rw [node]
        rfl
      · intro other inside
        exact AList.lookup_insert_ne (sameId ▸ apart.notFront other inside)
      · intro other inside
        exact AList.lookup_insert_ne (sameId ▸ apart.notBack other inside)
    · intro other inside
      rcases List.mem_append.mp inside with early | late
      · exact held.belongs other (List.mem_append_left _ early)
      · rcases List.mem_cons.mp late with here | later
        · obtain ⟨_price, flag⟩ := represents.belongs member
          rw [here, samePrice, sameFlag]
          exact ⟨rfl, flag⟩
        · exact held.belongs other (List.mem_append_right _ (List.mem_cons_of_mem _ later))
  · intro none
    rw [levels_limitOrders, found] at none
    cases none
  · rw [replaced, ids]
    exact distinct
  · intro orderId otherLimit otherStored
    rw [replaced, ids]
    by_cases same : orderId = changed.orderId
    · refine Or.inl ?_
      rw [same, ← sameId, ← split]
      exact List.mem_map_of_mem member
    · have before : book.limitOrders.lookup orderId = some otherLimit :=
        (AList.lookup_insert_ne same).symm.trans otherStored
      obtain ⟨other, price, inside⟩ := represents.resting orderId otherLimit before
      by_cases here : other = side ∧ price = limit.order.price
      · rw [here.1, here.2, split] at inside
        exact Or.inl inside
      · exact Or.inr ⟨other, price, here, inside⟩

end Changing

end OrderBook

end Engine
end SpotExchange
