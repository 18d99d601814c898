/-
The in-level loop allocates the incoming order to the queue of one level.
-/

import SpotExchange.Allocation.Queue
import SpotExchange.Engine.Chain

namespace SpotExchange
namespace Engine

open Collections IntrusiveList Allocation Machine

/-! ### The level reference -/

namespace LevelCursor

variable {side : BookSide}

/-- The reference shows what the map holds while the entry lives, and a use of
dead storage has been noted. -/
structure Consistent (cursor : LevelCursor side) : Prop where
  noted : cursor.access = cursor
  shown : ∀ price, cursor.entry = some price → cursor.book.find? price = some cursor.bookLvl

theorem write_access (cursor : LevelCursor side) (change : Level → Level) :
    (cursor.write change).access = cursor.write change := by
  simp [write, access]

theorem write_withHead_withHead (cursor : LevelCursor side) (first second : Option OrderId) :
    (cursor.write (Level.withHead first)).write (Level.withHead second) =
      cursor.write (Level.withHead second) := by
  obtain ⟨book, bookItr, bookLvl, entry, touchedErased, readEnd⟩ := cursor
  cases entry with
  | none => simp [write, access, Level.withHead]
  | some price =>
      simp only [write, access, OrderedMap.update_update, Option.isNone_some, Bool.or_false]
      rfl

theorem write_withHead_self {cursor : LevelCursor side} (consistent : cursor.Consistent)
    {head : Option OrderId} (atHead : cursor.bookLvl.head = head) :
    cursor.write (Level.withHead head) = cursor := by
  have same : Level.withHead head cursor.bookLvl = cursor.bookLvl := by
    rw [← atHead]
    rfl
  obtain ⟨book, bookItr, bookLvl, entry, touchedErased, readEnd⟩ := cursor
  have noted := consistent.noted
  cases entry with
  | none =>
      simp only [access, Option.isNone_none, Bool.or_true, mk.injEq] at noted
      simp only [write, access, Option.isNone_none, Bool.or_true, mk.injEq, true_and]
      exact ⟨same, noted.2.2.2.2.1, trivial⟩
  | some price =>
      have unchanged := OrderedMap.update_eq_self (consistent.shown price rfl) same
      simp only [write, access, Option.isNone_some, Bool.or_false, unchanged, same]

theorem Consistent.write {cursor : LevelCursor side} (consistent : cursor.Consistent)
    (change : Level → Level) : (cursor.write change).Consistent where
  noted := write_access cursor change
  shown := by
    intro price live
    have live' : cursor.entry = some price := live
    have stored := consistent.shown price live'
    simp only [LevelCursor.write, live', OrderedMap.find?_update, if_true, stored]
    rfl

end LevelCursor

/-! ### What is reported -/

/-- The match result after an order has traded the given parts. -/
def report (clock : Nat → Int64) : MatchResult → Order → List (Order × Nat) → MatchResult
  | result, _, [] => result
  | result, order, (item, part) :: rest =>
      report clock
        (FifoMatcher.addFills result (clock result.fills.length) (reduceOrder order part)
          (reduceOrder item part) (UInt32.ofNat part))
        (reduceOrder order part) rest

def executionOf (incoming : OrderId) (entry : Order × Nat) : Execution :=
  { restingId := entry.1.orderId
    incomingId := incoming
    price := entry.1.price
    quantity := UInt32.ofNat entry.2 }

theorem report_append (clock : Nat → Int64) (result : MatchResult) (order : Order)
    (front back : List (Order × Nat)) :
    report clock result order (front ++ back) =
      report clock (report clock result order front)
        (front.foldl (fun order entry => reduceOrder order entry.2) order) back := by
  induction front generalizing result order with
  | nil => rfl
  | cons entry rest ih => exact ih _ _

/-! ### One trade -/

section Trade

variable {side : BookSide} {clock : Nat → Int64} {ptr : LevelPtr}

/-- The state after the order at the head has traded `part`. -/
def tradedState (clock : Nat → Int64) (ptr : LevelPtr) (state : Matching side) (item : Order)
    (next prev : Option OrderId) (part : Nat) : Matching side :=
  { state with
    orderToMatch := reduceOrder state.orderToMatch part
    limitbook := state.limitbook.insert item.orderId (limitAt ptr (reduceOrder item part) next prev)
    matchResult := report clock state.matchResult state.orderToMatch [(item, part)]
    executions := state.executions ++ [executionOf state.orderToMatch.orderId (item, part)] }

theorem min_quantity_le_left (left right : UInt32) : min left right ≤ left := by
  by_cases below : left ≤ right
  · rw [show min left right = left from if_pos below]
    exact UInt32.le_refl left
  · rw [show min left right = right from if_neg below]
    exact UInt32.le_of_lt (UInt32.not_le.mp below)

theorem min_quantity_le_right (left right : UInt32) : min left right ≤ right := by
  by_cases below : left ≤ right
  · rw [show min left right = left from if_pos below]
    exact below
  · rw [show min left right = right from if_neg below]
    exact UInt32.le_refl right

theorem ofNat_min (left right : UInt32) :
    UInt32.ofNat (min left.toNat right.toNat) = min left right := by
  by_cases below : left ≤ right
  · rw [show min left right = left from if_pos below,
      Nat.min_eq_left (UInt32.le_iff_toNat_le.mp below), UInt32.ofNat_toNat]
  · have above := UInt32.le_iff_toNat_le.mp (UInt32.le_of_lt (UInt32.not_le.mp below))
    rw [show min left right = right from if_neg below, Nat.min_eq_right above,
      UInt32.ofNat_toNat]

theorem tradeWithBookOrder_eq {state : Matching side} {item : Order} {next prev : Option OrderId}
    (atItem : state.bookOrder = some item.orderId)
    (present : state.limitbook.lookup item.orderId = some (limitAt ptr item next prev)) :
    FifoMatcher.tradeWithBookOrder clock state =
      .ok (tradedState clock ptr state item next prev
        (min (orderAmount item) (orderAmount state.orderToMatch))) := by
  have quantity : UInt32.ofNat (min (orderAmount item) (orderAmount state.orderToMatch)) =
      min item.currentQuantity state.orderToMatch.currentQuantity := ofNat_min _ _
  have coveredResting : min item.currentQuantity state.orderToMatch.currentQuantity ≤
      item.currentQuantity := min_quantity_le_left _ _
  have coveredIncoming : min item.currentQuantity state.orderToMatch.currentQuantity ≤
      state.orderToMatch.currentQuantity := min_quantity_le_right _ _
  unfold FifoMatcher.tradeWithBookOrder
  rw [atItem, LimitBook.read_of_lookup present]
  simp only [ok_bind, limitAt_order]
  rw [Order.decreaseQty_of_le coveredIncoming]
  simp only [ok_bind]
  rw [Order.decreaseQty_of_le coveredResting]
  simp only [ok_bind]
  rw [LimitBook.modify_of_lookup _ present]
  simp only [ok_bind, tradedState, report, executionOf, reduceOrder, quantity]
  rw [← atItem]
  rfl

end Trade

/-! ### One removal -/

section Removal

variable {side : BookSide} {ptr : LevelPtr}

/-- The head of a chain is removed: the rest is a chain, and no other limit has
changed. -/
structure HeadRemoved (ptr : LevelPtr) (before after : LimitBook) (item : Order)
    (rest : List Order) : Prop where
  linked : Chain ptr after none rest none
  gone : after.lookup item.orderId = none
  frame : ∀ orderId, orderId ≠ item.orderId → orderId ∉ orderIds rest →
    after.lookup orderId = before.lookup orderId

theorem removeOrderFromBook_eq {state : Matching side} {item : Order} {rest : List Order}
    {prev : Option OrderId} (atItem : state.bookOrder = some item.orderId)
    (linked : Chain ptr state.limitbook prev (item :: rest) none)
    (distinct : (orderIds (item :: rest)).Nodup) :
    ∃ limits, FifoMatcher.removeOrderFromBook state =
        .ok { state with
          cursor := state.cursor.write (Level.withHead (headOf rest))
          bookOrder := headOf rest
          limitbook := limits } ∧
      HeadRemoved ptr state.limitbook limits item rest := by
  have fresh := List.nodup_cons.mp distinct
  have present : state.limitbook.lookup item.orderId =
      some (limitAt ptr item (headOf rest) prev) := linked.1
  unfold FifoMatcher.removeOrderFromBook
  rw [atItem, LimitBook.read_of_lookup present]
  simp only [ok_bind, limitAt_nextLimit, limitAt_order]
  cases rest with
  | nil =>
      refine ⟨state.limitbook.erase item.orderId, rfl, trivial, ?_, ?_⟩
      · exact AList.lookup_erase item.orderId state.limitbook
      · intro orderId different _absent
        exact AList.lookup_erase_ne different
  | cons next others =>
      have nextPresent : state.limitbook.lookup next.orderId =
          some (limitAt ptr next (headOf others) (some item.orderId)) := linked.2.1
      have different : next.orderId ≠ item.orderId := by
        intro same
        exact fresh.1 (same ▸ List.mem_cons_self)
      have freshNext := List.nodup_cons.mp fresh.2
      simp only [headOf, first_cons]
      rw [LimitBook.modify_of_lookup _ nextPresent]
      refine ⟨(state.limitbook.insert next.orderId
        (limitAt ptr next (headOf others) none)).erase item.orderId, rfl, ?_, ?_, ?_⟩
      · refine Segment.relink_front linked.2 rfl ?_ ?_
        · rw [LimitBook.lookup_erase_if, if_neg different]
          exact AList.lookup_insert state.limitbook
        · intro other member
          have inside : other.orderId ∈ orderIds others := List.mem_map_of_mem member
          have notItem : other.orderId ≠ item.orderId := by
            intro same
            exact fresh.1 (same ▸ List.mem_cons_of_mem _ inside)
          have notNext : other.orderId ≠ next.orderId := by
            intro same
            exact freshNext.1 (same ▸ inside)
          rw [LimitBook.lookup_erase_if, if_neg notItem, LimitBook.lookup_insert_if, if_neg notNext]
      · rw [LimitBook.lookup_erase_if, if_pos rfl]
      · intro orderId notItem absent
        have notNext : orderId ≠ next.orderId := by
          intro same
          exact absent (same ▸ List.mem_cons_self)
        rw [LimitBook.lookup_erase_if, if_neg notItem, LimitBook.lookup_insert_if, if_neg notNext]

end Removal

/-! ### The loop -/

section Loop

variable {side : BookSide} {clock : Nat → Int64} {ptr : LevelPtr}

/-- The allocation of an order to a queue of orders. -/
def fillOrders (order : Order) (items : List Order) : QueueFill Order :=
  fillQueue orderAmount reduceOrder (orderAmount order) items

/-- What a pass over a queue leaves, apart from the level cursor: the order has
traded with the items taken, the queue left behind is linked, the items used up
are gone and no other limit has changed. -/
structure Traded (clock : Nat → Int64) (ptr : LevelPtr) (state after : Matching side)
    (items : List Order) (fill : QueueFill Order) : Prop where
  order : after.orderToMatch = state.orderToMatch.withQuantity (UInt32.ofNat fill.left)
  linked : Chain ptr after.limitbook none fill.remaining none
  gone : ∀ orderId ∈ orderIds items, orderId ∉ orderIds fill.remaining →
    after.limitbook.lookup orderId = none
  frame : ∀ orderId, orderId ∉ orderIds items →
    after.limitbook.lookup orderId = state.limitbook.lookup orderId
  reported : after.matchResult.fills =
    (report clock state.matchResult state.orderToMatch fill.taken).fills
  executed : after.executions =
    state.executions ++ fill.taken.map (executionOf state.orderToMatch.orderId)

/-- A head that traded and was removed comes before what the rest of the queue did. -/
theorem Traded.cons {state next after : Matching side} {item : Order} {rest : List Order}
    {part : Nat} {fill : QueueFill Order}
    (absent : item.orderId ∉ orderIds rest)
    (order : next.orderToMatch = reduceOrder state.orderToMatch part)
    (result : next.matchResult =
      report clock state.matchResult state.orderToMatch [(item, part)])
    (executions : next.executions =
      state.executions ++ [executionOf state.orderToMatch.orderId (item, part)])
    (gone : next.limitbook.lookup item.orderId = none)
    (frame : ∀ orderId, orderId ∉ orderIds (item :: rest) →
      next.limitbook.lookup orderId = state.limitbook.lookup orderId)
    (later : Traded clock ptr next after rest fill) :
    Traded clock ptr state after (item :: rest)
      { taken := (item, part) :: fill.taken
        left := fill.left
        remaining := fill.remaining } where
  order := by
    rw [later.order, order]
    rfl
  linked := later.linked
  gone := by
    intro orderId member removed
    rcases List.mem_cons.mp member with here | there
    · have same : orderId = item.orderId := here
      rw [same, later.frame item.orderId absent, gone]
    · exact later.gone orderId there removed
  frame := by
    intro orderId outside
    rw [later.frame orderId (fun member => outside (List.mem_cons_of_mem _ member)),
      frame orderId outside]
  reported := by
    rw [later.reported, order, result]
    rfl
  executed := by
    rw [later.executed, executions, order, List.append_assoc]
    rfl

/-- The level is erased when the order count reads zero. -/
def closeLevel (cursor : LevelCursor side) (remaining : List Order) : LevelCursor side :=
  if liveCount remaining % 65536 = 0 then cursor.eraseAtIterator else cursor

/-- A state in which the in-level loop stands at the head of a well-formed queue. -/
structure AtQueue (ptr : LevelPtr) (state : Matching side) (items : List Order) : Prop where
  linked : Chain ptr state.limitbook none items none
  distinct : (orderIds items).Nodup
  atHead : state.bookOrder = headOf items
  shownHead : state.cursor.bookLvl.head = headOf items
  consistent : state.cursor.Consistent

/-- A trade changes the head in place. -/
theorem AtQueue.trade (clock : Nat → Int64) {state : Matching side} {item : Order}
    {rest : List Order} (standing : AtQueue ptr state (item :: rest)) (part : Nat) :
    AtQueue ptr (tradedState clock ptr state item (headOf rest) none part)
      (reduceOrder item part :: rest) where
  linked := by
    have fresh := List.nodup_cons.mp standing.distinct
    refine Segment.relink_front standing.linked rfl ?_ ?_
    · exact AList.lookup_insert state.limitbook
    · intro other member
      refine AList.lookup_insert_ne ?_
      intro same
      exact fresh.1 (same ▸ List.mem_map_of_mem member)
  distinct := standing.distinct
  atHead := standing.atHead
  shownHead := standing.shownHead
  consistent := standing.consistent

/-- A removal leaves the loop at the head of the rest. -/
theorem AtQueue.remove {state : Matching side} {item : Order} {rest : List Order}
    (standing : AtQueue ptr state (item :: rest)) :
    ∃ limits, FifoMatcher.removeOrderFromBook state =
        .ok { state with
          cursor := state.cursor.write (Level.withHead (headOf rest))
          bookOrder := headOf rest
          limitbook := limits } ∧
      HeadRemoved ptr state.limitbook limits item rest ∧
      AtQueue ptr
        { state with
          cursor := state.cursor.write (Level.withHead (headOf rest))
          bookOrder := headOf rest
          limitbook := limits } rest := by
  obtain ⟨limits, removed, rested⟩ :=
    removeOrderFromBook_eq standing.atHead standing.linked standing.distinct
  refine ⟨limits, removed, rested, rested.linked, (List.nodup_cons.mp standing.distinct).2, rfl,
    rfl, standing.consistent.write _⟩

/-- What the loop does once the order is filled: a head that is used up is removed
and the level is closed over what remains. -/
theorem finishInLevel_eq {state : Matching side} {item : Order} {rest : List Order}
    (standing : AtQueue ptr state (item :: rest)) :
    ∃ after remaining, FifoMatcher.finishInLevel state = .ok after ∧
      remaining = (if item.currentQuantity = 0 then rest else item :: rest) ∧
      after.orderToMatch = state.orderToMatch ∧
      after.matchResult = state.matchResult.setOrderFilled ∧
      after.executions = state.executions ∧
      after.cursor = closeLevel (state.cursor.write (Level.withHead (headOf remaining))) remaining ∧
      Chain ptr after.limitbook none remaining none ∧
      (item.currentQuantity = 0 → after.limitbook.lookup item.orderId = none) ∧
      ∀ orderId, orderId ∉ orderIds (item :: rest) →
        after.limitbook.lookup orderId = state.limitbook.lookup orderId := by
  have present : state.limitbook.lookup item.orderId =
      some (limitAt ptr item (headOf rest) none) := standing.linked.1
  have atItem : state.bookOrder = some item.orderId := standing.atHead
  unfold FifoMatcher.finishInLevel
  rw [atItem, LimitBook.read_of_lookup present]
  simp only [ok_bind]
  by_cases empty : item.currentQuantity = 0
  · have zero : ((limitAt ptr item (headOf rest) none).order.currentQuantity == 0) = true :=
      beq_iff_eq.mpr empty
    obtain ⟨limits, removed, rested, standingRest⟩ := standing.remove
    have counted := getLevelOrderCount_chain standingRest.linked standingRest.distinct
      standingRest.shownHead
    rw [if_pos zero, removed]
    simp only [ok_bind]
    rw [counted]
    refine ⟨_, rest, rfl, (if_pos empty).symm, rfl, rfl, rfl, ?_, rested.linked,
      fun _ => rested.gone, ?_⟩
    · simp only [closeLevel, ofNat_beq_zero, decide_eq_true_eq, LevelCursor.write_access]
    · intro orderId absent
      exact rested.frame orderId (fun same => absent (same ▸ List.mem_cons_self))
        (fun member => absent (List.mem_cons_of_mem _ member))
  · have counted := getLevelOrderCount_chain standing.linked standing.distinct standing.shownHead
    have notZero : ¬((limitAt ptr item (headOf rest) none).order.currentQuantity == 0) = true :=
      fun zero => empty (beq_iff_eq.mp zero)
    rw [if_neg notZero, counted]
    refine ⟨_, item :: rest, rfl, (if_neg empty).symm, rfl, rfl, rfl, ?_, standing.linked,
      fun zero => absurd zero empty, fun _ _ => rfl⟩
    simp only [closeLevel, ofNat_beq_zero, decide_eq_true_eq,
      LevelCursor.write_withHead_self standing.consistent standing.shownHead,
      standing.consistent.noted]

theorem amount_eq_zero_iff (order : Order) : orderAmount order = 0 ↔ order.currentQuantity = 0 := by
  constructor
  · intro zero
    exact UInt32.toNat_inj.mp zero
  · intro zero
    rw [orderAmount, zero]
    rfl

theorem orderIsFullyMatched_iff (order : Order) :
    FifoMatcher.orderIsFullyMatched order = true ↔ orderAmount order = 0 := by
  rw [amount_eq_zero_iff, FifoMatcher.orderIsFullyMatched, beq_iff_eq]

theorem reduceOrder_eq_withQuantity {order : Order} {part : Nat}
    (covered : part ≤ orderAmount order) :
    reduceOrder order part = order.withQuantity (UInt32.ofNat (orderAmount order - part)) := by
  unfold reduceOrder
  congr 1
  apply UInt32.toNat_inj.mp
  rw [toNat_sub_ofNat covered, UInt32.toNat_ofNat_of_lt']
  · rfl
  · exact Nat.lt_of_le_of_lt (Nat.sub_le _ _) order.currentQuantity.toNat_lt

/-- One pass of the loop: a trade at the head, then the end of the level or the
removal of the head. -/
theorem orderFullyMatchedInLevel_cons {state next : Matching side} {item : Order}
    {rest : List Order} (standing : AtQueue ptr state (item :: rest)) (fuel : Nat)
    (trades : next = tradedState clock ptr state item (headOf rest) none
      (min (orderAmount item) (orderAmount state.orderToMatch))) :
    FifoMatcher.orderFullyMatchedInLevel clock (fuel + 1) state =
      if FifoMatcher.orderIsFullyMatched next.orderToMatch = true then
        FifoMatcher.finishInLevel next >>= fun finished => .ok (true, finished)
      else
        FifoMatcher.removeOrderFromBook next >>=
          FifoMatcher.orderFullyMatchedInLevel clock fuel := by
  have present : state.limitbook.lookup item.orderId =
      some (limitAt ptr item (headOf rest) none) := standing.linked.1
  have loops : FifoMatcher.ordersInLevel state.bookOrder = true := by
    rw [standing.atHead]
    rfl
  rw [FifoMatcher.orderFullyMatchedInLevel, if_pos loops,
    tradeWithBookOrder_eq standing.atHead present, ← trades]
  rfl

/-- What the loop does to a state whose queue is `items`. -/
structure LoopResult (clock : Nat → Int64) (ptr : LevelPtr) (state after : Matching side)
    (items : List Order) (fill : QueueFill Order) : Prop where
  traded : Traded clock ptr state after items fill
  passed : fill.left ≠ 0 →
    after.cursor = state.cursor.write (Level.withHead none) ∧
      after.matchResult.orderFilled = state.matchResult.orderFilled
  closed : fill.left = 0 →
    after.cursor = closeLevel (state.cursor.write (Level.withHead (headOf fill.remaining)))
        fill.remaining ∧
      after.matchResult.orderFilled = true

theorem LoopResult.cons {state : Matching side} {item : Order} {rest : List Order} {part : Nat}
    {after : Matching side} {limits : LimitBook} {fill : QueueFill Order}
    (standing : AtQueue ptr state (item :: rest))
    (rested : HeadRemoved ptr
      (tradedState clock ptr state item (headOf rest) none part).limitbook limits
      (reduceOrder item part) rest)
    (later : LoopResult clock ptr
      { tradedState clock ptr state item (headOf rest) none part with
        cursor := state.cursor.write (Level.withHead (headOf rest))
        bookOrder := headOf rest
        limitbook := limits } after rest fill) :
    LoopResult clock ptr state after (item :: rest)
      { taken := (item, part) :: fill.taken
        left := fill.left
        remaining := fill.remaining } where
  traded := by
    have gone : limits.lookup item.orderId = none := rested.gone
    refine Traded.cons (List.nodup_cons.mp standing.distinct).1 rfl rfl rfl gone ?_
      later.traded
    intro orderId outside
    have notItem : orderId ≠ item.orderId := fun same => outside (same ▸ List.mem_cons_self)
    refine (rested.frame orderId notItem
      (fun member => outside (List.mem_cons_of_mem _ member))).trans ?_
    exact AList.lookup_insert_ne notItem
  passed := by
    intro left
    obtain ⟨cursor, flag⟩ := later.passed left
    refine ⟨?_, flag⟩
    rw [cursor]
    exact LevelCursor.write_withHead_withHead state.cursor _ _
  closed := by
    intro filled
    obtain ⟨cursor, flag⟩ := later.closed filled
    refine ⟨?_, flag⟩
    rw [cursor, LevelCursor.write_withHead_withHead]

/-- The last pass: the head covers what is wanted. -/
theorem finish_covered {state : Matching side} {item : Order} {rest : List Order}
    (standing : AtQueue ptr state (item :: rest))
    (covered : orderAmount state.orderToMatch ≤ orderAmount item) :
    ∃ after, FifoMatcher.finishInLevel
        (tradedState clock ptr state item (headOf rest) none (orderAmount state.orderToMatch)) =
          .ok after ∧
      LoopResult clock ptr state after (item :: rest)
        (fillOrders state.orderToMatch (item :: rest)) := by
  have exactly : (reduceOrder item (orderAmount state.orderToMatch)).currentQuantity = 0 ↔
      orderAmount item = orderAmount state.orderToMatch := by
    rw [← amount_eq_zero_iff, reduceOrder_amount covered]
    omega
  have result : fillOrders state.orderToMatch (item :: rest) =
      { taken := [(item, orderAmount state.orderToMatch)]
        left := 0
        remaining :=
          if (reduceOrder item (orderAmount state.orderToMatch)).currentQuantity = 0 then rest
          else reduceOrder item (orderAmount state.orderToMatch) :: rest } := by
    unfold fillOrders
    rw [fillQueue_covered rest covered]
    simp only [exactly]
  obtain ⟨after, remaining, finished, kept, order, matchResult, executions, cursor, linked, gone,
    frame⟩ := finishInLevel_eq (standing.trade clock (orderAmount state.orderToMatch))
  refine ⟨after, finished, ?_⟩
  rw [result, ← kept]
  refine ⟨⟨?_, linked, ?_, ?_, ?_, ?_⟩, fun left => absurd rfl left, fun _ => ⟨cursor, ?_⟩⟩
  · have nothingLeft := reduceOrder_eq_withQuantity (Nat.le_refl (orderAmount state.orderToMatch))
    rw [Nat.sub_self] at nothingLeft
    rw [order]
    exact nothingLeft
  · intro orderId member removed
    rcases List.mem_cons.mp member with here | there
    · by_cases zero : (reduceOrder item (orderAmount state.orderToMatch)).currentQuantity = 0
      · have same : orderId = item.orderId := here
        rw [same]
        exact gone zero
      · rw [kept, if_neg zero] at removed
        exact absurd (here ▸ List.mem_cons_self) removed
    · refine absurd ?_ removed
      rw [kept]
      split
      · exact there
      · exact List.mem_cons_of_mem _ there
  · intro orderId outside
    rw [frame orderId outside]
    exact AList.lookup_insert_ne (fun same => outside (same ▸ List.mem_cons_self))
  · rw [matchResult]
    rfl
  · rw [executions]
    rfl
  · rw [matchResult]
    rfl

/-- The in-level loop returns; it trades as the allocation says, and it says
whether the order was filled. A filled order closes the level over what remains;
otherwise the level has lost its head. -/
theorem orderFullyMatchedInLevel_spec {items : List Order} {state : Matching side} {fuel : Nat}
    (standing : AtQueue ptr state items) (enough : items.length ≤ fuel)
    (occupied : items ≠ [] ∨ orderAmount state.orderToMatch ≠ 0) :
    ∃ after, FifoMatcher.orderFullyMatchedInLevel clock fuel state =
        .ok (decide ((fillOrders state.orderToMatch items).left = 0), after) ∧
      LoopResult clock ptr state after items (fillOrders state.orderToMatch items) := by
  induction items generalizing state fuel with
  | nil =>
      have wanted : orderAmount state.orderToMatch ≠ 0 := occupied.resolve_left (fun h => h rfl)
      have left : (fillOrders state.orderToMatch []).left = orderAmount state.orderToMatch := rfl
      have noHead : state.bookOrder = none := standing.atHead
      have notFilled : decide ((fillOrders state.orderToMatch []).left = 0) = false :=
        decide_eq_false wanted
      refine ⟨state, ?_, ⟨?_, trivial, ?_, fun _ _ => rfl, rfl, ?_⟩, ?_, ?_⟩
      · rw [notFilled]
        cases fuel <;>
          simp [FifoMatcher.orderFullyMatchedInLevel, FifoMatcher.ordersInLevel, noHead]
      · rw [left, orderAmount, UInt32.ofNat_toNat]
        rfl
      · intro orderId member
        cases member
      · simp [fillOrders, fillQueue]
      · intro _left
        exact ⟨(LevelCursor.write_withHead_self standing.consistent standing.shownHead).symm, rfl⟩
      · intro zero
        exact absurd zero wanted
  | cons item rest ih =>
      cases fuel with
      | zero => exact absurd enough (Nat.not_succ_le_zero rest.length)
      | succ fuel =>
          rw [orderFullyMatchedInLevel_cons standing fuel rfl]
          rcases Nat.lt_or_ge (orderAmount item) (orderAmount state.orderToMatch) with short | covered
          · rw [Nat.min_eq_left (Nat.le_of_lt short)]
            have reduced := reduceOrder_amount (Nat.le_of_lt short)
            have more : orderAmount
                (tradedState clock ptr state item (headOf rest) none
                  (orderAmount item)).orderToMatch ≠ 0 := by
              change orderAmount (reduceOrder state.orderToMatch (orderAmount item)) ≠ 0
              omega
            rw [if_neg (fun matched => more ((orderIsFullyMatched_iff _).mp matched))]
            have result : fillOrders state.orderToMatch (item :: rest) =
                { taken := (item, orderAmount item) ::
                    (fillOrders (reduceOrder state.orderToMatch (orderAmount item)) rest).taken
                  left := (fillOrders (reduceOrder state.orderToMatch (orderAmount item)) rest).left
                  remaining :=
                    (fillOrders (reduceOrder state.orderToMatch (orderAmount item))
                      rest).remaining } := by
              unfold fillOrders
              rw [fillQueue_usedUp rest short, reduced]
            obtain ⟨limits, removed, rested, standingRest⟩ :=
              (standing.trade clock (orderAmount item)).remove
            obtain ⟨after, run, later⟩ :=
              ih standingRest (Nat.le_of_succ_le_succ enough) (Or.inr more)
            rw [removed, result]
            exact ⟨after, run, LoopResult.cons standing rested later⟩
          · rw [Nat.min_eq_right covered]
            have reduced := reduceOrder_amount (Nat.le_refl (orderAmount state.orderToMatch))
            have matched : FifoMatcher.orderIsFullyMatched
                (tradedState clock ptr state item (headOf rest) none
                  (orderAmount state.orderToMatch)).orderToMatch = true := by
              refine (orderIsFullyMatched_iff _).mpr ?_
              change orderAmount (reduceOrder state.orderToMatch (orderAmount state.orderToMatch)) = 0
              omega
            have filled : (fillOrders state.orderToMatch (item :: rest)).left = 0 := by
              unfold fillOrders
              rw [fillQueue_covered rest covered]
            obtain ⟨after, finished, later⟩ := finish_covered standing covered
            rw [if_pos matched, finished, decide_eq_true filled]
            exact ⟨after, rfl, later⟩

end Loop

end Engine
end SpotExchange
