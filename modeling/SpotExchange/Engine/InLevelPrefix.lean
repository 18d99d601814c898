/-
The in-level loop on a level of the side: it uses up the longest front of the queue that the
incoming order covers, and reduces the order behind it.
-/

import SpotExchange.Engine.Fills

namespace SpotExchange
namespace Engine

open Collections IntrusiveList Allocation Machine

variable {side : BookSide} {ptr : LevelPtr} {price : Price} {items front back : List Order}
  {state after : Matching side}

/-- The loop is entered for a level of the side: the iterator and the reference stand at it,
and its list is linked from its head. -/
structure EntersLevel (ptr : LevelPtr) (price : Price) (items : List Order)
    (state : Matching side) : Prop where
  linked : Chain ptr state.limitbook none items none
  distinct : (orderIds items).Nodup
  atHead : state.bookOrder = headOf items
  shownHead : state.cursor.bookLvl.head = headOf items
  iterator : state.cursor.bookItr = some price
  entry : state.cursor.entry = some price
  stored : state.cursor.book.find? price = some state.cursor.bookLvl

theorem EntersLevel.atQueue (enters : EntersLevel ptr price items state) :
    AtQueue ptr state items where
  linked := enters.linked
  distinct := enters.distinct
  atHead := enters.atHead
  shownHead := enters.shownHead
  consistent :=
    { noted := by
        have live : state.cursor.entry.isNone = false := by
          rw [enters.entry]
          rfl
        unfold LevelCursor.access
        rw [live, Bool.or_false]
      shown := by
        intro other live
        rw [enters.entry] at live
        cases live
        exact enters.stored }

/-- What is left of the queue once the front is used up. -/
def survivors (wanted : Nat) (front back : List Order) : List Order :=
  reduceFirst reduceOrder (wanted - offered orderAmount front) back

/-- The front is gone from the list and the id map, the next order is reduced and first, and
no other limit has changed. -/
structure FrontConsumed (ptr : LevelPtr) (state after : Matching side) (front back : List Order) :
    Prop where
  linked : Chain ptr after.limitbook none
    (survivors (orderAmount state.orderToMatch) front back) none
  removed : ∀ orderId ∈ orderIds front, after.limitbook.lookup orderId = none
  next : ∀ order rest, back = order :: rest → ∃ limit,
    after.limitbook.lookup order.orderId = some limit ∧ limit.prevLimit = none ∧
      limit.nextLimit = headOf rest ∧
      orderAmount limit.order + (orderAmount state.orderToMatch - offered orderAmount front) =
        orderAmount order
  untouched : ∀ orderId, orderId ∉ orderIds front → headOf back ≠ some orderId →
    after.limitbook.lookup orderId = state.limitbook.lookup orderId

/-- The level begins with the first survivor, or is erased where the order was filled and
there is none; no other level has changed. -/
structure LevelFollows (price : Price) (filled : Bool) (remaining : List Order)
    (state after : Matching side) : Prop where
  head : after.cursor.bookLvl.head = headOf remaining
  erased : after.cursor.book.find? price = none ↔ filled = true ∧ remaining = []
  kept : after.cursor.book.find? price = none ∨ after.cursor.book.find? price =
    some (Level.withHead (headOf remaining) state.cursor.bookLvl)
  others : ∀ other, other ≠ price →
    after.cursor.book.find? other = state.cursor.book.find? other
  onlyLive : after.cursor.touchedErased = state.cursor.touchedErased

/-- What the order behind the front gives, if there is one. -/
def reduction (wanted : Nat) (front : List Order) : List Order → Nat
  | [] => 0
  | _ :: _ => wanted - offered orderAmount front

/-- The front and the reduction of the order behind it are what was executed, and the order is
left with what was not. -/
structure IncomingReduced (state after : Matching side) (front back : List Order) : Prop where
  order : ∃ quantity, after.orderToMatch = state.orderToMatch.withQuantity quantity
  executed : ∃ executions, after.executions = state.executions ++ executions ∧
    (executions.map (fun execution => execution.quantity.toNat)).sum =
      offered orderAmount front + reduction (orderAmount state.orderToMatch) front back ∧
    orderAmount after.orderToMatch +
        (executions.map (fun execution => execution.quantity.toNat)).sum =
      orderAmount state.orderToMatch

/-! ### The list -/

theorem reduceOrder_zero (order : Order) : reduceOrder order 0 = order := by
  unfold reduceOrder
  rw [show UInt32.ofNat 0 = 0 from rfl, UInt32.sub_zero]
  rfl

theorem survivors_cons (wanted : Nat) (front : List Order) (order : Order) (rest : List Order) :
    survivors wanted front (order :: rest) =
      reduceOrder order (wanted - offered orderAmount front) :: rest := by
  unfold survivors
  by_cases nothing : wanted - offered orderAmount front = 0
  · rw [nothing, reduceOrder_zero]
    rfl
  · exact if_neg nothing

theorem orderIds_survivors (wanted : Nat) (front back : List Order) :
    orderIds (survivors wanted front back) = orderIds back := by
  cases back with
  | nil => rfl
  | cons order rest =>
      rw [survivors_cons]
      rfl

theorem Traded.frontConsumed {clock : Nat → Int64} {fill : QueueFill Order}
    (enters : EntersLevel ptr price (front ++ back) state)
    (traded : Traded clock ptr state after (front ++ back) fill)
    (cut : LongestFront orderAmount (orderAmount state.orderToMatch) front back)
    (remaining : fill.remaining = survivors (orderAmount state.orderToMatch) front back) :
    FrontConsumed ptr state after front back := by
  have linked := traded.linked
  rw [remaining] at linked
  have distinct := enters.distinct
  rw [orderIds, List.map_append] at distinct
  have apart := (List.nodup_append.mp distinct).2.2
  constructor
  · exact linked
  · intro orderId member
    apply traded.gone
    · rw [orderIds, List.map_append]
      exact List.mem_append_left _ member
    · rw [remaining, orderIds_survivors]
      intro inBack
      exact apart orderId member orderId inBack rfl
  · intro order rest isBack
    subst isBack
    rw [survivors_cons] at linked
    have longest := cut.longest order rest rfl
    have fits := cut.fits
    have covered : orderAmount state.orderToMatch - offered orderAmount front ≤
        orderAmount order := by omega
    refine ⟨_, linked.1, rfl, rfl, ?_⟩
    rw [limitAt_order, reduceOrder_amount covered]
    omega
  · intro orderId notFront notNext
    by_cases inside : orderId ∈ orderIds back
    · cases back with
      | nil => cases inside
      | cons order rest =>
          rw [survivors_cons] at linked
          have later := ((Segment.append_iff front (order :: rest)).mp enters.linked).2.2
          rcases List.mem_cons.mp inside with here | there
          · exact absurd (congrArg some here).symm notNext
          · obtain ⟨item, member, same⟩ := List.mem_map.mp there
            rw [← same]
            exact Segment.look_eq later linked.2 member
    · apply traded.frame
      rw [orderIds, List.map_append]
      intro member
      exact (List.mem_append.mp member).elim notFront inside

/-! ### The level -/

theorem liveCount_eq_length {orders : List Order}
    (positive : ∀ order ∈ orders, 0 < orderAmount order) :
    liveCount orders = orders.length := by
  apply List.countP_eq_length.mpr
  intro order member
  apply decide_eq_true
  intro empty
  exact Nat.lt_irrefl 0 ((amount_eq_zero_iff order).mpr empty ▸ positive order member)

theorem survivors_positive (positive : ∀ item ∈ back, 0 < orderAmount item) {wanted : Nat}
    (cut : LongestFront orderAmount wanted front back) :
    ∀ order ∈ survivors wanted front back, 0 < orderAmount order := by
  cases back with
  | nil =>
      intro order member
      cases member
  | cons first rest =>
      rw [survivors_cons]
      intro order member
      have longest := cut.longest first rest rfl
      have fits := cut.fits
      rcases List.mem_cons.mp member with here | there
      · rw [here, reduceOrder_amount (by omega)]
        omega
      · exact positive order (List.mem_cons_of_mem first there)

theorem find?_write (enters : EntersLevel ptr price items state) (head : Option OrderId)
    (other : Price) :
    (state.cursor.write (Level.withHead head)).book.find? other =
      if other = price then some (Level.withHead head state.cursor.bookLvl)
      else state.cursor.book.find? other := by
  simp only [LevelCursor.write, enters.entry, OrderedMap.find?_update]
  by_cases same : other = price
  · rw [if_pos same, if_pos same, same, enters.stored]
    rfl
  · rw [if_neg same, if_neg same]

theorem touched_write (enters : EntersLevel ptr price items state) (head : Option OrderId) :
    (state.cursor.write (Level.withHead head)).touchedErased = state.cursor.touchedErased := by
  simp only [LevelCursor.write, LevelCursor.access, enters.entry, Option.isNone_some,
    Bool.or_false]

/-- The level is left with a new head. -/
theorem levelFollows_of_write (enters : EntersLevel ptr price items state) {filled : Bool}
    {remaining : List Order} (stays : ¬(filled = true ∧ remaining = []))
    (written : after.cursor = state.cursor.write (Level.withHead (headOf remaining))) :
    LevelFollows price filled remaining state after where
  head := by
    rw [written]
    rfl
  erased := by
    rw [written, find?_write enters, if_pos rfl]
    constructor
    · intro none
      cases none
    · intro gone
      exact absurd gone stays
  kept := by
    rw [written, find?_write enters, if_pos rfl]
    exact Or.inr rfl
  others := by
    intro other different
    rw [written, find?_write enters, if_neg different]
  onlyLive := by
    rw [written, touched_write enters]

theorem levelFollows_of_erase (enters : EntersLevel ptr price items state)
    (written : after.cursor = (state.cursor.write (Level.withHead none)).eraseAtIterator) :
    LevelFollows price true [] state after := by
  have iterator : (state.cursor.write (Level.withHead none)).bookItr = some price :=
    enters.iterator
  have erases : after.cursor.book =
      (state.cursor.write (Level.withHead none)).book.erase price := by
    rw [written]
    simp only [LevelCursor.eraseAtIterator, iterator]
  have gone : after.cursor.book.find? price = none := by
    rw [erases, OrderedMap.find?_erase, if_pos rfl]
  constructor
  · rw [written]
    simp only [LevelCursor.eraseAtIterator, iterator]
    rfl
  · exact iff_of_true gone ⟨rfl, rfl⟩
  · exact Or.inl gone
  · intro other different
    rw [erases, OrderedMap.find?_erase, if_neg different, find?_write enters, if_neg different]
  · rw [written]
    simp only [LevelCursor.eraseAtIterator, iterator]
    exact touched_write enters none

theorem LoopResult.levelFollows {clock : Nat → Int64} {fill : QueueFill Order}
    (enters : EntersLevel ptr price items state)
    (result : LoopResult clock ptr state after items fill)
    (used : fill.left ≠ 0 → fill.remaining = [])
    (positive : ∀ order ∈ fill.remaining, 0 < orderAmount order)
    (few : fill.remaining.length < 65536) :
    LevelFollows price (decide (fill.left = 0)) fill.remaining state after := by
  by_cases filled : fill.left = 0
  · have closed := (result.closed filled).1
    rw [decide_eq_true filled]
    have counted : liveCount fill.remaining % 65536 = 0 ↔ fill.remaining = [] := by
      rw [liveCount_eq_length positive, Nat.mod_eq_of_lt few, List.length_eq_zero_iff]
    unfold closeLevel at closed
    by_cases none : fill.remaining = []
    · rw [if_pos (counted.mpr none), none] at closed
      rw [none]
      exact levelFollows_of_erase enters closed
    · rw [if_neg (fun empty => none (counted.mp empty))] at closed
      exact levelFollows_of_write enters (fun gone => none gone.2) closed
  · rw [decide_eq_false filled, used filled]
    apply levelFollows_of_write enters
    · intro gone
      cases gone.1
    · exact (result.passed filled).1

/-! ### The order -/

theorem sum_executions (incoming : OrderId) {taken : List (Order × Nat)}
    (small : ∀ entry ∈ taken, entry.2 ≤ orderAmount entry.1) :
    ((taken.map (executionOf incoming)).map (fun execution => execution.quantity.toNat)).sum =
      total taken := by
  unfold total
  rw [List.map_map]
  congr 1
  apply List.map_congr_left
  intro entry member
  have bound : entry.2 < UInt32.size :=
    Nat.lt_of_le_of_lt (small entry member) entry.1.currentQuantity.toNat_lt
  exact UInt32.toNat_ofNat_of_lt' bound

/-- What is taken comes from the front and from the order behind it. -/
theorem total_of_longestFront {order : Order}
    (cut : LongestFront orderAmount (orderAmount order) front back) :
    total (fillOrders order (front ++ back)).taken =
      offered orderAmount front + reduction (orderAmount order) front back := by
  have conserves : total (fillOrders order (front ++ back)).taken +
      (fillOrders order (front ++ back)).left = orderAmount order :=
    fillQueue_conserves (orderAmount order) (front ++ back)
  have fits := cut.fits
  cases back with
  | nil =>
      rw [List.append_nil] at conserves ⊢
      change _ = offered orderAmount front + 0
      by_cases filled : (fillOrders order front).left = 0
      · have enough := offered_of_filled filled
        omega
      · have all := (fillQueue_short filled).2.2
        rw [fillOrders, all, total, List.map_map]
        rfl
  | cons next rest =>
      change _ = offered orderAmount front + (orderAmount order - offered orderAmount front)
      have more := cut.longest next rest rfl
      have enough : orderAmount order ≤ offered orderAmount (front ++ next :: rest) := by
        simp only [offered, List.map_append, List.map_cons, List.sum_append,
          List.sum_cons] at more ⊢
        omega
      have filled : (fillOrders order (front ++ next :: rest)).left = 0 := fillQueue_covers enough
      omega

theorem Traded.incomingReduced {clock : Nat → Int64}
    (cut : LongestFront orderAmount (orderAmount state.orderToMatch) front back)
    (traded : Traded clock ptr state after (front ++ back)
      (fillOrders state.orderToMatch (front ++ back))) :
    IncomingReduced state after front back := by
  have conserves : total (fillOrders state.orderToMatch (front ++ back)).taken +
      (fillOrders state.orderToMatch (front ++ back)).left = orderAmount state.orderToMatch :=
    fillQueue_conserves (orderAmount state.orderToMatch) (front ++ back)
  have small : (fillOrders state.orderToMatch (front ++ back)).left < UInt32.size := by
    have bound := state.orderToMatch.currentQuantity.toNat_lt
    unfold orderAmount at conserves
    exact Nat.lt_of_le_of_lt (by omega) bound
  refine ⟨⟨_, traded.order⟩, _, traded.executed, ?_⟩
  have left : orderAmount after.orderToMatch =
      (fillOrders state.orderToMatch (front ++ back)).left := by
    rw [traded.order]
    exact UInt32.toNat_ofNat_of_lt' small
  have parts : ∀ entry ∈ (fillOrders state.orderToMatch (front ++ back)).taken,
      entry.2 ≤ orderAmount entry.1 := fillQueue_taken_le _ (front ++ back)
  rw [sum_executions _ parts, left]
  refine ⟨total_of_longestFront cut, ?_⟩
  omega

/-! ### The loop -/

/-- On a level of fewer than 65536 orders, each with a quantity left, the loop returns and
tells whether the level offers what the incoming order wants. The longest front of the queue
that the order covers is used up and the next order gives what is still wanted. -/
theorem inLevel_consumes_front (clock : Nat → Int64) (enters : EntersLevel ptr price items state)
    (positive : ∀ item ∈ items, 0 < orderAmount item) (few : items.length < 65536)
    (wanted : 0 < orderAmount state.orderToMatch) :
    ∃ after front back,
      FifoMatcher.orderFullyMatchedInLevel clock state.limitbook.size state =
          .ok (decide (orderAmount state.orderToMatch ≤ offered orderAmount items), after) ∧
        items = front ++ back ∧
        LongestFront orderAmount (orderAmount state.orderToMatch) front back ∧
        FrontConsumed ptr state after front back ∧
        LevelFollows price
          (decide (orderAmount state.orderToMatch ≤ offered orderAmount items))
          (survivors (orderAmount state.orderToMatch) front back) state after ∧
        IncomingReduced state after front back := by
  obtain ⟨after, returned, result⟩ := @orderFullyMatchedInLevel_spec side clock ptr items state
    state.limitbook.size enters.atQueue (enters.linked.length_le enters.distinct)
    (Or.inr (Nat.ne_of_gt wanted))
  obtain ⟨front, back, split, cut, remaining⟩ :=
    @fillQueue_longestFront _ orderAmount reduceOrder _ items positive wanted
  have fills : (fillOrders state.orderToMatch items).left = 0 ↔
      orderAmount state.orderToMatch ≤ offered orderAmount items :=
    ⟨offered_of_filled, fillQueue_covers⟩
  have remains : (fillOrders state.orderToMatch items).remaining =
      survivors (orderAmount state.orderToMatch) front back := remaining
  have length : (survivors (orderAmount state.orderToMatch) front back).length < 65536 := by
    have same := congrArg List.length
      (orderIds_survivors (orderAmount state.orderToMatch) front back)
    have all := congrArg List.length split
    simp only [orderIds, List.length_map, List.length_append] at same all
    omega
  have positiveBack : ∀ item ∈ back, 0 < orderAmount item :=
    fun item member => positive item (split ▸ List.mem_append_right front member)
  have level := result.levelFollows enters (fun short => (fillQueue_short short).2.1)
    (remains ▸ survivors_positive positiveBack cut) (remains ▸ length)
  rw [remains] at level
  simp only [fills] at returned level
  subst split
  exact ⟨after, front, back, returned, rfl, cut, result.traded.frontConsumed enters cut remains,
    level, result.traded.incomingReduced cut⟩

/-- Five at 100 under order 1 and five behind them under order 4. -/
def twoSells : List Order := [sampleSell 5, { sampleSell 5 with orderId := 4 }]

def twoSellsState : Matching .asks :=
  FifoMatcher.initial (sampleBuy 7)
    { entries := [(100, { head := some 1, tail := some 4, isBuySide := 0, price := 100 })]
      ordered := List.pairwise_singleton _ _ }
    (((∅ : LimitBook).insert 1
        (limitAt { side := .asks, price := 100 } (sampleSell 5) (some 4) none)).insert
      4 (limitAt { side := .asks, price := 100 } { sampleSell 5 with orderId := 4 } none (some 1)))
    100 { head := some 1, tail := some 4, isBuySide := 0, price := 100 }

theorem twoSells_entered :
    EntersLevel { side := .asks, price := 100 } 100 twoSells twoSellsState where
  linked := ⟨by decide, by decide, trivial⟩
  distinct := by decide
  atHead := rfl
  shownHead := rfl
  iterator := rfl
  entry := rfl
  stored := by decide

theorem inLevel_consumes_front_twoSells :
    ∃ after front back,
      FifoMatcher.orderFullyMatchedInLevel (fun _ => 0) twoSellsState.limitbook.size
          twoSellsState = .ok (true, after) ∧
        twoSells = front ++ back ∧ LongestFront orderAmount 7 front back ∧
        FrontConsumed { side := .asks, price := 100 } twoSellsState after front back ∧
        LevelFollows 100 true (survivors 7 front back) twoSellsState after ∧
        IncomingReduced twoSellsState after front back :=
  inLevel_consumes_front (fun _ => 0) twoSells_entered (by decide) (by decide) (by decide)

end Engine
end SpotExchange
