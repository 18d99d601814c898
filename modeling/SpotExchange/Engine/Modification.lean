/-
What a modify leaves of the order that it names. A change of price takes the order out
and submits a new one, whether or not that one stops cleanly. A change of quantity at
the same price leaves the quantity that was asked for, but for increases.
-/

import SpotExchange.Engine.Arrivals

namespace SpotExchange
namespace Engine

open Collections Allocation Machine Wire

/-! ### Orders that are submitted -/

/-- An order that does not stop cleanly has nothing left. -/
theorem sweep_of_unclean {acceptable : Price → Bool} {best : Bool} {wanted : Nat}
    {queues : Queues} (unclean : stopsCleanly acceptable best wanted queues = false) :
    (sweep orderAmount reduceOrder acceptable wanted queues).left = 0 ∧
      (sweep orderAmount reduceOrder acceptable wanted queues).filled = true := by
  induction queues generalizing best wanted with
  | nil => cases unclean
  | cons queue rest ih =>
      obtain ⟨price, items⟩ := queue
      cases accepted : acceptable price with
      | false => simp [stopsCleanly, accepted] at unclean
      | true =>
          simp only [stopsCleanly, accepted, if_true] at unclean
          by_cases short : offered orderAmount items < wanted
          · have passed : (fillQueue orderAmount reduceOrder wanted items).left ≠ 0 :=
              fun stopped => (fillOrders_stops_iff wanted items).mp stopped short
            rw [if_pos short, ← fillOrders_left wanted items short] at unclean
            rw [sweep_passed rest accepted passed]
            exact ih unclean
          · have stopped := (fillOrders_stops_iff wanted items).mpr short
            rw [sweep_stopped rest accepted stopped]
            exact ⟨rfl, rfl⟩

namespace OrderBook

variable {book : OrderBook} {clock : Nat → Int64} {side : BookSide} {order : Order}

/-- What submitting an order to a well-formed book does, whether or not the order stops
cleanly: it trades as price-time priority says, and is placed and announced unless it
is filled. -/
structure Submitted (clock : Nat → Int64) (book : OrderBook) (side : BookSide) (order : Order)
    (swept : SweepResult Price Order) (left : Order) (result : CallResult) : Prop where
  residual : left = order.withQuantity (UInt32.ofNat swept.left)
  executions : result.executions = swept.taken.map (executionOf order.orderId)
  emitted : result.emitted =
    communicateMatchResults
        { fills := fillsFrom clock 0 order swept.taken
          orderFilled := swept.filled } left ++
      if swept.filled then []
      else [sendOrderAddedToDispatcher clock (fillsFrom clock 0 order swept.taken).length left]
  used : swept.filled = true → left.currentQuantity = 0 ∧
    result.book.limitOrders.lookup order.orderId = none
  unfilled : swept.filled = false → (left.currentQuantity = 0 → order.currentQuantity = 0) ∧
    result.book.Represents (BookView.arrived book.queueAt side order swept)

theorem WellFormed.fresh_ids (wellFormed : book.WellFormed) {orderId : OrderId}
    (fresh : book.limitOrders.lookup orderId = none) (side : BookSide) (price : Price) :
    orderId ∉ orderIds (book.queueAt side price) := by
  intro member
  obtain ⟨order, resting, same⟩ := List.mem_map.mp member
  obtain ⟨next, prev, found⟩ := wellFormed.lookup resting
  rw [same, fresh] at found
  cases found

theorem amount_zero_of_left {swept : SweepResult Price Order} {left : Order}
    (residual : left = order.withQuantity (UInt32.ofNat swept.left)) (used : swept.left = 0) :
    left.currentQuantity = 0 := by
  rw [residual, used]
  rfl

theorem Arrived.submitted {left : Order} {result : CallResult} (wellFormed : book.WellFormed)
    (fresh : book.limitOrders.lookup order.orderId = none)
    (arrives : Arrived clock book side order
      (sweepOrders side.opposite order (book.queuesOf side.opposite)) left result) :
    Submitted clock book side order
      (sweepOrders side.opposite order (book.queuesOf side.opposite)) left result where
  residual := arrives.residual
  executions := arrives.executions
  emitted := arrives.emitted
  used := by
    intro filled
    refine ⟨amount_zero_of_left arrives.residual (sweep_left_of_filled filled), ?_⟩
    have represents := arrives.represents
    rw [BookView.arrived, if_pos filled] at represents
    by_contra present
    obtain ⟨limit, found⟩ := Option.ne_none_iff_exists'.mp present
    obtain ⟨other, price, member⟩ := represents.resting order.orderId limit found
    exact wellFormed.fresh_ids fresh other price
      ((swept_ids_sublist wellFormed side.opposite order other price).mem member)
  unfilled := by
    intro notFilled
    refine ⟨?_, arrives.represents⟩
    intro zero
    by_contra wanted
    have positive : 0 < orderAmount order := by
      apply Nat.pos_of_ne_zero
      intro none
      exact wanted ((amount_eq_zero_iff order).mp none)
    have nothing : orderAmount left = 0 := (amount_eq_zero_iff left).mpr zero
    have conserved : total (sweepOrders side.opposite order (book.queuesOf side.opposite)).taken +
        (sweepOrders side.opposite order (book.queuesOf side.opposite)).left = orderAmount order :=
      sweep_conserves (orderAmount order) (book.queuesOf side.opposite)
    rw [arrives.residual, withQuantity_ofNat_amount order (by omega)] at nothing
    have filled : (sweepOrders side.opposite order (book.queuesOf side.opposite)).filled = true :=
      (sweep_filled_iff positive (book.queuesOf side.opposite)).mpr nothing
    rw [notFilled] at filled
    cases filled

/-- An order that does not stop cleanly is filled, and the book is left as matching
leaves it. -/
theorem addOrderTo_unclean (wellFormed : book.WellFormed)
    (fresh : book.limitOrders.lookup order.orderId = none)
    (unclean : cleanSweep side.opposite order (book.queuesOf side.opposite) = false) :
    ∃ left result, addOrderTo clock book order side.opposite side = .ok (left, result) ∧
      Submitted clock book side order
        (sweepOrders side.opposite order (book.queuesOf side.opposite)) left result := by
  obtain ⟨used, filled⟩ : (sweepOrders side.opposite order (book.queuesOf side.opposite)).left = 0 ∧
      (sweepOrders side.opposite order (book.queuesOf side.opposite)).filled = true :=
    sweep_of_unclean unclean
  have possible : possibleMatches side.opposite (book.levels side.opposite) order = true := by
    by_contra impossible
    have clean := cleanSweep_unreached (Bool.eq_false_iff.mpr impossible)
    rw [unclean] at clean
    cases clean
  obtain ⟨outcome, returned, matched⟩ :=
    @fifoMatch_spec side.opposite clock order (book.levels side.opposite) book.limitOrders
      (book.queuesOf side.opposite) (wellFormed.entries_eq side.opposite)
      (wellFormed.ids_nodup side.opposite)
  have nothing : outcome.order.currentQuantity = 0 := amount_zero_of_left matched.residual used
  have outside : order.orderId ∉ allIds (book.queuesOf side.opposite) := by
    intro member
    obtain ⟨price, inside⟩ := wellFormed.mem_allIds_queuesOf.mp member
    exact wellFormed.fresh_ids fresh side.opposite price inside
  have fills : outcome.matchResult =
      { fills := fillsFrom clock 0 order
          (sweepOrders side.opposite order (book.queuesOf side.opposite)).taken
        orderFilled :=
          (sweepOrders side.opposite order (book.queuesOf side.opposite)).filled } := by
    rw [← matched.fills_eq, ← matched.filled]
  refine ⟨outcome.order,
    { book := { book.setLevels side.opposite outcome.book with limitOrders := outcome.limitbook }
      executions := outcome.executions
      emitted := communicateMatchResults outcome.matchResult outcome.order }, ?_, ?_⟩
  · unfold addOrderTo
    rw [if_pos possible, returned]
    simp only [ok_bind]
    rw [if_pos (beq_iff_eq.mpr nothing)]
    rfl
  · refine ⟨matched.residual, matched.executed, ?_, ?_, ?_⟩
    · rw [fills, if_pos filled, List.append_nil]
    · intro _filled
      exact ⟨nothing, (matched.frame order.orderId outside).trans fresh⟩
    · intro notFilled
      rw [filled] at notFilled
      cases notFilled

/-- Submitting an order with a fresh id and a side to a well-formed book. -/
theorem addOrder_submits (clock : Nat → Int64) (wellFormed : book.WellFormed)
    (fresh : book.limitOrders.lookup order.orderId = none)
    (flagged : order.isBuySide = side.flag) :
    ∃ left result, addOrder clock book order = .ok (left, result) ∧
      Submitted clock book side order
        (sweepOrders side.opposite order (book.queuesOf side.opposite)) left result := by
  cases clean : cleanSweep side.opposite order (book.queuesOf side.opposite) with
  | true =>
      obtain ⟨left, result, returned, arrives⟩ :=
        @addOrder_arrives book clock wellFormed side order fresh flagged clean
      exact ⟨left, result, returned, arrives.submitted wellFormed fresh⟩
  | false =>
      rw [addOrder_routed fresh flagged]
      exact addOrderTo_unclean wellFormed fresh clean

/-! ### A change of price -/

/-- The order is taken out, and an order with its id, owner and side is submitted: it
trades first, and what is left of it is placed at the end of its level and announced. -/
structure Repriced (clock : Nat → Int64) (book : OrderBook) (changes : Info.ModifyOrder)
    (side : BookSide) (without : OrderBook) (left : Order) (added result : CallResult) :
    Prop where
  flagged : changes.isBuySide = side.flag
  removed : without.Represents (BookView.drop book.queueAt changes.orderId)
  submitted : addOrder (fun reading => clock (reading + 1)) without (Order.ofModify changes) =
    .ok (left, added)
  sameBook : result.book = added.book
  executions : result.executions =
    (sweepOrders side.opposite (Order.ofModify changes) (without.queuesOf side.opposite)).taken.map
      (executionOf changes.orderId)
  rests : left.currentQuantity ≠ 0 →
    result.book.queueAt side changes.price = without.queueAt side changes.price ++ [left]
  gone : left.currentQuantity = 0 → result.book.limitOrders.lookup changes.orderId = none
  announced : ∃ fills reading, result.emitted =
    sendOrderCancelledToDispatcher clock 0 (Info.CancelOrder.ofModify changes) ::
      (communicateMatchResults fills left ++
        if left.currentQuantity = 0 then []
        else [sendOrderAddedToDispatcher (fun reading => clock (reading + 1)) reading left])

/-- What is left of a submitted order is at the end of its level. -/
theorem arrived_tail (book : OrderBook) (side : BookSide) (order : Order)
    {swept : SweepResult Price Order} (notFilled : swept.filled = false) :
    BookView.arrived book.queueAt side order swept side order.price =
      book.queueAt side order.price ++ [order.withQuantity (UInt32.ofNat swept.left)] := by
  have other : side ≠ side.opposite := fun same => side.opposite_ne same.symm
  have unswept : BookView.swept book.queueAt side.opposite swept.levels side order.price =
      book.queueAt side order.price := if_neg other
  rw [BookView.arrived, notFilled, if_neg Bool.false_ne_true, BookView.append, unswept]
  exact if_pos ⟨rfl, rfl⟩

theorem Submitted.repriced {changes : Info.ModifyOrder} {without : OrderBook} {left : Order}
    {added : CallResult}
    (submitted : Submitted (fun reading => clock (reading + 1)) without side
      (Order.ofModify changes)
      (sweepOrders side.opposite (Order.ofModify changes) (without.queuesOf side.opposite)) left
      added)
    (flagged : changes.isBuySide = side.flag)
    (removed : without.Represents (BookView.drop book.queueAt changes.orderId))
    (wanted : changes.quantity ≠ 0)
    (adds : addOrder (fun reading => clock (reading + 1)) without (Order.ofModify changes) =
      .ok (left, added)) :
    Repriced clock book changes side without left added
      { added with
        emitted :=
          [sendOrderCancelledToDispatcher clock 0 (Info.CancelOrder.ofModify changes)] ++
            added.emitted } := by
  cases filled : (sweepOrders side.opposite (Order.ofModify changes)
      (without.queuesOf side.opposite)).filled with
  | true =>
      obtain ⟨nothing, gone⟩ := submitted.used filled
      have announced := submitted.emitted
      rw [if_pos filled] at announced
      exact
        { flagged := flagged
          removed := removed
          submitted := adds
          sameBook := rfl
          executions := submitted.executions
          rests := fun more => absurd nothing more
          gone := fun _ => gone
          announced := ⟨_, 0, by rw [if_pos nothing, announced]; rfl⟩ }
  | false =>
      obtain ⟨zero, represents⟩ := submitted.unfilled filled
      have more : left.currentQuantity ≠ 0 := fun nothing => wanted (zero nothing)
      have announced := submitted.emitted
      rw [if_neg (by rw [filled]; exact Bool.false_ne_true)] at announced
      have tail := arrived_tail without side (Order.ofModify changes) filled
      rw [← submitted.residual, ← represents.queueAt_eq] at tail
      exact
        { flagged := flagged
          removed := removed
          submitted := adds
          sameBook := rfl
          executions := submitted.executions
          rests := fun _ => tail
          gone := fun nothing => absurd nothing more
          announced := ⟨_, _, by rw [if_neg more, announced]; rfl⟩ }

/-- Whatever the order is submitted against, a change of price does as asked. -/
theorem modifyOrder_reprices (clock : Nat → Int64) (wellFormed : book.WellFormed)
    {changes : Info.ModifyOrder} {limit : Limit}
    (found : book.limitOrders.lookup changes.orderId = some limit)
    (owner : limit.order.userId = changes.userId)
    (sameSide : limit.order.isBuySide = changes.isBuySide) (wanted : changes.quantity ≠ 0)
    (newPrice : changes.price ≠ limit.order.price) :
    ∃ result, modifyOrder clock book changes = .ok result ∧
      ∃ side without left added, Repriced clock book changes side without left added result := by
  obtain ⟨side, flag, _member, _sameId⟩ := wellFormed.flag_of_lookup found
  have flagged : changes.isBuySide = side.flag := sameSide.symm.trans flag
  have resting : book.limitOrders.lookup (Info.CancelOrder.ofModify changes).orderId = some limit :=
    found
  obtain ⟨without, cancels, represents, fresh⟩ := cancelOrder_drops wellFormed clock resting owner
  obtain ⟨left, added, adds, submitted⟩ :=
    @addOrder_submits without side (Order.ofModify changes) (fun reading => clock (reading + 1))
      represents.wellFormed fresh flagged
  have notTrivial : modifyOrderTrivial changes limit.order = false := by
    simp [modifyOrderTrivial, newPrice]
  refine ⟨{ added with
      emitted :=
        [sendOrderCancelledToDispatcher clock 0 (Info.CancelOrder.ofModify changes)] ++
          added.emitted }, ?_, side, without, left, added, ?_⟩
  · unfold modifyOrder
    rw [found]
    simp only [owner, sameSide, notTrivial, bne_self_eq_false, Bool.or_self, Bool.false_eq_true,
      if_false]
    rw [if_neg newPrice, cancels]
    simp only [ok_bind]
    rw [adds]
    rfl
  · exact submitted.repriced flagged represents wanted adds

/-- Every call on a well-formed book returns. -/
theorem call_returns (wellFormed : book.WellFormed) (request : Request) :
    ∃ result, book.call request = .ok result := by
  have submits : ∀ (without : OrderBook) (clock : Nat → Int64) (order : Order),
      without.WellFormed → ∃ added, addOrder clock without order = .ok added := by
    intro without clock order withoutFormed
    cases present : without.limitOrders.lookup order.orderId with
    | some limit =>
        refine ⟨_, if_pos ?_⟩
        rw [present]
        rfl
    | none =>
        by_cases sided : order.isBuySide = 1 ∨ order.isBuySide = 0
        · obtain ⟨side, flagged⟩ := flag_eq sided
          obtain ⟨left, result, returned, _submitted⟩ :=
            addOrder_submits clock withoutFormed present flagged
          exact ⟨_, returned⟩
        · unfold addOrder
          rw [if_neg (by rw [present]; exact Bool.false_ne_true),
            if_neg (fun one => sided (Or.inl one)), if_neg (fun zero => sided (Or.inr zero))]
          exact ⟨_, rfl⟩
  cases request with
  | add clock order =>
      obtain ⟨added, returned⟩ := submits book clock order wellFormed
      simp only [call, returned]
      exact ⟨_, rfl⟩
  | cancel clock cancel =>
      obtain ⟨result, returned, _effect⟩ := cancelOrder_effect wellFormed clock cancel
      exact ⟨result, returned⟩
  | modify clock changes =>
      simp only [call, modifyOrder]
      cases found : book.limitOrders.lookup changes.orderId with
      | none => exact ⟨_, rfl⟩
      | some limit =>
          simp only
          split
          · exact ⟨_, rfl⟩
          · rename_i passes
            split
            · obtain ⟨quantity, changing⟩ := modifyInPlace_eq changes limit.order
              rw [changing]
              exact ⟨_, rfl⟩
            · have owner : limit.order.userId = changes.userId := by
                simp only [Bool.or_eq_true, bne_iff_ne, not_or, not_not] at passes
                exact passes.1.2
              have resting : book.limitOrders.lookup
                  (Info.CancelOrder.ofModify changes).orderId = some limit := found
              obtain ⟨without, cancels, represents, _fresh⟩ :=
                cancelOrder_drops wellFormed clock resting owner
              obtain ⟨added, adds⟩ := submits without (fun reading => clock (reading + 1))
                (Order.ofModify changes) represents.wellFormed
              rw [cancels]
              simp only [ok_bind]
              rw [adds]
              exact ⟨_, rfl⟩

/-! ### A change of quantity -/

/-- The order keeps its place and has the quantity that was asked for; nothing else has
changed, and what is announced is what rests. -/
structure ChangedInPlace (book : OrderBook) (changes : Info.ModifyOrder) (limit : Limit)
    (result : CallResult) : Prop where
  levels : ∀ side, result.book.levels side = book.levels side
  lists : result.book.Represents
    (BookView.replace book.queueAt (limit.order.withQuantity changes.quantity))
  executions : result.executions = []
  announced : ∃ changed, result.book.limitOrders.lookup changes.orderId = some changed ∧
    changed.order = limit.order.withQuantity changes.quantity ∧
    result.emitted =
      [.marketData (.mod
        { timestamp := 0
          orderId := changes.orderId
          quantity := changed.order.currentQuantity })]

def DoesAsAsked (clock : Nat → Int64) (book : OrderBook) (changes : Info.ModifyOrder)
    (limit : Limit) (result : CallResult) : Prop :=
  if changes.price = limit.order.price then ChangedInPlace book changes limit result
  else ∃ side without left added, Repriced clock book changes side without left added result

theorem increase_eq_iff (asked current : UInt32) :
    current + (asked + current) = asked ↔ current + current = 0 := by
  rw [← UInt32.toNat_inj, ← UInt32.toNat_inj, UInt32.toNat_add, UInt32.toNat_add,
    UInt32.toNat_add, UInt32.toNat_zero]
  have bound := asked.toNat_lt
  constructor
  · intro same
    omega
  · intro wraps
    omega

/-- A change at the same price leaves the quantity that was asked for when it is no
increase, or when twice the quantity that rests is zero at 32 bits. -/
theorem modifyInPlace_exact_iff (changes : Info.ModifyOrder) (order : Order) :
    modifyInPlace changes order = .ok (order.withQuantity changes.quantity) ↔
      changes.quantity ≤ order.currentQuantity ∨
        order.currentQuantity + order.currentQuantity = 0 := by
  unfold modifyInPlace
  by_cases more : order.currentQuantity < changes.quantity
  · rw [if_pos more, Order.increaseQty]
    have notLess : ¬changes.quantity ≤ order.currentQuantity := UInt32.not_le.mpr more
    constructor
    · intro same
      have quantities := congrArg Order.currentQuantity (Except.ok.inj same)
      exact Or.inr ((increase_eq_iff _ _).mp quantities)
    · intro cases
      rw [(increase_eq_iff _ _).mpr (cases.resolve_left notLess)]
  · have below : changes.quantity ≤ order.currentQuantity := UInt32.not_lt.mp more
    have covered : order.currentQuantity - changes.quantity ≤ order.currentQuantity := by
      rw [UInt32.le_iff_toNat_le, UInt32.toNat_sub_of_le _ _ below]
      omega
    have exactly : order.currentQuantity - (order.currentQuantity - changes.quantity) =
        changes.quantity := by
      apply UInt32.toNat_inj.mp
      have smaller := UInt32.le_iff_toNat_le.mp below
      rw [UInt32.toNat_sub_of_le _ _ covered, UInt32.toNat_sub_of_le _ _ below]
      omega
    rw [if_neg more, Order.decreaseQty_of_le covered, exactly]
    exact ⟨fun _ => Or.inl below, fun _ => rfl⟩

theorem modifyOrder_in_place (clock : Nat → Int64) {changes : Info.ModifyOrder} {limit : Limit}
    {changed : Order} (found : book.limitOrders.lookup changes.orderId = some limit)
    (owner : limit.order.userId = changes.userId)
    (sameSide : limit.order.isBuySide = changes.isBuySide)
    (different : changes.quantity ≠ limit.order.currentQuantity)
    (samePrice : changes.price = limit.order.price)
    (changing : modifyInPlace changes limit.order = .ok changed) :
    modifyOrder clock book changes =
      .ok { book :=
              { book with
                limitOrders :=
                  book.limitOrders.insert changes.orderId { limit with order := changed } }
            executions := []
            emitted := [sendOrderModifiedToDispatcher changes] } := by
  have notTrivial : modifyOrderTrivial changes limit.order = false := by
    simp [modifyOrderTrivial, different]
  unfold modifyOrder
  rw [found]
  simp only [owner, sameSide, notTrivial, bne_self_eq_false, Bool.or_self, Bool.false_eq_true,
    if_false]
  rw [if_pos samePrice, changing]
  rfl

theorem changedInPlace_iff (clock : Nat → Int64) (wellFormed : book.WellFormed)
    {changes : Info.ModifyOrder} {limit : Limit}
    (found : book.limitOrders.lookup changes.orderId = some limit)
    (owner : limit.order.userId = changes.userId)
    (sameSide : limit.order.isBuySide = changes.isBuySide)
    (different : changes.quantity ≠ limit.order.currentQuantity)
    (samePrice : changes.price = limit.order.price) :
    (∃ result, modifyOrder clock book changes = .ok result ∧
        ChangedInPlace book changes limit result) ↔
      changes.quantity ≤ limit.order.currentQuantity ∨
        limit.order.currentQuantity + limit.order.currentQuantity = 0 := by
  obtain ⟨quantity, changing⟩ := modifyInPlace_eq changes limit.order
  have returned := modifyOrder_in_place clock found owner sameSide different samePrice changing
  rw [← modifyInPlace_exact_iff, changing]
  constructor
  · rintro ⟨result, otherReturned, asAsked⟩
    rw [returned] at otherReturned
    cases otherReturned
    obtain ⟨changed, stored, same, _emitted⟩ := asAsked.announced
    have written : (book.limitOrders.insert changes.orderId
        { limit with order := limit.order.withQuantity quantity }).lookup changes.orderId =
          some changed := stored
    rw [AList.lookup_insert] at written
    rw [← same, ← Option.some.inj written]
  · intro exactly
    have quantities : limit.order.withQuantity quantity =
        limit.order.withQuantity changes.quantity := Except.ok.inj exactly
    obtain ⟨_side, _flagged, _member, sameId⟩ := wellFormed.flag_of_lookup found
    have stored : book.limitOrders.lookup
        (limit.order.withQuantity changes.quantity).orderId = some limit := by
      rw [Order.withQuantity_orderId, sameId]
      exact found
    have represents := @rewrite_represents book book.queueAt wellFormed limit
      (limit.order.withQuantity changes.quantity) stored rfl rfl
    rw [Order.withQuantity_orderId, sameId] at represents
    rw [quantities] at returned
    refine ⟨_, returned, fun side => levels_limitOrders book _ side, represents, rfl,
      ⟨{ limit with order := limit.order.withQuantity changes.quantity }, ?_, rfl, rfl⟩⟩
    exact AList.lookup_insert _

/-- A modify by the owner that changes something does as asked exactly when it changes
the price, or the quantity not upwards, or when twice the quantity that rests is zero at
32 bits. -/
theorem modifyOrder_does_as_asked_iff (clock : Nat → Int64) (book : OrderBook)
    (changes : Info.ModifyOrder) (limit : Limit) (wellFormed : book.WellFormed)
    (found : book.limitOrders.lookup changes.orderId = some limit)
    (owner : limit.order.userId = changes.userId)
    (sameSide : limit.order.isBuySide = changes.isBuySide) (wanted : changes.quantity ≠ 0)
    (different : changes.price ≠ limit.order.price ∨
      changes.quantity ≠ limit.order.currentQuantity) :
    (∃ result, modifyOrder clock book changes = .ok result ∧
        DoesAsAsked clock book changes limit result) ↔
      changes.price ≠ limit.order.price ∨ changes.quantity ≤ limit.order.currentQuantity ∨
        limit.order.currentQuantity + limit.order.currentQuantity = 0 := by
  unfold DoesAsAsked
  by_cases samePrice : changes.price = limit.order.price
  · have changedQuantity := different.resolve_left (not_not.mpr samePrice)
    simp only [if_pos samePrice]
    rw [changedInPlace_iff clock wellFormed found owner sameSide changedQuantity samePrice]
    constructor
    · intro exactly
      exact Or.inr exactly
    · intro cases
      exact cases.resolve_left (not_not.mpr samePrice)
  · simp only [if_neg samePrice]
    constructor
    · intro _asked
      exact Or.inl samePrice
    · intro _cases
      exact modifyOrder_reprices clock wellFormed found owner sameSide wanted samePrice

def soloModify (quantity : UInt32) : Info.ModifyOrder :=
  { orderId := 1
    userId := 1
    ticker := 1
    price := 100
    connection := 1
    quantity := quantity
    isBuySide := 0 }

/-- A modify of an order in the second of two levels. -/
def laterModify (orderId : OrderId) (price : Price) (quantity : UInt32) : Info.ModifyOrder :=
  { soloModify quantity with
    orderId := orderId
    price := price }

/-- The first order of a level is reduced to three, and the last one moves to the level of a third
one. -/
theorem modifyOrder_twoLevels :
    (∃ result, modifyOrder (fun _ => 0) (oneSided .asks twoLevelBook twoLevelLimits)
        (laterModify 4 101 3) = .ok result ∧
      DoesAsAsked (fun _ => 0) (oneSided .asks twoLevelBook twoLevelLimits) (laterModify 4 101 3)
        (limitAt { side := .asks, price := 101 } (laterSell 4 101) (some 5) none) result) ∧
      ∃ result, modifyOrder (fun _ => 0) (oneSided .asks twoLevelBook twoLevelLimits)
        (laterModify 5 100 9) = .ok result ∧
      DoesAsAsked (fun _ => 0) (oneSided .asks twoLevelBook twoLevelLimits) (laterModify 5 100 9)
        (limitAt { side := .asks, price := 101 } (laterSell 5 101) none (some 4)) result :=
  ⟨(modifyOrder_does_as_asked_iff (fun _ => 0) (oneSided .asks twoLevelBook twoLevelLimits)
      (laterModify 4 101 3)
      (limitAt { side := .asks, price := 101 } (laterSell 4 101) (some 5) none)
      twoLevels_wellFormed (by decide) rfl rfl (by decide) (by decide)).mpr (by decide),
    (modifyOrder_does_as_asked_iff (fun _ => 0) (oneSided .asks twoLevelBook twoLevelLimits)
      (laterModify 5 100 9)
      (limitAt { side := .asks, price := 101 } (laterSell 5 101) none (some 4))
      twoLevels_wellFormed (by decide) rfl rfl (by decide) (by decide)).mpr (by decide)⟩

/-- Seven are to become ten, and become twenty-four. -/
theorem increase_to_ten_leaves_more :
    (oneSided .asks (soloBook .asks (sampleSell 7)) (soloLimits .asks (sampleSell 7))).WellFormed ∧
      ¬∃ result, modifyOrder (fun _ => 0)
          (oneSided .asks (soloBook .asks (sampleSell 7)) (soloLimits .asks (sampleSell 7)))
          (soloModify 10) = .ok result ∧
        DoesAsAsked (fun _ => 0)
          (oneSided .asks (soloBook .asks (sampleSell 7)) (soloLimits .asks (sampleSell 7)))
          (soloModify 10) (limitAt { side := .asks, price := 100 } (sampleSell 7) none none)
          result := by
  refine ⟨solo_wellFormed .asks (sampleSell 7) rfl, ?_⟩
  rintro ⟨result, returned, asAsked⟩
  have inPlace : ChangedInPlace
      (oneSided .asks (soloBook .asks (sampleSell 7)) (soloLimits .asks (sampleSell 7)))
      (soloModify 10) (limitAt { side := .asks, price := 100 } (sampleSell 7) none none)
      result := asAsked
  obtain ⟨changed, stored, same, _emitted⟩ := inPlace.announced
  have evaluated : (modifyOrder (fun _ => 0)
      (oneSided .asks (soloBook .asks (sampleSell 7)) (soloLimits .asks (sampleSell 7)))
      (soloModify 10)).toOption.map (fun result =>
        (result.book.limitOrders.lookup 1).map (fun limit => limit.order.currentQuantity)) =
          some (some 24) := by decide +kernel
  rw [returned] at evaluated
  have left : (result.book.limitOrders.lookup 1).map (fun limit => limit.order.currentQuantity) =
      some 24 := Option.some.inj evaluated
  have there : result.book.limitOrders.lookup 1 = some changed := stored
  rw [there] at left
  have quantity : changed.order.currentQuantity = 24 := Option.some.inj left
  rw [same] at quantity
  exact absurd quantity (by decide)

end OrderBook

end Engine
end SpotExchange
