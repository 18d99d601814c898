/-
The outer loop sweeps the levels of one side. The levels and their lists are
described by queues: a price and the orders of its list, best price first.
-/

import SpotExchange.Allocation.Sweep
import SpotExchange.Engine.InLevel

namespace SpotExchange
namespace Engine

open Collections IntrusiveList Allocation Machine

abbrev Queues := List (Price × List Order)

/-! ### Levels that hold their lists -/

/-- A level of a side and the list that hangs from it. -/
structure LevelHolds (side : BookSide) (limits : LimitBook) (price : Price) (level : Level)
    (orders : List Order) : Prop where
  occupied : orders ≠ []
  atHead : level.head = headOf orders
  atTail : level.tail = tailOf orders
  priced : level.price = price
  flagged : level.isBuySide = side.flag
  linked : Chain { side := side, price := price } limits none orders none
  belongs : ∀ order ∈ orders, order.price = price ∧ order.isBuySide = side.flag

/-- The entries of a price map hold the given queues. -/
def Holds (side : BookSide) (limits : LimitBook) (entries : List (Price × Level))
    (queues : Queues) : Prop :=
  List.Forall₂ (fun entry queue =>
    entry.1 = queue.1 ∧ LevelHolds side limits queue.1 entry.2 queue.2) entries queues

def allIds (queues : Queues) : List OrderId :=
  queues.flatMap (fun queue => orderIds queue.2)

theorem allIds_cons (price : Price) (items : List Order) (rest : Queues) :
    allIds ((price, items) :: rest) = orderIds items ++ allIds rest := rfl

theorem mem_allIds {queues : Queues} {orderId : OrderId} :
    orderId ∈ allIds queues ↔ ∃ queue ∈ queues, orderId ∈ orderIds queue.2 := by
  unfold allIds
  exact List.mem_flatMap

theorem Chain.frame {ptr : LevelPtr} {limits changed : LimitBook} {before after : Option OrderId}
    {orders : List Order} (linked : Chain ptr limits before orders after)
    (same : ∀ orderId ∈ orderIds orders, changed.lookup orderId = limits.lookup orderId) :
    Chain ptr changed before orders after :=
  Segment.frame linked (fun _order member => same _ (List.mem_map_of_mem member))

theorem LevelHolds.frame {side : BookSide} {limits changed : LimitBook} {price : Price}
    {level : Level} {orders : List Order} (held : LevelHolds side limits price level orders)
    (same : ∀ orderId ∈ orderIds orders, changed.lookup orderId = limits.lookup orderId) :
    LevelHolds side changed price level orders :=
  { held with linked := held.linked.frame same }

theorem Holds.frame {side : BookSide} {limits changed : LimitBook}
    {entries : List (Price × Level)} {queues : Queues} (held : Holds side limits entries queues)
    (same : ∀ orderId ∈ allIds queues, changed.lookup orderId = limits.lookup orderId) :
    Holds side changed entries queues := by
  induction held with
  | nil => exact List.Forall₂.nil
  | @cons entry queue entries queues here _later ih =>
      refine List.Forall₂.cons ⟨here.1, here.2.frame ?_⟩ (ih ?_)
      · intro orderId member
        exact same orderId (mem_allIds.mpr ⟨queue, List.mem_cons_self, member⟩)
      · intro orderId member
        obtain ⟨other, present, inside⟩ := mem_allIds.mp member
        exact same orderId (mem_allIds.mpr ⟨other, List.mem_cons_of_mem _ present, inside⟩)

theorem Holds.of_mem {side : BookSide} {limits : LimitBook} {entries : List (Price × Level)}
    {queues : Queues} (held : Holds side limits entries queues) {queue : Price × List Order}
    (member : queue ∈ queues) :
    ∃ level, (queue.1, level) ∈ entries ∧ LevelHolds side limits queue.1 level queue.2 := by
  induction held with
  | nil => cases member
  | @cons entry first entries queues here _later ih =>
      rcases List.mem_cons.mp member with same | later
      · rw [same]
        refine ⟨entry.2, ?_, here.2⟩
        rw [← here.1]
        exact List.mem_cons_self
      · obtain ⟨level, present, holds⟩ := ih later
        exact ⟨level, List.mem_cons_of_mem entry present, holds⟩

/-! ### The sweep as a function of the queues -/

def accepts (side : BookSide) (orderPrice levelPrice : Price) : Bool :=
  !FifoMatcher.noMatchingLevel side orderPrice levelPrice

/-- What price-time priority does with an order and the queues of a side. -/
def sweepOrders (side : BookSide) (order : Order) (queues : Queues) :
    SweepResult Price Order :=
  sweep orderAmount reduceOrder (accepts side order.price) (orderAmount order) queues

/-- The entry of the level in which the order stops. The level is erased when the
order count reads zero; the head is moved only in the level the reference is
bound to. -/
def closeEntry (bound : Bool) (entry : Price × Level) (remaining : List Order)
    (rest : List (Price × Level)) : List (Price × Level) :=
  if liveCount remaining % 65536 = 0 then rest
  else (entry.1, if bound then Level.withHead (headOf remaining) entry.2 else entry.2) :: rest

/-- The entries that the outer loop leaves. -/
def settled (acceptable : Price → Bool) :
    Bool → Nat → List (Price × Level) → Queues → List (Price × Level)
  | bound, wanted, entry :: entries, (_, items) :: queues =>
      if acceptable entry.1 then
        if (fillQueue orderAmount reduceOrder wanted items).left = 0 then
          closeEntry bound entry (fillQueue orderAmount reduceOrder wanted items).remaining entries
        else
          settled acceptable false (fillQueue orderAmount reduceOrder wanted items).left
            entries queues
      else entry :: entries
  | _, _, entries, _ => entries

theorem foldl_reduceOrder {order : Order} {taken : List (Order × Nat)}
    (covered : total taken ≤ orderAmount order) :
    taken.foldl (fun order entry => reduceOrder order entry.2) order =
      order.withQuantity (UInt32.ofNat (orderAmount order - total taken)) := by
  induction taken generalizing order with
  | nil =>
      simp only [List.foldl_nil, total, List.map_nil, List.sum_nil, Nat.sub_zero, orderAmount,
        UInt32.ofNat_toNat, Order.withQuantity_self]
  | cons entry rest ih =>
      have split : total (entry :: rest) = entry.2 + total rest := by simp [total]
      rw [split] at covered ⊢
      have part : entry.2 ≤ orderAmount order := by omega
      have reduced := reduceOrder_amount part
      rw [List.foldl_cons, ih (by omega), reduced, reduceOrder_eq_withQuantity part,
        Order.withQuantity_withQuantity, Nat.sub_sub]

theorem withQuantity_ofNat_amount (order : Order) {left : Nat}
    (bounded : left ≤ orderAmount order) :
    orderAmount (order.withQuantity (UInt32.ofNat left)) = left :=
  UInt32.toNat_ofNat_of_lt' (Nat.lt_of_le_of_lt bounded order.currentQuantity.toNat_lt)

theorem fillOrders_left_le (order : Order) (items : List Order) :
    (fillOrders order items).left ≤ orderAmount order := by
  have conserved : total (fillOrders order items).taken + (fillOrders order items).left =
      orderAmount order := fillQueue_conserves (orderAmount order) items
  omega

/-- The order after a pass over one level. -/
theorem foldl_fillOrders (order : Order) (items : List Order) :
    (fillOrders order items).taken.foldl (fun order entry => reduceOrder order entry.2) order =
      order.withQuantity (UInt32.ofNat (fillOrders order items).left) := by
  have conserved : total (fillOrders order items).taken + (fillOrders order items).left =
      orderAmount order := fillQueue_conserves (orderAmount order) items
  rw [foldl_reduceOrder (by omega)]
  congr 2
  omega

theorem report_fills_congr (clock : Nat → Int64) {first second : MatchResult}
    (same : first.fills = second.fills) (order : Order) (taken : List (Order × Nat)) :
    (report clock first order taken).fills = (report clock second order taken).fills := by
  induction taken generalizing first second order with
  | nil => exact same
  | cons entry rest ih =>
      refine ih ?_ _
      rw [same]
      simp only [FifoMatcher.addFills, MatchResult.addFill, same]

/-! ### Between two levels -/

section Between

variable {side : BookSide} {clock : Nat → Int64}

/-- A state in which the outer loop stands before the first of the given queues.
The reference shows the first level, and is bound to it or to no entry. -/
structure AtLevels (state : Matching side) (queues : Queues) : Prop where
  holds : Holds side state.limitbook state.cursor.book.entries queues
  distinct : (allIds queues).Nodup
  atBegin : state.cursor.bookItr = state.cursor.book.begin?
  shown : ∀ price level rest, state.cursor.book.entries = (price, level) :: rest →
    state.cursor.bookLvl = level
  bound : state.cursor.entry = none ∨ state.cursor.entry = state.cursor.book.begin?
  noted : state.cursor.access = state.cursor

theorem getLevelOrderCount_headless (limits : LimitBook) {level : Level}
    (headless : level.head = none) : level.getLevelOrderCount limits = .ok 0 := by
  unfold Level.getLevelOrderCount
  rw [headless]
  simp [Level.countFrom]

/-- The level that has lost its list is erased, and the reference takes the
contents of the next level, in storage that belongs to no entry. -/
theorem leaveLevel_eq {state : Matching side} {price : Price} {level : Level}
    {rest : List (Price × Level)}
    (front : state.cursor.book.entries = (price, level) :: rest)
    (atFront : state.cursor.bookItr = some price)
    (bound : state.cursor.entry = none ∨ state.cursor.entry = some price)
    (emptied : state.cursor.bookLvl.head = none) :
    ∃ cursor, FifoMatcher.leaveLevel state = .ok { state with cursor := cursor } ∧
      cursor.book.entries = rest ∧
      cursor.bookItr = cursor.book.begin? ∧
      (∀ price level others, cursor.book.entries = (price, level) :: others →
        cursor.bookLvl = level) ∧
      cursor.entry = none ∧
      cursor.access = cursor := by
  have count := getLevelOrderCount_headless state.limitbook emptied
  have unbound : (if state.cursor.entry = some price then none else state.cursor.entry) = none := by
    rcases bound with none | some
    · rw [none]
      rfl
    · rw [some, if_pos rfl]
  have next := OrderedMap.next?_front front
  have erased := OrderedMap.erase_front front
  refine ⟨(state.cursor.access.eraseAtIterator).assignFromIterator, ?_, ?_⟩
  · unfold FifoMatcher.leaveLevel
    rw [count]
    rfl
  · have passed : state.cursor.access.eraseAtIterator =
        { state.cursor.access with
          book := state.cursor.book.erase price
          bookItr := rest.head?.map Prod.fst
          entry := none } := by
      simp only [LevelCursor.eraseAtIterator, LevelCursor.access, atFront, next, unbound]
    rw [passed]
    cases rest with
    | nil =>
        refine ⟨erased, ?_, ?_, rfl, ?_⟩
        · simp [LevelCursor.assignFromIterator, LevelCursor.access, OrderedMap.begin?, erased]
        · intro other otherLevel others impossible
          have ends : ([] : List (Price × Level)) = (other, otherLevel) :: others :=
            erased.symm.trans impossible
          cases ends
        · simp [LevelCursor.assignFromIterator, LevelCursor.access]
    | cons following others =>
        have found : (state.cursor.book.erase price).find? following.1 = some following.2 :=
          OrderedMap.find?_front erased
        have assigned : LevelCursor.assignFromIterator
            { state.cursor.access with
              book := state.cursor.book.erase price
              bookItr := some following.1
              entry := none } =
            { book := state.cursor.book.erase price
              bookItr := some following.1
              bookLvl := following.2
              entry := none
              touchedErased := true
              readEnd := state.cursor.readEnd } := by
          simp only [LevelCursor.assignFromIterator, Option.bind_some, found, LevelCursor.write,
            LevelCursor.access, Option.isNone_none, Bool.or_true]
        simp only [List.head?_cons, Option.map_some]
        rw [assigned]
        refine ⟨erased, ?_, ?_, rfl, rfl⟩
        · exact (OrderedMap.begin?_front erased).symm
        · intro other otherLevel tail same
          rw [erased] at same
          cases same
          rfl

end Between

/-! ### The loop -/

section Loop

variable {side : BookSide} {clock : Nat → Int64}

/-- What the outer loop leaves of a state that stands before the given queues. -/
structure Swept (clock : Nat → Int64) (state after : Matching side) (queues : Queues)
    (result : SweepResult Price Order) : Prop where
  order : after.orderToMatch = state.orderToMatch.withQuantity (UInt32.ofNat result.left)
  entries : after.cursor.book.entries =
    settled (accepts side state.orderToMatch.price) state.cursor.entry.isSome
      (orderAmount state.orderToMatch) state.cursor.book.entries queues
  linked : ∀ queue ∈ result.levels,
    Chain { side := side, price := queue.1 } after.limitbook none queue.2 none
  gone : ∀ orderId ∈ allIds queues, orderId ∉ allIds result.levels →
    after.limitbook.lookup orderId = none
  frame : ∀ orderId, orderId ∉ allIds queues →
    after.limitbook.lookup orderId = state.limitbook.lookup orderId
  reported : after.matchResult.fills =
    (report clock state.matchResult state.orderToMatch result.taken).fills
  filled : after.matchResult.orderFilled = (result.filled || state.matchResult.orderFilled)
  executed : after.executions =
    state.executions ++ result.taken.map (executionOf state.orderToMatch.orderId)

theorem write_entries {cursor : LevelCursor side} {price : Price} {level : Level}
    {rest : List (Price × Level)} (front : cursor.book.entries = (price, level) :: rest)
    (bound : cursor.entry = none ∨ cursor.entry = some price) (change : Level → Level) :
    (cursor.write change).book.entries =
      (price, if cursor.entry.isSome then change level else level) :: rest := by
  rcases bound with none | some
  · simp only [LevelCursor.write, none, Option.isSome_none, Bool.false_eq_true, if_false]
    exact front
  · simp only [LevelCursor.write, some, Option.isSome_some, if_true]
    exact OrderedMap.update_front front change

theorem closeLevel_entries {cursor : LevelCursor side} {price : Price} {level : Level}
    {rest : List (Price × Level)} (front : cursor.book.entries = (price, level) :: rest)
    (atFront : cursor.bookItr = some price)
    (bound : cursor.entry = none ∨ cursor.entry = some price) (remaining : List Order) :
    (closeLevel (cursor.write (Level.withHead (headOf remaining))) remaining).book.entries =
      closeEntry cursor.entry.isSome (price, level) remaining rest := by
  have written := write_entries front bound (Level.withHead (headOf remaining))
  have itr : (cursor.write (Level.withHead (headOf remaining))).bookItr = some price := atFront
  unfold closeLevel closeEntry
  split
  · unfold LevelCursor.eraseAtIterator
    rw [itr]
    exact OrderedMap.erase_front written
  · exact written

theorem AtLevels.entries_cons {state : Matching side} {price : Price} {items : List Order}
    {rest : Queues} (standing : AtLevels state ((price, items) :: rest)) :
    ∃ level others, state.cursor.book.entries = (price, level) :: others ∧
      LevelHolds side state.limitbook price level items ∧
      Holds side state.limitbook others rest := by
  have held := standing.holds
  unfold Holds at held
  obtain ⟨entry, others, ⟨samePrice, here⟩, later, front⟩ := List.forall₂_cons_right_iff.mp held
  refine ⟨entry.2, others, ?_, here, later⟩
  rw [front]
  exact congrArg (· :: others) (Prod.ext samePrice rfl)

theorem AtLevels.front {state : Matching side} {price : Price} {items : List Order}
    {rest : Queues} (standing : AtLevels state ((price, items) :: rest)) :
    state.cursor.bookItr = some price ∧
      (state.cursor.entry = none ∨ state.cursor.entry = some price) := by
  obtain ⟨_level, _others, front, _here, _later⟩ := standing.entries_cons
  have begins := OrderedMap.begin?_front front
  refine ⟨standing.atBegin.trans begins, ?_⟩
  rcases standing.bound with unbound | first
  · exact Or.inl unbound
  · exact Or.inr (first.trans begins)

theorem AtLevels.atQueue {state : Matching side} {price : Price} {items : List Order}
    {rest : Queues} (standing : AtLevels state ((price, items) :: rest)) :
    AtQueue { side := side, price := price }
      { state with
        cursor := state.cursor.access
        bookOrder := state.cursor.bookLvl.head } items := by
  obtain ⟨level, others, front, here, _later⟩ := standing.entries_cons
  have shown := standing.shown price level others front
  have distinct := standing.distinct
  rw [allIds_cons] at distinct
  rw [standing.noted, shown]
  refine ⟨here.linked, (List.nodup_append.mp distinct).1, here.atHead, ?_, standing.noted, ?_⟩
  · exact (congrArg Level.head shown).trans here.atHead
  · intro entry live
    have begins := OrderedMap.begin?_front front
    rcases standing.bound with unbound | bound
    · exact absurd (live.symm.trans unbound) (by simp)
    · have same : entry = price := by
        have equal := live.symm.trans (bound.trans begins)
        exact Option.some.inj equal
      change state.cursor.book.find? entry = some state.cursor.bookLvl
      rw [same, shown]
      exact OrderedMap.find?_front front

theorem not_mem_later {price : Price} {items : List Order} {rest : Queues}
    (distinct : (allIds ((price, items) :: rest)).Nodup) {orderId : OrderId}
    (member : orderId ∈ allIds rest) : orderId ∉ orderIds items := by
  rw [allIds_cons] at distinct
  intro here
  exact (List.nodup_append.mp distinct).2.2 orderId here orderId member rfl

theorem mem_keepLevel {price : Price} {items : List Order} {rest : Queues}
    {queue : Price × List Order} (member : queue ∈ keepLevel price items rest) :
    queue = (price, items) ∨ queue ∈ rest := by
  cases items with
  | nil => exact Or.inr member
  | cons item others => exact List.mem_cons.mp member

theorem mem_allIds_keepLevel {price : Price} {items : List Order} {rest : Queues}
    {orderId : OrderId} :
    orderId ∈ allIds (keepLevel price items rest) ↔
      orderId ∈ orderIds items ∨ orderId ∈ allIds rest := by
  cases items with
  | nil => simp [keepLevel, orderIds]
  | cons item others =>
      rw [keepLevel, allIds_cons, List.mem_append]

/-- The order stops in the first of the levels. -/
theorem Swept.stop {state after : Matching side} {price : Price} {items : List Order}
    {rest : Queues} (standing : AtLevels state ((price, items) :: rest))
    (accepted : accepts side state.orderToMatch.price price = true)
    (stopped : (fillOrders state.orderToMatch items).left = 0)
    (looped : LoopResult clock { side := side, price := price }
      { state with
        cursor := state.cursor.access
        bookOrder := state.cursor.bookLvl.head } after items
      (fillOrders state.orderToMatch items)) :
    Swept clock state after ((price, items) :: rest)
      (sweepOrders side state.orderToMatch ((price, items) :: rest)) := by
  obtain ⟨level, others, front, _here, later⟩ := standing.entries_cons
  obtain ⟨atFront, bound⟩ := standing.front
  obtain ⟨cursor, flag⟩ := looped.closed stopped
  have swept : sweepOrders side state.orderToMatch ((price, items) :: rest) =
      { taken := (fillOrders state.orderToMatch items).taken
        left := 0
        levels := keepLevel price (fillOrders state.orderToMatch items).remaining rest
        filled := true } := sweep_stopped rest accepted stopped
  rw [swept]
  refine ⟨?_, ?_, ?_, ?_, ?_, looped.traded.reported, flag, looped.traded.executed⟩
  · rw [looped.traded.order, stopped]
  · rw [cursor, standing.noted, closeLevel_entries front atFront bound, front]
    have stops : (fillQueue orderAmount reduceOrder (orderAmount state.orderToMatch) items).left = 0 :=
      stopped
    simp only [settled, if_pos accepted, if_pos stops]
    rfl
  · intro queue member
    rcases mem_keepLevel member with first | kept
    · rw [first]
      exact looped.traded.linked
    · obtain ⟨_level, _present, holds⟩ := later.of_mem kept
      refine holds.linked.frame (fun orderId inside => looped.traded.frame orderId ?_)
      exact not_mem_later standing.distinct (mem_allIds.mpr ⟨queue, kept, inside⟩)
  · intro orderId member removed
    rw [mem_allIds_keepLevel, not_or] at removed
    rw [allIds_cons, List.mem_append] at member
    exact looped.traded.gone orderId (member.resolve_right removed.2) removed.1
  · intro orderId outside
    rw [allIds_cons, List.mem_append, not_or] at outside
    exact looped.traded.frame orderId outside.1

/-- The order passes the first of the levels, and later levels are swept. -/
theorem Swept.pass {state next after : Matching side} {price : Price} {items : List Order}
    {rest : Queues} (standing : AtLevels state ((price, items) :: rest))
    (accepted : accepts side state.orderToMatch.price price = true)
    (passed : (fillOrders state.orderToMatch items).left ≠ 0)
    (traded : Traded clock { side := side, price := price }
      { state with
        cursor := state.cursor.access
        bookOrder := state.cursor.bookLvl.head } next items
      (fillOrders state.orderToMatch items))
    (flag : next.matchResult.orderFilled = state.matchResult.orderFilled)
    (advanced : state.cursor.book.entries.tail = next.cursor.book.entries)
    (unbound : next.cursor.entry = none)
    (later : Swept clock next after rest (sweepOrders side next.orderToMatch rest)) :
    Swept clock state after ((price, items) :: rest)
      (sweepOrders side state.orderToMatch ((price, items) :: rest)) := by
  obtain ⟨level, others, front, _here, _later⟩ := standing.entries_cons
  have bounded := fillOrders_left_le state.orderToMatch items
  have amount : orderAmount next.orderToMatch = (fillOrders state.orderToMatch items).left := by
    rw [traded.order]
    exact withQuantity_ofNat_amount state.orderToMatch bounded
  have samePrice : next.orderToMatch.price = state.orderToMatch.price := by
    rw [traded.order]
    rfl
  have sameId : next.orderToMatch.orderId = state.orderToMatch.orderId := by
    rw [traded.order]
    rfl
  have usedUp : (fillOrders state.orderToMatch items).remaining = [] :=
    (fillQueue_short passed).2.1
  have swept : sweepOrders side state.orderToMatch ((price, items) :: rest) =
      { taken := (fillOrders state.orderToMatch items).taken ++
          (sweepOrders side next.orderToMatch rest).taken
        left := (sweepOrders side next.orderToMatch rest).left
        levels := (sweepOrders side next.orderToMatch rest).levels
        filled := (sweepOrders side next.orderToMatch rest).filled } := by
    unfold sweepOrders
    rw [sweep_passed rest accepted passed, amount, samePrice]
    rfl
  rw [swept]
  refine ⟨?_, ?_, later.linked, ?_, ?_, ?_, ?_, ?_⟩
  · rw [later.order, traded.order]
    rfl
  · rw [later.entries, samePrice, unbound, amount, ← advanced, front]
    have passes : ¬(fillQueue orderAmount reduceOrder (orderAmount state.orderToMatch) items).left = 0 :=
      passed
    simp only [settled, if_pos accepted, if_neg passes]
    rfl
  · intro orderId member removed
    rw [allIds_cons, List.mem_append] at member
    rcases Classical.em (orderId ∈ allIds rest) with inside | outside
    · exact later.gone orderId inside removed
    · rw [later.frame orderId outside]
      refine traded.gone orderId (member.resolve_right outside) ?_
      rw [usedUp]
      exact List.not_mem_nil
  · intro orderId outside
    rw [allIds_cons, List.mem_append, not_or] at outside
    rw [later.frame orderId outside.2, traded.frame orderId outside.1]
  · have folded : (fillOrders state.orderToMatch items).taken.foldl
        (fun order entry => reduceOrder order entry.2) state.orderToMatch = next.orderToMatch := by
      rw [foldl_fillOrders]
      exact traded.order.symm
    rw [later.reported, report_append, folded]
    exact report_fills_congr clock traded.reported _ _
  · rw [later.filled, flag]
  · rw [later.executed, traded.executed, sameId, List.map_append, List.append_assoc]

/-- The first of the levels is out of reach. -/
theorem Swept.refuse {state : Matching side} {price : Price} {items : List Order}
    {rest : Queues} (standing : AtLevels state ((price, items) :: rest))
    (refused : accepts side state.orderToMatch.price price = false) :
    Swept clock state state ((price, items) :: rest)
      (sweepOrders side state.orderToMatch ((price, items) :: rest)) := by
  obtain ⟨level, others, front, _here, _later⟩ := standing.entries_cons
  have swept : sweepOrders side state.orderToMatch ((price, items) :: rest) =
      { taken := []
        left := orderAmount state.orderToMatch
        levels := (price, items) :: rest
        filled := false } := sweep_refused rest refused
  rw [swept]
  refine ⟨?_, ?_, ?_, ?_, fun _ _ => rfl, rfl, rfl, ?_⟩
  · rw [orderAmount, UInt32.ofNat_toNat]
    rfl
  · rw [front]
    simp only [settled, refused]
    rfl
  · intro queue member
    obtain ⟨_level, _present, holds⟩ := standing.holds.of_mem member
    exact holds.linked
  · intro orderId member removed
    exact absurd member removed
  · exact (List.append_nil state.executions).symm

/-- A level that did not fill the order is left: the loop stands before the rest. -/
theorem AtLevels.leave {state looped : Matching side} {price : Price} {level : Level}
    {items : List Order} {rest : Queues} {others : List (Price × Level)}
    (standing : AtLevels state ((price, items) :: rest))
    (front : state.cursor.book.entries = (price, level) :: others)
    (later : Holds side state.limitbook others rest)
    (atFront : state.cursor.bookItr = some price)
    (bound : state.cursor.entry = none ∨ state.cursor.entry = some price)
    (passed : (fillOrders state.orderToMatch items).left ≠ 0)
    (result : LoopResult clock { side := side, price := price }
      { state with
        cursor := state.cursor.access
        bookOrder := state.cursor.bookLvl.head } looped items
      (fillOrders state.orderToMatch items)) :
    ∃ next, FifoMatcher.leaveLevel looped = .ok next ∧
      AtLevels next rest ∧
      next.cursor.entry = none ∧
      ∀ after, accepts side state.orderToMatch.price price = true →
        Swept clock next after rest (sweepOrders side next.orderToMatch rest) →
        Swept clock state after ((price, items) :: rest)
          (sweepOrders side state.orderToMatch ((price, items) :: rest)) := by
  obtain ⟨written, flag⟩ := result.passed passed
  have cursor : looped.cursor = state.cursor.write (Level.withHead none) := by
    rw [written, standing.noted]
  have loopedFront := write_entries front bound (Level.withHead none)
  rw [← cursor] at loopedFront
  have loopedItr : looped.cursor.bookItr = some price := by
    rw [cursor]
    exact atFront
  have loopedBound : looped.cursor.entry = none ∨ looped.cursor.entry = some price := by
    rw [cursor]
    exact bound
  have emptied : looped.cursor.bookLvl.head = none := by
    rw [cursor]
    rfl
  obtain ⟨left, leaves, entries, begins, shown, unbound, noted⟩ :=
    leaveLevel_eq loopedFront loopedItr loopedBound emptied
  refine ⟨{ looped with cursor := left }, leaves,
    ⟨?_, ?_, begins, shown, Or.inl unbound, noted⟩, unbound, ?_⟩
  · change Holds side looped.limitbook left.book.entries rest
    rw [entries]
    refine later.frame (fun orderId member => result.traded.frame orderId ?_)
    exact not_mem_later standing.distinct member
  · have distinct := standing.distinct
    rw [allIds_cons] at distinct
    exact (List.nodup_append.mp distinct).2.1
  · intro after accepted swept
    have traded : Traded clock { side := side, price := price }
        { state with
          cursor := state.cursor.access
          bookOrder := state.cursor.bookLvl.head } { looped with cursor := left } items
        (fillOrders state.orderToMatch items) :=
      { order := result.traded.order
        linked := result.traded.linked
        gone := result.traded.gone
        frame := result.traded.frame
        reported := result.traded.reported
        executed := result.traded.executed }
    refine Swept.pass standing accepted passed traded flag ?_ unbound swept
    rw [front]
    exact entries.symm

/-- One pass of the loop over an acceptable level. -/
theorem matchLevels_succ {state : Matching side} {price : Price} (fuel : Nat)
    (atFront : state.cursor.bookItr = some price)
    (accepted : accepts side state.orderToMatch.price price = true) :
    FifoMatcher.matchLevels clock (fuel + 1) state =
      FifoMatcher.orderFullyMatchedInLevel clock state.limitbook.size
          { state with
            cursor := state.cursor.access
            bookOrder := state.cursor.bookLvl.head } >>= fun looped =>
        if looped.1 = true then .ok looped.2
        else FifoMatcher.leaveLevel looped.2 >>= FifoMatcher.matchLevels clock fuel := by
  have matching : ¬FifoMatcher.noMatchingLevel side state.orderToMatch.price price = true := by
    intro none
    rw [accepts, none] at accepted
    cases accepted
  rw [FifoMatcher.matchLevels, atFront]
  simp only [if_neg matching]
  rfl

/-- One pass of the loop over an acceptable level, in terms of its queue. -/
theorem AtLevels.turn {state : Matching side} {price : Price} {items : List Order}
    {rest : Queues} (standing : AtLevels state ((price, items) :: rest)) (fuel : Nat)
    (accepted : accepts side state.orderToMatch.price price = true) :
    ∃ looped,
      FifoMatcher.matchLevels clock (fuel + 1) state =
        (if (fillOrders state.orderToMatch items).left = 0 then .ok looped
          else FifoMatcher.leaveLevel looped >>= FifoMatcher.matchLevels clock fuel) ∧
      LoopResult clock { side := side, price := price }
        { state with
          cursor := state.cursor.access
          bookOrder := state.cursor.bookLvl.head } looped items
        (fillOrders state.orderToMatch items) := by
  obtain ⟨_level, _others, _front, here, _later⟩ := standing.entries_cons
  have queueStanding := standing.atQueue
  have returns : ∃ looped,
      FifoMatcher.orderFullyMatchedInLevel clock state.limitbook.size
          { state with
            cursor := state.cursor.access
            bookOrder := state.cursor.bookLvl.head } =
        .ok (decide ((fillOrders state.orderToMatch items).left = 0), looped) ∧
      LoopResult clock { side := side, price := price }
        { state with
          cursor := state.cursor.access
          bookOrder := state.cursor.bookLvl.head } looped items
        (fillOrders state.orderToMatch items) :=
    orderFullyMatchedInLevel_spec queueStanding
      (here.linked.length_le queueStanding.distinct) (Or.inl here.occupied)
  obtain ⟨looped, returned, result⟩ := returns
  refine ⟨looped, ?_, result⟩
  rw [matchLevels_succ fuel standing.front.1 accepted, returned]
  simp only [ok_bind, decide_eq_true_eq]

/-- The outer loop returns, whatever order meets whatever well-formed levels. -/
theorem matchLevels_spec {queues : Queues} {state : Matching side} {fuel : Nat}
    (standing : AtLevels state queues) (enough : queues.length ≤ fuel) :
    ∃ after, FifoMatcher.matchLevels clock fuel state = .ok after ∧
      Swept clock state after queues (sweepOrders side state.orderToMatch queues) := by
  induction queues generalizing state fuel with
  | nil =>
      have empty : state.cursor.book.entries = [] := List.forall₂_nil_right_iff.mp standing.holds
      have atEnd : state.cursor.bookItr = none := by
        rw [standing.atBegin, OrderedMap.begin?, empty]
        rfl
      refine ⟨state, ?_, ?_, ?_, ?_, ?_, fun _ _ => rfl, rfl, rfl, ?_⟩
      · unfold FifoMatcher.matchLevels
        rw [atEnd]
      · change state.orderToMatch = state.orderToMatch.withQuantity
          (UInt32.ofNat (orderAmount state.orderToMatch))
        rw [orderAmount, UInt32.ofNat_toNat]
        rfl
      · rw [empty]
        rfl
      · intro queue member
        cases member
      · intro orderId member
        cases member
      · exact (List.append_nil state.executions).symm
  | cons queue rest ih =>
      obtain ⟨price, items⟩ := queue
      obtain ⟨level, others, front, _here, later⟩ := standing.entries_cons
      obtain ⟨atFront, bound⟩ := standing.front
      cases fuel with
      | zero => exact absurd enough (Nat.not_succ_le_zero rest.length)
      | succ fuel =>
          cases accepted : accepts side state.orderToMatch.price price with
          | false =>
              refine ⟨state, ?_, Swept.refuse standing accepted⟩
              have refused : FifoMatcher.noMatchingLevel side state.orderToMatch.price price = true := by
                simpa [accepts] using accepted
              rw [FifoMatcher.matchLevels, atFront]
              simp only [if_pos refused]
          | true =>
              obtain ⟨looped, turned, result⟩ :=
                @AtLevels.turn side clock state price items rest standing fuel accepted
              rw [turned]
              by_cases stopped : (fillOrders state.orderToMatch items).left = 0
              · rw [if_pos stopped]
                exact ⟨looped, rfl, Swept.stop standing accepted stopped result⟩
              · obtain ⟨next, leaves, nextStanding, _unbound, swept⟩ :=
                  standing.leave front later atFront bound stopped result
                obtain ⟨after, finished, sweptRest⟩ :=
                  ih nextStanding (Nat.le_of_succ_le_succ enough)
                refine ⟨after, ?_, swept after accepted sweptRest⟩
                rw [if_neg stopped, leaves]
                exact finished

/-- Matching starts before the levels of the side. -/
theorem AtLevels.initial {order : Order} {book : SideBook side} {limits : LimitBook}
    {queues : Queues} {price : Price} {level : Level} {rest : List (Price × Level)}
    (holds : Holds side limits book.entries queues) (distinct : (allIds queues).Nodup)
    (front : book.entries = (price, level) :: rest) :
    AtLevels (FifoMatcher.initial order book limits price level) queues where
  holds := holds
  distinct := distinct
  atBegin := (OrderedMap.begin?_front front).symm
  shown := by
    intro other otherLevel others same
    have equal := front.symm.trans same
    cases equal
    rfl
  bound := Or.inr (OrderedMap.begin?_front front).symm
  noted := rfl

/-- What matching an order against one side leaves, in terms of the sweep of its
queues. -/
structure Matched (clock : Nat → Int64) (order : Order) (book : SideBook side)
    (limits : LimitBook) (queues : Queues) (outcome : FifoMatcher.Outcome side)
    (result : SweepResult Price Order) : Prop where
  residual : outcome.order = order.withQuantity (UInt32.ofNat result.left)
  entries : outcome.book.entries =
    settled (accepts side order.price) true (orderAmount order) book.entries queues
  linked : ∀ queue ∈ result.levels,
    Chain { side := side, price := queue.1 } outcome.limitbook none queue.2 none
  gone : ∀ orderId ∈ allIds queues, orderId ∉ allIds result.levels →
    outcome.limitbook.lookup orderId = none
  frame : ∀ orderId, orderId ∉ allIds queues →
    outcome.limitbook.lookup orderId = limits.lookup orderId
  reported : outcome.matchResult.fills = (report clock MatchResult.empty order result.taken).fills
  filled : outcome.matchResult.orderFilled = result.filled
  executed : outcome.executions = result.taken.map (executionOf order.orderId)

theorem fifoMatch_spec {order : Order} {book : SideBook side} {limits : LimitBook}
    {queues : Queues} (holds : Holds side limits book.entries queues)
    (distinct : (allIds queues).Nodup) :
    ∃ outcome, FifoMatcher.fifoMatch clock order book limits = .ok outcome ∧
      Matched clock order book limits queues outcome (sweepOrders side order queues) := by
  unfold FifoMatcher.fifoMatch
  cases front : book.entries with
  | nil =>
      rw [front] at holds
      have empty : queues = [] := List.forall₂_nil_left_iff.mp holds
      subst empty
      refine ⟨_, rfl, ?_, ?_, ?_, ?_, fun _ _ => rfl, rfl, rfl, rfl⟩
      · change order = order.withQuantity (UInt32.ofNat (orderAmount order))
        rw [orderAmount, UInt32.ofNat_toNat]
        rfl
      · exact front.trans (by rw [front]; rfl)
      · intro queue member
        cases member
      · intro orderId member
        cases member
  | cons entry rest =>
      obtain ⟨price, level⟩ := entry
      have standing : AtLevels (FifoMatcher.initial order book limits price level) queues :=
        AtLevels.initial holds distinct front
      have enough : queues.length ≤ book.size := by
        rw [OrderedMap.size, List.Forall₂.length_eq holds]
      have returns : ∃ after, FifoMatcher.matchLevels clock book.size
            (FifoMatcher.initial order book limits price level) = .ok after ∧
          Swept clock (FifoMatcher.initial order book limits price level) after queues
            (sweepOrders side order queues) := matchLevels_spec standing enough
      obtain ⟨after, returned, swept⟩ := returns
      refine ⟨FifoMatcher.outcome after, ?_, ?_⟩
      · simp only [returned]
        rfl
      · exact
          { residual := swept.order
            entries := swept.entries
            linked := swept.linked
            gone := swept.gone
            frame := swept.frame
            reported := swept.reported
            filled := swept.filled.trans (Bool.or_false _)
            executed := swept.executed.trans (List.nil_append _) }

end Loop

/-! ### A side with one order -/

section Solo

variable (side : BookSide) (order : Order)

def soloBook : SideBook side :=
  { entries :=
      [(order.price,
        { head := some order.orderId
          tail := some order.orderId
          isBuySide := side.flag
          price := order.price })]
    ordered := List.pairwise_singleton _ _ }

def soloLimits : LimitBook :=
  (∅ : LimitBook).insert order.orderId
    (limitAt { side := side, price := order.price } order none none)

theorem solo_holds (flagged : order.isBuySide = side.flag) :
    Holds side (soloLimits side order) (soloBook side order).entries [(order.price, [order])] := by
  refine List.Forall₂.cons ⟨rfl, ?_⟩ List.Forall₂.nil
  refine
    { occupied := List.cons_ne_nil order []
      atHead := rfl
      atTail := rfl
      priced := rfl
      flagged := rfl
      linked := ⟨AList.lookup_insert _, trivial⟩
      belongs := ?_ }
  intro other member
  rw [List.mem_singleton.mp member]
  exact ⟨rfl, flagged⟩

end Solo

section TwoLevels

def laterSell (orderId : OrderId) (price : Price) : Order :=
  Order.create 0 1 price 5 { orderId := orderId, userId := 1, ticker := 1 }

/-- Five at 100 under order 3; five each at 101 under orders 4 and 5. -/
def twoLevelQueues : Queues :=
  [(100, [laterSell 3 100]), (101, [laterSell 4 101, laterSell 5 101])]

def twoLevelBook : SideBook .asks :=
  { entries :=
      [(100, { head := some 3, tail := some 3, isBuySide := 0, price := 100 }),
        (101, { head := some 4, tail := some 5, isBuySide := 0, price := 101 })]
    ordered := by decide }

def twoLevelLimits : LimitBook :=
  (((∅ : LimitBook).insert 3
      (limitAt { side := .asks, price := 100 } (laterSell 3 100) none none)).insert
    4 (limitAt { side := .asks, price := 101 } (laterSell 4 101) (some 5) none)).insert
      5 (limitAt { side := .asks, price := 101 } (laterSell 5 101) none (some 4))

theorem twoLevels_hold : Holds .asks twoLevelLimits twoLevelBook.entries twoLevelQueues := by
  refine List.Forall₂.cons ⟨rfl, ?_⟩ (List.Forall₂.cons ⟨rfl, ?_⟩ List.Forall₂.nil)
  · exact
      { occupied := List.cons_ne_nil _ _
        atHead := rfl
        atTail := rfl
        priced := rfl
        flagged := rfl
        linked := ⟨by decide, trivial⟩
        belongs := by decide }
  · exact
      { occupied := List.cons_ne_nil _ _
        atHead := rfl
        atTail := rfl
        priced := rfl
        flagged := rfl
        linked := ⟨by decide, by decide, trivial⟩
        belongs := by decide }

end TwoLevels

end Engine
end SpotExchange
