/-
No level without a head. Whatever the lists of the levels look like: matching leaves a level with
a head or erases it, and an order is placed in a level that has one or becomes its head.
-/

import SpotExchange.Engine.Placement
import SpotExchange.Engine.Uncrossed

namespace SpotExchange
namespace Engine

open Collections Machine Wire

/-! ### Matching -/

/-- Every level of the entries has a head. -/
def AllHeaded (entries : List (Price × Level)) : Prop := ∀ entry ∈ entries, entry.2.head ≠ none

/-- The matching loop is at the first level of a side, which may have lost its head while it is
matched through the reference; the others have theirs. -/
structure Fronted {side : BookSide} (first : Price) (rest : List (Price × Level))
    (cursor : LevelCursor side) : Prop where
  itr : cursor.bookItr = some first
  front : ∃ level, cursor.book.entries = (first, level) :: rest ∧
    (cursor.entry = none ∧ level.head ≠ none ∨
      cursor.entry = some first ∧ level.head = cursor.bookLvl.head)
  others : AllHeaded rest

namespace Fronted

variable {side : BookSide} {first : Price} {rest : List (Price × Level)}
  {cursor : LevelCursor side}

theorem access (fronted : Fronted first rest cursor) : Fronted first rest cursor.access :=
  ⟨fronted.itr, fronted.front, fronted.others⟩

theorem write (fronted : Fronted first rest cursor) (head : Option OrderId) :
    Fronted first rest (cursor.write (Level.withHead head)) := by
  obtain ⟨level, front, cases⟩ := fronted.front
  obtain ⟨book, bookItr, bookLvl, entry, touchedErased, readEnd⟩ := cursor
  refine ⟨fronted.itr, ?_, fronted.others⟩
  rcases cases with ⟨unbound, headed⟩ | ⟨bound, same⟩
  · cases unbound
    exact ⟨level, front, Or.inl ⟨rfl, headed⟩⟩
  · cases bound
    exact ⟨Level.withHead head level, OrderedMap.update_front front _, Or.inr ⟨rfl, rfl⟩⟩

/-- Once the level has been counted, and erased if the count reads zero, the others are left, or
it has its head. -/
theorem close (fronted : Fronted first rest cursor) {limits : LimitBook} {count : UInt16}
    (counted : cursor.bookLvl.getLevelOrderCount limits = .ok count) :
    AllHeaded
      (if count == 0 then cursor.access.eraseAtIterator else cursor.access).book.entries := by
  obtain ⟨level, front, cases⟩ := fronted.front
  by_cases zero : (count == 0) = true
  · have itr : cursor.access.bookItr = some first := fronted.itr
    rw [if_pos zero, LevelCursor.eraseAtIterator, itr]
    change AllHeaded (cursor.book.erase first).entries
    rw [OrderedMap.erase_front front]
    exact fronted.others
  · rw [if_neg zero]
    change AllHeaded cursor.book.entries
    rw [front]
    intro entry member
    rcases List.mem_cons.mp member with here | later
    · rw [here]
      rcases cases with ⟨-, headed⟩ | ⟨-, same⟩
      · exact headed
      · intro none
        rw [getLevelOrderCount_headless limits (same.symm.trans none)] at counted
        cases counted
        exact zero rfl
    · exact fronted.others entry later

end Fronted

section Loops

variable {side : BookSide} {clock : Nat → Int64} {first : Price} {rest : List (Price × Level)}
  {state after : Matching side}

theorem finishInLevel_headed (fronted : Fronted first rest state.cursor)
    (returned : FifoMatcher.finishInLevel state = .ok after) :
    AllHeaded after.cursor.book.entries := by
  unfold FifoMatcher.finishInLevel at returned
  obtain ⟨limit, _read, returned⟩ := bind_eq_ok returned
  by_cases empty : (limit.order.currentQuantity == 0) = true
  · rw [if_pos empty] at returned
    obtain ⟨removed, removes, returned⟩ := bind_eq_ok returned
    obtain ⟨count, counted, done⟩ := bind_eq_ok returned
    have standing : Fronted first rest removed.cursor := by
      rw [(remove_keeps removes).2]
      exact fronted.write removed.bookOrder
    cases done
    exact standing.close counted
  · rw [if_neg empty] at returned
    obtain ⟨unchanged, same, returned⟩ := bind_eq_ok returned
    obtain ⟨count, counted, done⟩ := bind_eq_ok returned
    cases same
    cases done
    exact fronted.close counted

/-- Induction over the turns of the loop. -/
theorem orderFullyMatchedInLevel_fronted {fuel : Nat} {filled : Bool}
    (fronted : Fronted first rest state.cursor)
    (returned : FifoMatcher.orderFullyMatchedInLevel clock fuel state = .ok (filled, after)) :
    if filled then AllHeaded after.cursor.book.entries else Fronted first rest after.cursor := by
  induction fuel generalizing state with
  | zero =>
      unfold FifoMatcher.orderFullyMatchedInLevel at returned
      split at returned
      · cases returned
      · cases returned
        exact fronted
  | succ fuel ih =>
      unfold FifoMatcher.orderFullyMatchedInLevel at returned
      split at returned
      · obtain ⟨traded, trades, returned⟩ := bind_eq_ok returned
        have standing : Fronted first rest traded.cursor := by
          rw [(trade_keeps trades).1]
          exact fronted
        split at returned
        · obtain ⟨finished, finishes, returned⟩ := bind_eq_ok returned
          cases returned
          exact finishInLevel_headed standing finishes
        · obtain ⟨removed, removes, returned⟩ := bind_eq_ok returned
          have goesOn : Fronted first rest removed.cursor := by
            rw [(remove_keeps removes).2]
            exact standing.write removed.bookOrder
          exact ih goesOn returned
      · cases returned
        exact fronted

/-- The reference is to the first level of the map, or to a level that is not in it. -/
def AtFirst (state : Matching side) : Prop :=
  state.cursor.bookItr = state.cursor.book.begin? ∧
    (state.cursor.entry = none ∨ ∃ first level rest,
      state.cursor.book.entries = (first, level) :: rest ∧ state.cursor.entry = some first ∧
        level.head = state.cursor.bookLvl.head)

theorem AtFirst.fronted {price : Price} (atFirst : AtFirst state)
    (headed : AllHeaded state.cursor.book.entries) (atPrice : state.cursor.bookItr = some price) :
    ∃ first rest, Fronted first rest state.cursor := by
  obtain ⟨atBegin, reference⟩ := atFirst
  cases front : state.cursor.book.entries with
  | nil =>
      rw [atBegin, OrderedMap.begin?, front] at atPrice
      cases atPrice
  | cons entry rest =>
      rw [front] at headed
      refine ⟨entry.1, rest, atBegin.trans (OrderedMap.begin?_front front),
        ⟨entry.2, front, ?_⟩, fun other member => headed other (List.mem_cons_of_mem entry member)⟩
      rcases reference with unbound | ⟨first, level, others, begins, bound, same⟩
      · exact Or.inl ⟨unbound, headed entry List.mem_cons_self⟩
      · rw [front] at begins
        cases begins
        exact Or.inr ⟨bound, same⟩

/-- Induction over the levels: a level that is left is erased. -/
theorem matchLevels_headed {fuel : Nat} (headed : AllHeaded state.cursor.book.entries)
    (atFirst : AtFirst state) (returned : FifoMatcher.matchLevels clock fuel state = .ok after) :
    AllHeaded after.cursor.book.entries := by
  induction fuel generalizing state with
  | zero =>
      unfold FifoMatcher.matchLevels at returned
      split at returned
      · cases returned
        exact headed
      · cases returned
  | succ fuel ih =>
      unfold FifoMatcher.matchLevels at returned
      split at returned
      · cases returned
        exact headed
      · rename_i price atPrice
        simp only at returned
        split at returned
        · cases returned
          exact headed
        · obtain ⟨⟨filled, looped⟩, loops, returned⟩ := bind_eq_ok returned
          obtain ⟨first, rest, standing⟩ := atFirst.fronted headed atPrice
          have ended := orderFullyMatchedInLevel_fronted standing.access loops
          cases filled with
          | true =>
              cases returned
              exact ended
          | false =>
              obtain ⟨left, leaves, returned⟩ := bind_eq_ok returned
              have passed : Fronted first rest looped.cursor := ended
              have emptied := ((orderFullyMatchedInLevel_end rfl loops).passed rfl).1
              obtain ⟨level, front, cases⟩ := passed.front
              have bound : looped.cursor.entry = none ∨ looped.cursor.entry = some first :=
                cases.imp And.left And.left
              obtain ⟨cursor, leaves', entries, leftBegin, _shown, unbound, _noted⟩ :=
                leaveLevel_eq front passed.itr bound emptied
              have same : left = { looped with cursor := cursor } :=
                Except.ok.inj (leaves.symm.trans leaves')
              subst same
              apply ih _ ⟨leftBegin, Or.inl unbound⟩ returned
              change AllHeaded cursor.book.entries
              rw [entries]
              exact passed.others

/-- Matching leaves no level without a head. -/
theorem fifoMatch_headed {order : Order} {book : SideBook side} {limits : LimitBook}
    {outcome : FifoMatcher.Outcome side} (headed : AllHeaded book.entries)
    (returned : FifoMatcher.fifoMatch clock order book limits = .ok outcome) :
    AllHeaded outcome.book.entries := by
  unfold FifoMatcher.fifoMatch at returned
  split at returned
  · cases returned
    exact headed
  · rename_i price level rest front
    obtain ⟨finished, matched, same⟩ := map_eq_ok returned
    rw [← same]
    have atFirst : AtFirst (FifoMatcher.initial order book limits price level) :=
      ⟨(OrderedMap.begin?_front front).symm, Or.inr ⟨price, level, rest, front, rfl, rfl⟩⟩
    exact matchLevels_headed headed atFirst matched

end Loops

/-! ### Books -/

namespace OrderBook

/-- No level of the book is without a head. -/
def Headed (book : OrderBook) : Prop :=
  ∀ side price level, (book.levels side).find? price = some level → level.head ≠ none

variable {book after : OrderBook} {clock : Nat → Int64}

theorem allHeaded_iff {side : BookSide} {sidebook : SideBook side} :
    AllHeaded sidebook.entries ↔
      ∀ price level, sidebook.find? price = some level → level.head ≠ none := by
  constructor
  · intro headed price level found
    exact headed (price, level) ((OrderedMap.find?_eq_some_iff _ _ _).mp found)
  · rintro headed ⟨price, level⟩ member
    exact headed price level ((OrderedMap.find?_eq_some_iff _ _ _).mpr member)

theorem empty_headed (ticker : Ticker) : (empty ticker).Headed := by
  intro side price level found
  cases side <;> cases found

theorem Headed.levels (headed : book.Headed) (side : BookSide) :
    AllHeaded (book.levels side).entries := allHeaded_iff.mpr (headed side)

/-- No level but the one under the pointer is without a head. -/
def HeadedBut (book : OrderBook) (ptr : LevelPtr) : Prop :=
  ∀ side price level, (book.levels side).find? price = some level →
    side = ptr.side ∧ price = ptr.price ∨ level.head ≠ none

/-- A write to a level that leaves a head in it. -/
theorem HeadedBut.writeLevel {ptr : LevelPtr} (headed : book.HeadedBut ptr)
    {change : Level → Level}
    (gives : ∀ level, (book.levels ptr.side).find? ptr.price = some level →
      (change level).head ≠ none)
    (returned : book.writeLevel (some ptr) change = .ok after) : after.Headed := by
  simp only [OrderBook.writeLevel] at returned
  split at returned
  · cases returned
  · cases returned
    intro side price level found
    rw [find?_setLevels_update] at found
    split at found
    · rename_i here
      obtain ⟨old, stored, changed⟩ := Option.map_eq_some_iff.mp found
      rw [here.1, here.2] at stored
      rw [← changed]
      exact gives old stored
    · rename_i elsewhere
      exact (headed side price level found).resolve_left elsewhere

theorem Headed.writeLevel (headed : book.Headed) {ptr : Option LevelPtr} {change : Level → Level}
    (keeps : ∀ level, level.head ≠ none → (change level).head ≠ none)
    (returned : book.writeLevel ptr change = .ok after) : after.Headed := by
  cases ptr with
  | none => cases returned
  | some ptr =>
      have but : book.HeadedBut ptr := fun side price level found =>
        Or.inr (headed side price level found)
      exact but.writeLevel (fun level found => keeps level (headed ptr.side ptr.price level found))
        returned

theorem Headed.withLimits (headed : book.Headed) (limits : LimitBook) :
    OrderBook.Headed { book with limitOrders := limits } := by
  intro side price level found
  rw [levels_limitOrders] at found
  exact headed side price level found

theorem HeadedBut.withLimits {ptr : LevelPtr} (headed : book.HeadedBut ptr) (limits : LimitBook) :
    OrderBook.HeadedBut { book with limitOrders := limits } ptr := by
  intro side price level found
  rw [levels_limitOrders] at found
  exact headed side price level found

theorem Headed.setLevels (headed : book.Headed) {side : BookSide} {levels : SideBook side}
    (others : AllHeaded levels.entries) : (book.setLevels side levels).Headed := by
  intro other price level found
  by_cases same : other = side
  · subst same
    rw [levels_setLevels_self] at found
    exact allHeaded_iff.mp others price level found
  · rw [levels_setLevels_of_ne book same] at found
    exact headed other price level found

/-! ### Placing -/

/-- The order becomes the head of its level, or the level has one. -/
theorem placeLimitInBookLevel_headed {ptr : LevelPtr} {order : Order}
    (headed : book.HeadedBut ptr)
    (returned : book.placeLimitInBookLevel ptr order = .ok after) : after.Headed := by
  unfold placeLimitInBookLevel at returned
  split at returned
  · cases returned
  · obtain ⟨level, reads, returned⟩ := bind_eq_ok returned
    split at returned
    · exact (headed.withLimits _).writeLevel
        (fun _level _found none => Option.some_ne_none order.orderId none) returned
    · rename_i occupied
      obtain ⟨linked, _links, returned⟩ := bind_eq_ok returned
      refine (headed.withLimits linked).writeLevel ?_ returned
      intro other found none
      rw [levels_limitOrders] at found
      rw [readLevel_of_found book found] at reads
      cases reads
      exact occupied (Option.isNone_iff_eq_none.mpr none)

theorem placeOrderInBook_headed {side : BookSide} {order : Order} {flag : UInt8}
    (headed : book.Headed) (returned : book.placeOrderInBook side order flag = .ok after) :
    after.Headed := by
  unfold placeOrderInBook at returned
  obtain ⟨sidebook, placed, returned⟩ := bind_eq_ok returned
  obtain ⟨placed', places, stands⟩ := getSideLevel_eq (book.levels side) order.price
  have same : placed' = sidebook := Except.ok.inj (places.symm.trans placed)
  subst same
  refine placeLimitInBookLevel_headed ?_ returned
  intro other price level found
  by_cases here : other = side ∧ price = order.price
  · exact Or.inl here
  · right
    by_cases sameSide : other = side
    · subst sameSide
      have away : ¬ price = order.price := fun same => here ⟨rfl, same⟩
      rw [levels_setLevels_self, OrderedMap.find?_update, if_neg away, stands, if_neg away] at found
      exact headed other price level found
    · rw [levels_setLevels_of_ne book sameSide] at found
      exact headed other price level found

/-! ### Calls -/

variable {result : CallResult}

theorem restOrder_headed {side : BookSide} {order left : Order} {reading : Nat}
    {executions : List Execution} {emitted : List Emission} (headed : book.Headed)
    (returned : restOrder clock book side order reading executions emitted = .ok (left, result)) :
    result.book.Headed := by
  unfold restOrder at returned
  obtain ⟨placed, places, done⟩ := bind_eq_ok returned
  cases done
  exact placeOrderInBook_headed headed places

theorem addOrderTo_headed {matchSide addSide : BookSide} {order left : Order}
    (headed : book.Headed)
    (returned : addOrderTo clock book order matchSide addSide = .ok (left, result)) :
    result.book.Headed := by
  unfold addOrderTo at returned
  split at returned
  · obtain ⟨matched, matching, returned⟩ := bind_eq_ok returned
    have swept := headed.setLevels (fifoMatch_headed (headed.levels matchSide) matching)
    have passed := swept.withLimits matched.limitbook
    split at returned
    · cases returned
      exact passed
    · exact restOrder_headed passed returned
  · exact restOrder_headed headed returned

theorem addOrder_headed {order left : Order} (headed : book.Headed)
    (returned : addOrder clock book order = .ok (left, result)) : result.book.Headed := by
  unfold addOrder at returned
  split at returned
  · cases returned
    exact headed
  · split at returned
    · exact addOrderTo_headed headed returned
    · split at returned
      · exact addOrderTo_headed headed returned
      · cases returned
        exact headed

theorem allHeaded_erase {side : BookSide} {sidebook : SideBook side}
    (headed : AllHeaded sidebook.entries) (price : Price) :
    AllHeaded (sidebook.erase price).entries := by
  refine allHeaded_iff.mpr ?_
  intro other level found
  rw [OrderedMap.find?_erase] at found
  split at found
  · cases found
  · exact allHeaded_iff.mp headed other level found

/-- The head's neighbour takes its place; an order that has no neighbours takes its level with
it. -/
theorem unlinkLimit_headed {limit : Limit} (headed : book.Headed)
    (returned : book.unlinkLimit limit = .ok after) : after.Headed := by
  unfold unlinkLimit at returned
  split at returned
  · obtain ⟨_next, _linked, returned⟩ := bind_eq_ok returned
    obtain ⟨prev, _relinked, returned⟩ := bind_eq_ok returned
    cases returned
    exact headed.withLimits prev
  · split at returned
    · rename_i isHead
      obtain ⟨written, writes, returned⟩ := bind_eq_ok returned
      obtain ⟨next, _linked, returned⟩ := bind_eq_ok returned
      cases returned
      have follows : limit.nextLimit ≠ none :=
        Option.isSome_iff_ne_none.mp (Bool.and_eq_true_iff.mp isHead).2
      exact (headed.writeLevel (fun _level _headed => follows) writes).withLimits next
    · split at returned
      · obtain ⟨written, writes, returned⟩ := bind_eq_ok returned
        obtain ⟨prev, _linked, returned⟩ := bind_eq_ok returned
        cases returned
        refine Headed.withLimits (headed.writeLevel ?_ writes) prev
        intro level stays
        exact stays
      · split at returned
        · split at returned
          · cases returned
            exact headed.setLevels (allHeaded_erase (headed.levels .bids) limit.order.price)
          · cases returned
            exact headed.setLevels (allHeaded_erase (headed.levels .asks) limit.order.price)
        · cases returned
          exact headed

theorem cancelOrder_headed {cancel : Info.CancelOrder} (headed : book.Headed)
    (returned : cancelOrder clock book cancel = .ok result) : result.book.Headed := by
  unfold cancelOrder at returned
  split at returned
  · cases returned
    exact headed
  · split at returned
    · cases returned
      exact headed
    · obtain ⟨unlinked, unlinks, returned⟩ := bind_eq_ok returned
      cases returned
      exact (unlinkLimit_headed headed unlinks).withLimits _

theorem modifyOrder_headed {modify : Info.ModifyOrder} (headed : book.Headed)
    (returned : modifyOrder clock book modify = .ok result) : result.book.Headed := by
  unfold modifyOrder at returned
  split at returned
  · cases returned
    exact headed
  · simp only at returned
    split at returned
    · cases returned
      exact headed
    · split at returned
      · obtain ⟨_order, _changed, returned⟩ := bind_eq_ok returned
        cases returned
        exact headed.withLimits _
      · obtain ⟨cancelled, cancels, returned⟩ := bind_eq_ok returned
        obtain ⟨⟨_left, added⟩, adds, returned⟩ := bind_eq_ok returned
        cases returned
        have passed : added.book.Headed :=
          addOrder_headed (cancelOrder_headed headed cancels) adds
        exact passed

/-- No call leaves a level without a head. -/
theorem call_headed {request : Request} (headed : book.Headed)
    (returned : book.call request = .ok result) : result.book.Headed := by
  cases request with
  | add clock order =>
      obtain ⟨⟨_left, added⟩, adds, same⟩ := map_eq_ok returned
      subst same
      exact addOrder_headed headed adds
  | modify clock modify => exact modifyOrder_headed headed returned
  | cancel clock cancel => exact cancelOrder_headed headed returned

end OrderBook

end Engine
end SpotExchange
