/-
No engine exception is thrown. Each of the three throw sites is passed in any book whose
entries are stored under their own ids, and calls keep the entries so.
-/

import SpotExchange.Server.LiveBooks

namespace SpotExchange

open Machine

/-- An exception of the source, and not an access without meaning. -/
def Fault.thrown : Fault → Bool
  | .engineException _ => true
  | _ => false

/-- A computation that throws no engine exception. -/
abbrev NoThrow {α : Type} (computation : Except Fault α) : Prop :=
  Avoids (fun fault => fault.thrown = true) computation

namespace Engine

open Collections Wire

/-! ### Reads and writes -/

section Accesses

theorem LimitBook.read_noThrow (limits : LimitBook) (ptr : Option OrderId) :
    NoThrow (limits.read ptr) := by
  unfold LimitBook.read
  split
  · exact Avoids.error Bool.false_ne_true
  · split
    · exact Avoids.error Bool.false_ne_true
    · exact Avoids.ok _

theorem LimitBook.modify_noThrow (limits : LimitBook) (ptr : Option OrderId)
    (change : Limit → Limit) : NoThrow (limits.modify ptr change) := by
  unfold LimitBook.modify
  split
  · exact Avoids.error Bool.false_ne_true
  · split
    · exact Avoids.error Bool.false_ne_true
    · exact Avoids.ok _

theorem Level.countFrom_noThrow (limits : LimitBook) (fuel : Nat) (headptr : Option OrderId)
    (cnt : UInt16) : NoThrow (Level.countFrom limits fuel headptr cnt) := by
  induction fuel generalizing headptr cnt with
  | zero =>
      cases headptr with
      | none => exact Avoids.ok cnt
      | some orderId => exact Avoids.error Bool.false_ne_true
  | succ fuel ih =>
      cases headptr with
      | none => exact Avoids.ok cnt
      | some orderId =>
          unfold Level.countFrom
          cases reads : limits.read (some orderId) with
          | error fault =>
              apply Avoids.error
              exact LimitBook.read_noThrow limits (some orderId) fault reads
          | ok limit => exact ih _ _

theorem OrderBook.writeLevel_noThrow (book : OrderBook) (ptr : Option LevelPtr)
    (change : Level → Level) : NoThrow (book.writeLevel ptr change) := by
  unfold OrderBook.writeLevel
  split
  · exact Avoids.error Bool.false_ne_true
  · split
    · exact Avoids.error Bool.false_ne_true
    · exact Avoids.ok _

theorem OrderBook.readLevel_noThrow (book : OrderBook) (ptr : LevelPtr) :
    NoThrow (book.readLevel ptr) := by
  unfold OrderBook.readLevel
  split
  · exact Avoids.error Bool.false_ne_true
  · exact Avoids.ok _

/-- The first throw site, passed when the quantity covers the delta. -/
theorem decreaseQty_noThrow {order : Order} {qtyDelta : UInt32}
    (covered : qtyDelta ≤ order.currentQuantity) : NoThrow (order.decreaseQty qtyDelta) := by
  rw [Order.decreaseQty_of_le covered]
  exact Avoids.ok _

end Accesses

/-! ### Matching -/

namespace FifoMatcher

variable {side : BookSide} (clock : Nat → Int64) (state : Matching side)

theorem tradeWithBookOrder_noThrow : NoThrow (tradeWithBookOrder clock state) := by
  apply Avoids.bind (LimitBook.read_noThrow _ _)
  intro bookOrder _reads
  apply Avoids.bind (decreaseQty_noThrow (min_quantity_le_right _ _))
  intro orderToMatch _reduced
  apply Avoids.bind (decreaseQty_noThrow (min_quantity_le_left _ _))
  intro resting _reduced
  apply Avoids.bind (LimitBook.modify_noThrow _ _ _)
  intro limitbook _written
  exact Avoids.ok _

theorem removeOrderFromBook_noThrow : NoThrow (removeOrderFromBook state) := by
  apply Avoids.bind (LimitBook.read_noThrow _ _)
  intro bookLim _reads
  split
  · exact Avoids.ok _
  · apply Avoids.bind (LimitBook.modify_noThrow _ _ _)
    intro limitbook _written
    exact Avoids.ok _

theorem finishInLevel_noThrow : NoThrow (finishInLevel state) := by
  apply Avoids.bind (LimitBook.read_noThrow _ _)
  intro bookOrder _reads
  simp only
  split
  · apply Avoids.bind (removeOrderFromBook_noThrow state)
    intro removed _removes
    apply Avoids.bind (Level.countFrom_noThrow _ _ _ _)
    intro count _counts
    exact Avoids.ok _
  · apply Avoids.bind (Avoids.ok state)
    intro same _same
    apply Avoids.bind (Level.countFrom_noThrow _ _ _ _)
    intro count _counts
    exact Avoids.ok _

theorem orderFullyMatchedInLevel_noThrow (fuel : Nat) :
    NoThrow (orderFullyMatchedInLevel clock fuel state) := by
  induction fuel generalizing state with
  | zero =>
      unfold orderFullyMatchedInLevel
      split
      · exact Avoids.error Bool.false_ne_true
      · exact Avoids.ok _
  | succ fuel ih =>
      unfold orderFullyMatchedInLevel
      split
      · apply Avoids.bind (tradeWithBookOrder_noThrow clock state)
        intro traded _trades
        split
        · apply Avoids.bind (finishInLevel_noThrow traded)
          intro finished _finishes
          exact Avoids.ok _
        · apply Avoids.bind (removeOrderFromBook_noThrow traded)
          intro removed _removes
          exact ih removed
      · exact Avoids.ok _

theorem leaveLevel_noThrow : NoThrow (leaveLevel state) := by
  apply Avoids.bind (Level.countFrom_noThrow _ _ _ _)
  intro count _counts
  exact Avoids.ok _

theorem matchLevels_noThrow (fuel : Nat) : NoThrow (matchLevels clock fuel state) := by
  induction fuel generalizing state with
  | zero =>
      unfold matchLevels
      split
      · exact Avoids.ok _
      · exact Avoids.error Bool.false_ne_true
  | succ fuel ih =>
      unfold matchLevels
      split
      · exact Avoids.ok _
      · simp only
        split
        · exact Avoids.ok _
        · apply Avoids.bind (orderFullyMatchedInLevel_noThrow clock _ _)
          rintro ⟨filled, passed⟩ _matched
          cases filled with
          | true => exact Avoids.ok _
          | false =>
              apply Avoids.bind (leaveLevel_noThrow passed)
              intro left _leaves
              exact ih left

theorem fifoMatch_noThrow (order : Order) (book : SideBook side) (limitbook : LimitBook) :
    NoThrow (fifoMatch clock order book limitbook) := by
  unfold fifoMatch
  split
  · exact Avoids.ok _
  · exact (matchLevels_noThrow clock _ _).map

end FifoMatcher

/-! ### Calls -/

namespace OrderBook

variable {book : OrderBook} (clock : Nat → Int64)

/-- The second throw site: a price without a level can be given one. -/
theorem getSideLevel_noThrow (price : Price) {side : BookSide} (sidebook : SideBook side) :
    NoThrow (getSideLevel price sidebook) := by
  unfold getSideLevel
  cases found : sidebook.find? price with
  | some level => exact Avoids.ok sidebook
  | none =>
      simp only [OrderedMap.emplace_of_absent sidebook price (Level.ofPrice price) found, if_true]
      exact Avoids.ok _

/-- The third throw site, passed when the id is not in the id map. -/
theorem placeLimitInBookLevel_noThrow {order : Order} (ptr : LevelPtr)
    (fresh : book.limitOrders.lookup order.orderId = none) :
    NoThrow (book.placeLimitInBookLevel ptr order) := by
  unfold placeLimitInBookLevel
  rw [fresh]
  apply Avoids.bind (readLevel_noThrow book ptr)
  intro level _reads
  split
  · exact writeLevel_noThrow _ _ _
  · apply Avoids.bind (LimitBook.modify_noThrow _ _ _)
    intro linked _links
    exact writeLevel_noThrow _ _ _

theorem placeOrderInBook_noThrow {order : Order} (side : BookSide) (isBuySide : UInt8)
    (fresh : book.limitOrders.lookup order.orderId = none) :
    NoThrow (book.placeOrderInBook side order isBuySide) := by
  apply Avoids.bind (getSideLevel_noThrow _ _)
  intro sidebook _made
  apply placeLimitInBookLevel_noThrow
  rw [limitOrders_setLevels]
  exact fresh

theorem restOrder_noThrow {order : Order} (addSide : BookSide) (reading : Nat)
    (executions : List Execution) (emitted : List Emission)
    (fresh : book.limitOrders.lookup order.orderId = none) :
    NoThrow (restOrder clock book addSide order reading executions emitted) := by
  apply Avoids.bind (placeOrderInBook_noThrow addSide order.isBuySide fresh)
  intro placed _places
  exact Avoids.ok _

/-- Matching brings no id into the id map, so what is left of the order can be placed. -/
theorem addOrderTo_noThrow {order : Order} (matchSide addSide : BookSide)
    (own : book.limitOrders.OwnIds) (fresh : book.limitOrders.lookup order.orderId = none) :
    NoThrow (addOrderTo clock book order matchSide addSide) := by
  unfold addOrderTo
  split
  · apply Avoids.bind (FifoMatcher.fifoMatch_noThrow clock order _ _)
    intro matched matching
    obtain ⟨descends, incoming⟩ := FifoMatcher.fifoMatch_progress own matching
    simp only
    split
    · exact Avoids.ok _
    · apply restOrder_noThrow
      have sameId : matched.order.orderId = order.orderId := by
        rw [incoming]
        rfl
      rw [sameId]
      by_contra present
      obtain ⟨limit, found⟩ := Option.ne_none_iff_exists'.mp present
      obtain ⟨old, stored, _worn⟩ := descends order.orderId limit found
      rw [fresh] at stored
      cases stored
  · exact restOrder_noThrow clock addSide 0 [] [] fresh

theorem addOrder_noThrow (order : Order) (own : book.limitOrders.OwnIds) :
    NoThrow (addOrder clock book order) := by
  unfold addOrder
  split
  · exact Avoids.ok _
  · rename_i absent
    have fresh := Option.not_isSome_iff_eq_none.mp absent
    split
    · exact addOrderTo_noThrow clock .asks .bids own fresh
    · split
      · exact addOrderTo_noThrow clock .bids .asks own fresh
      · exact Avoids.ok _

theorem unlinkLimit_noThrow (limit : Limit) : NoThrow (book.unlinkLimit limit) := by
  unfold unlinkLimit
  split
  · apply Avoids.bind (LimitBook.modify_noThrow _ _ _)
    intro next _written
    apply Avoids.bind (LimitBook.modify_noThrow _ _ _)
    intro prev _written
    exact Avoids.ok _
  · split
    · apply Avoids.bind (writeLevel_noThrow _ _ _)
      intro moved _written
      apply Avoids.bind (LimitBook.modify_noThrow _ _ _)
      intro limits _links
      exact Avoids.ok _
    · split
      · apply Avoids.bind (writeLevel_noThrow _ _ _)
        intro moved _written
        apply Avoids.bind (LimitBook.modify_noThrow _ _ _)
        intro limits _links
        exact Avoids.ok _
      · split
        · split
          · exact Avoids.ok _
          · exact Avoids.ok _
        · exact Avoids.ok _

theorem cancelOrder_noThrow (cancel : Info.CancelOrder) :
    NoThrow (cancelOrder clock book cancel) := by
  unfold cancelOrder
  split
  · exact Avoids.ok _
  · split
    · exact Avoids.ok _
    · apply Avoids.bind (unlinkLimit_noThrow _)
      intro unlinked _unlinks
      exact Avoids.ok _

theorem modifyOrder_noThrow (changes : Info.ModifyOrder) (own : book.limitOrders.OwnIds) :
    NoThrow (modifyOrder clock book changes) := by
  unfold modifyOrder
  split
  · exact Avoids.ok _
  · rename_i limit found
    simp only
    split
    · exact Avoids.ok _
    · split
      · obtain ⟨quantity, changing⟩ := modifyInPlace_eq changes limit.order
        rw [changing]
        exact Avoids.ok _
      · apply Avoids.bind (cancelOrder_noThrow clock _)
        intro cancelled cancels
        have without := (cancelOrder_descends cancels).ownIds own
        apply Avoids.bind (addOrder_noThrow _ _ without)
        intro added _adds
        exact Avoids.ok _

theorem call_noThrow (request : Request) (own : book.limitOrders.OwnIds) :
    NoThrow (book.call request) := by
  cases request with
  | add clock order => exact (addOrder_noThrow clock order own).map
  | modify clock changes => exact modifyOrder_noThrow clock changes own
  | cancel clock cancel => exact cancelOrder_noThrow clock cancel

end OrderBook

end Engine

/-! ### Runs of the manager -/

namespace Server
namespace OrderBookManager

open Engine

/-- Every book stores its entries under their own ids. -/
def AllOwn (books : OrderBooks) : Prop :=
  ∀ ticker book, books.lookup ticker = some book → book.limitOrders.OwnIds

theorem created_allOwn (tickers : List Ticker) : AllOwn (created tickers) := by
  intro ticker book found
  exact (created_allLive tickers ticker book found).own

theorem step_allOwn (books : OrderBooks) (request : Request) (next : OrderBooks)
    (own : AllOwn books) (returned : step books request = .ok next) : AllOwn next := by
  cases step_routed returned with
  | unchanged same _ =>
      rw [same]
      exact own
  | called book result found _passed called after =>
      intro ticker other there
      rw [after] at there
      by_cases same : ticker = request.common.ticker
      · rw [same, AList.lookup_insert] at there
        cases there
        exact OrderBook.call_ownIds (own _ book found) called
      · rw [AList.lookup_insert_ne same] at there
        exact own ticker other there

theorem handle_noThrow (books : OrderBooks) (request : Request) (own : AllOwn books) :
    NoThrow (handle books request) := by
  cases refused : refusedAtOnce request with
  | true =>
      obtain ⟨handled, handles, _books, _noTrade⟩ := handle_refused books refused
      rw [handles]
      exact Avoids.ok handled
  | false =>
      obtain ⟨notFound, passes⟩ := handle_passed books refused
      rw [passes]
      unfold toOrderBook
      split
      · exact Avoids.ok _
      · rename_i book found
        apply Avoids.bind (OrderBook.call_noThrow request (own _ book found))
        intro result _called
        exact Avoids.ok _

/-- No run of calls from empty books ends in an engine exception. -/
theorem no_engine_exception (tickers : List Ticker) (requests : List Request)
    (message : String) :
    run step (created tickers) requests ≠ .error (.engineException message) := by
  have avoids : ∀ (books : OrderBooks) (request : Request), AllOwn books →
      NoThrow (step books request) :=
    fun books request own => (handle_noThrow books request own).map
  intro failed
  have quiet := run_avoids step_allOwn avoids (created_allOwn tickers) requests
  exact quiet (.engineException message) failed rfl

end OrderBookManager
end Server
end SpotExchange
