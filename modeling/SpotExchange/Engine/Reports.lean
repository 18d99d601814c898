/-
What a client is told of a call: each execution of its order by two fills, as long as the
order has something left, or why the call is refused. Nothing is assumed of the levels of the
book, and of its orders only that they are stored under their ids.
-/

import SpotExchange.Engine.Fading
import SpotExchange.Engine.InLevel
import SpotExchange.Engine.Telling

namespace SpotExchange
namespace Engine

open Collections Machine Wire

/-- The fill that tells of an execution, and whether an order is gone with it. The quantity has
passed through 16 bits. -/
def executionFill (common : Info.OrderCommon) (timestamp : Int64) (gone : Bool)
    (quantity : UInt32) : OrderEntryFill :=
  { timestamp := timestamp
    statusCommon := common
    completeFill := gone
    fillQuantity := quantity.toUInt16.toUInt32
    fillId := 0
    allocAlgo := .unknown }

/-- What is left of the order under an id; nothing where there is none. -/
def LimitBook.quantityOf (limits : LimitBook) (orderId : OrderId) : UInt32 :=
  (limits.lookup orderId).elim 0 (fun limit => limit.order.currentQuantity)

/-- What an execution leaves of the resting orders. -/
def afterExecution (remaining : OrderId → UInt32) (execution : Execution) : OrderId → UInt32 :=
  fun orderId =>
    if orderId = execution.restingId then remaining orderId - execution.quantity
    else remaining orderId

/-- The executions of an order, of which so much is left before and after them, with orders that
rest, of which so much remains before them; and the fills that tell of them: first whether the
resting order is gone, then whether the order itself is. An execution takes as much as both have,
and an order that has nothing left trades no more. -/
inductive Reports (common : Info.OrderCommon) :
    (OrderId → UInt32) → UInt32 → List Execution → List OrderEntryFill → UInt32 → Prop
  | nothing (remaining : OrderId → UInt32) (left : UInt32) :
      Reports common remaining left [] [] left
  | execution {remaining : OrderId → UInt32} {left finish : UInt32} {execution : Execution}
      {executions : List Execution} {fills : List OrderEntryFill} (timestamp : Int64)
      (incoming : execution.incomingId = common.orderId)
      (least : execution.quantity = min (remaining execution.restingId) left)
      (last : execution.quantity = left → executions = [])
      (further : Reports common (afterExecution remaining execution) (left - execution.quantity)
        executions fills finish) :
      Reports common remaining left (execution :: executions)
        (executionFill common timestamp (execution.quantity == remaining execution.restingId)
            execution.quantity ::
          executionFill common timestamp (execution.quantity == left) execution.quantity :: fills)
        finish

theorem min_quantity_of_lt {left right : UInt32} (less : min left right < right) :
    min left right = left := by
  change (if left ≤ right then left else right) < right at less
  change (if left ≤ right then left else right) = left
  split at less
  · rename_i least
    exact if_pos least
  · exact absurd less (UInt32.lt_irrefl right)

namespace Reports

variable {common : Info.OrderCommon} {remaining : OrderId → UInt32} {first second third : UInt32}
  {earlier later : List Execution} {fills more : List OrderEntryFill}

/-- Induction on the executions that come first. -/
theorem append (reports : Reports common remaining first earlier fills second)
    (further : Reports common (earlier.foldl afterExecution remaining) second later more third)
    (unfinished : second ≠ 0 ∨ earlier = [] ∨ later = []) :
    Reports common remaining first (earlier ++ later) (fills ++ more) third := by
  induction reports with
  | nothing remaining left => exact further
  | @execution remaining left middle execution executions fills timestamp incoming least last
      rest ih =>
      have ended : middle ≠ 0 ∨ later = [] := by
        rcases unfinished with some | none | none
        · exact Or.inl some
        · cases none
        · exact Or.inr none
      refine Reports.execution timestamp incoming least ?_ (ih further (ended.imp_right Or.inr))
      intro nothingLeft
      have none := last nothingLeft
      rw [none] at rest ⊢
      cases rest
      rcases ended with some | noneLater
      · rw [nothingLeft, UInt32.sub_self] at some
        exact absurd rfl some
      · exact noneLater

theorem idle (reports : Reports common remaining first [] fills second) : second = first := by
  cases reports
  rfl

/-- Each execution is told twice. -/
theorem length_eq (reports : Reports common remaining first earlier fills second) :
    fills.length = 2 * earlier.length := by
  induction reports with
  | nothing remaining left => rfl
  | execution timestamp incoming least last rest ih =>
      rw [List.length_cons, List.length_cons, List.length_cons, ih]
      omega

/-- Nothing is made or lost: what the executions take away is missing in the end. -/
theorem conserves (reports : Reports common remaining first earlier fills second) :
    (earlier.map (fun execution => execution.quantity.toNat)).sum + second.toNat =
      first.toNat := by
  induction reports with
  | nothing remaining left => exact Nat.zero_add _
  | @execution remaining left finish execution executions fills timestamp incoming least last
      rest ih =>
      have covered : execution.quantity ≤ left := by
        rw [least]
        exact min_quantity_le_right _ _
      have fits := UInt32.le_iff_toNat_le.mp covered
      rw [UInt32.toNat_sub_of_le _ _ covered] at ih
      rw [List.map_cons, List.sum_cons]
      omega

/-- What an order leaves to its next execution, the resting order did not have. -/
theorem onwards (reports : Reports common remaining first earlier fills second)
    {execution : Execution} {rest : List Execution} (begins : earlier = execution :: rest)
    (some : execution.quantity < first) :
    execution.quantity = remaining execution.restingId := by
  cases reports with
  | nothing remaining left => cases begins
  | execution timestamp incoming least last further =>
      cases begins
      rw [least] at some ⊢
      exact min_quantity_of_lt some

end Reports

/-! ### Quantities of the id map -/

namespace LimitBook

variable {limits after : LimitBook}

theorem quantityOf_of_lookup {orderId : OrderId} {limit : Limit}
    (found : limits.lookup orderId = some limit) :
    limits.quantityOf orderId = limit.order.currentQuantity := by
  rw [quantityOf, found]
  rfl

theorem quantityOf_of_absent {orderId : OrderId} (absent : limits.lookup orderId = none) :
    limits.quantityOf orderId = 0 := by
  rw [quantityOf, absent]
  rfl

theorem quantityOf_insert (limits : LimitBook) (written orderId : OrderId) (limit : Limit) :
    LimitBook.quantityOf (limits.insert written limit) orderId =
      if orderId = written then limit.order.currentQuantity else limits.quantityOf orderId := by
  rw [quantityOf, lookup_insert_if]
  split
  · rfl
  · rfl

theorem quantityOf_erase (limits : LimitBook) (erased orderId : OrderId) :
    LimitBook.quantityOf (limits.erase erased) orderId =
      if orderId = erased then 0 else limits.quantityOf orderId := by
  rw [quantityOf, lookup_erase_if]
  split
  · rfl
  · rfl

/-- A write that keeps the order of the entry keeps the quantities. -/
theorem quantityOf_modify {ptr : Option OrderId} {change : Limit → Limit}
    (keeps : ∀ limit, (change limit).order = limit.order)
    (returned : limits.modify ptr change = .ok after) : after.quantityOf = limits.quantityOf := by
  unfold LimitBook.modify at returned
  split at returned
  · cases returned
  · rename_i written
    split at returned
    · cases returned
    · rename_i node stored
      cases returned
      funext orderId
      rw [quantityOf_insert, keeps]
      split
      · rename_i here
        rw [here, quantityOf_of_lookup stored]
      · rfl

/-- An order that has nothing left is not missed. -/
theorem quantityOf_erase_empty {erased : OrderId} (empty : limits.quantityOf erased = 0) :
    LimitBook.quantityOf (limits.erase erased) = limits.quantityOf := by
  funext orderId
  rw [quantityOf_erase]
  split
  · rename_i here
    rw [here, empty]
  · rfl

end LimitBook

/-! ### What matching tells -/

namespace FifoMatcher

open LimitBook

variable {side : BookSide} {clock : Nat → Int64}

/-- The fills as they are sent: where to, and as what. -/
def sentFills (order : Order) (fills : List Info.Fill) : List (ConnectionRef × OrderEntryFill) :=
  fills.map (fun fill => (fill.connection, OrderBook.fillAck fill order))

theorem sentFills_withQuantity (order : Order) (quantity : UInt32) (fills : List Info.Fill) :
    sentFills (order.withQuantity quantity) fills = sentFills order fills := rfl

/-- What came of the incoming order between two states. -/
structure Reporting (state next : Matching side) (executions : List Execution)
    (fills : List OrderEntryFill) : Prop where
  same : next.orderToMatch =
    state.orderToMatch.withQuantity next.orderToMatch.currentQuantity
  executed : next.executions = state.executions ++ executions
  sent : sentFills state.orderToMatch next.matchResult.fills =
    sentFills state.orderToMatch state.matchResult.fills ++
      fills.map (fun fill => (state.orderToMatch.connection, fill))
  own : next.limitbook.OwnIds
  remaining : next.limitbook.quantityOf =
    executions.foldl afterExecution state.limitbook.quantityOf
  reports : Reports state.orderToMatch.common state.limitbook.quantityOf
    state.orderToMatch.currentQuantity executions fills next.orderToMatch.currentQuantity

/-- The same incoming order, executions and fills, and the same quantities in the book. -/
structure Silent (state next : Matching side) : Prop where
  incoming : next.orderToMatch = state.orderToMatch
  executed : next.executions = state.executions
  told : next.matchResult.fills = state.matchResult.fills
  own : next.limitbook.OwnIds
  remaining : next.limitbook.quantityOf = state.limitbook.quantityOf

theorem Silent.trans {first second third : Matching side} (earlier : Silent first second)
    (later : Silent second third) : Silent first third where
  incoming := later.incoming.trans earlier.incoming
  executed := later.executed.trans earlier.executed
  told := later.told.trans earlier.told
  own := later.own
  remaining := later.remaining.trans earlier.remaining

namespace Reporting

variable {state middle next : Matching side} {earlier later : List Execution}
  {fills more : List OrderEntryFill}

theorem silent (quiet : Silent state next) : Reporting state next [] [] where
  same := by
    rw [quiet.incoming]
    rfl
  executed := by rw [quiet.executed, List.append_nil]
  sent := by rw [quiet.told, List.map_nil, List.append_nil]
  own := quiet.own
  remaining := quiet.remaining
  reports := by
    rw [quiet.incoming]
    exact Reports.nothing _ _

theorem trans (first : Reporting state middle earlier fills)
    (second : Reporting middle next later more)
    (unfinished : middle.orderToMatch.currentQuantity ≠ 0 ∨ earlier = [] ∨ later = []) :
    Reporting state next (earlier ++ later) (fills ++ more) := by
  have sent := second.sent
  have reports := second.reports
  have sameCommon : middle.orderToMatch.common = state.orderToMatch.common := by
    rw [first.same]
    rfl
  have sameConnection : middle.orderToMatch.connection = state.orderToMatch.connection := by
    rw [first.same]
    rfl
  rw [sameCommon, first.remaining] at reports
  rw [sameConnection, first.same, sentFills_withQuantity, sentFills_withQuantity] at sent
  constructor
  · rw [second.same, first.same]
    rfl
  · rw [second.executed, first.executed, List.append_assoc]
  · rw [sent, first.sent, List.map_append, List.append_assoc]
  · exact second.own
  · rw [second.remaining, first.remaining, List.foldl_append]
  · exact first.reports.append reports unfinished

theorem then_silent (reporting : Reporting state middle earlier fills)
    (quiet : Silent middle next) : Reporting state next earlier fills := by
  have whole := reporting.trans (silent quiet) (Or.inr (Or.inr rfl))
  rwa [List.append_nil, List.append_nil] at whole

end Reporting

theorem toUInt8_bne_zero (flag : Bool) : (flag.toUInt8 != 0) = flag := by
  cases flag <;> rfl

theorem sentFills_addFills (order : Order) (result : MatchResult) (filltime : Int64)
    (incoming bookLim : Order) (fillQty : UInt32) :
    sentFills order (addFills result filltime incoming bookLim fillQty).fills =
      sentFills order result.fills ++
        [executionFill order.common filltime (bookLim.currentQuantity == 0) fillQty,
          executionFill order.common filltime (incoming.currentQuantity == 0) fillQty].map
            (fun fill => (incoming.connection, fill)) := by
  simp only [addFills, MatchResult.addFill, sentFills, List.map_append, List.append_assoc,
    OrderBook.fillAck, toUInt8_bne_zero, executionFill, List.map_cons, List.map_nil,
    List.cons_append, List.nil_append]

theorem sub_beq_zero {left right : UInt32} : (left - right == 0) = (right == left) := by
  rw [Bool.eq_iff_iff, beq_iff_eq, beq_iff_eq, UInt32.sub_eq_iff_eq_add, UInt32.zero_add]
  exact eq_comm

/-- A trade is told by two fills to the connection of the incoming order. Where that order has
something left, the other one has not. -/
theorem tradeWithBookOrder_reporting {state next : Matching side} (own : state.limitbook.OwnIds)
    (returned : tradeWithBookOrder clock state = .ok next) :
    ∃ execution fills, Reporting state next [execution] fills ∧
      (next.orderToMatch.currentQuantity ≠ 0 → ∀ bookLim,
        next.limitbook.read next.bookOrder = .ok bookLim →
          bookLim.order.currentQuantity = 0) := by
  have descends := (tradeWithBookOrder_progress ⟨Descends.refl state.limitbook none, rfl⟩
    returned).entries
  obtain ⟨bookOrder, reads, afterRead⟩ := bind_eq_ok returned
  obtain ⟨orderToMatch, reducesIncoming, afterIncoming⟩ := bind_eq_ok afterRead
  obtain ⟨resting, reduces, afterResting⟩ := bind_eq_ok afterIncoming
  obtain ⟨limitbook, writes, done⟩ := bind_eq_ok afterResting
  have taken := decreaseQty_eq_ok reducesIncoming
  have takenThere := decreaseQty_eq_ok reduces
  obtain ⟨here, pointed, stored⟩ := read_eq_ok reads
  have isHere : resting.orderId = here := by
    rw [takenThere]
    exact own here bookOrder stored
  have written : limitbook = state.limitbook.insert here { bookOrder with order := resting } := by
    rw [pointed, modify_of_lookup _ stored] at writes
    exact (Except.ok.inj writes).symm
  have had : state.limitbook.quantityOf resting.orderId = bookOrder.order.currentQuantity := by
    rw [isHere, quantityOf_of_lookup stored]
  have restingGone : (resting.currentQuantity == 0) =
      (min bookOrder.order.currentQuantity state.orderToMatch.currentQuantity ==
        state.limitbook.quantityOf resting.orderId) := by
    rw [had, takenThere, Order.withQuantity_currentQuantity, sub_beq_zero]
  have last : (orderToMatch.currentQuantity == 0) =
      (min bookOrder.order.currentQuantity state.orderToMatch.currentQuantity ==
        state.orderToMatch.currentQuantity) := by
    rw [taken, Order.withQuantity_currentQuantity, sub_beq_zero]
  cases done
  refine ⟨_, [_, _], ⟨?_, rfl, ?_, descends.ownIds own, ?_,
    Reports.execution (clock state.matchResult.fills.length) ?_ (by rw [had]) (fun _all => rfl)
      ?_⟩, ?_⟩
  · rw [taken]
    rfl
  · rw [sentFills_addFills, restingGone, last, taken]
    rfl
  · funext orderId
    change limitbook.quantityOf orderId = if orderId = resting.orderId then _ else _
    rw [written, quantityOf_insert, isHere]
    split
    · rename_i same
      rw [same, quantityOf_of_lookup stored, takenThere, Order.withQuantity_currentQuantity]
    · rfl
  · rw [taken]
    rfl
  · rw [taken]
    exact Reports.nothing _ _
  · intro some bookLim readsAgain
    change limitbook.read state.bookOrder = .ok bookLim at readsAgain
    rw [written, pointed, read_of_lookup (AList.lookup_insert _)] at readsAgain
    cases readsAgain
    change orderToMatch.currentQuantity ≠ 0 at some
    have unequal : min bookOrder.order.currentQuantity state.orderToMatch.currentQuantity ≠
        state.orderToMatch.currentQuantity := by
      intro same
      rw [taken, Order.withQuantity_currentQuantity, same, UInt32.sub_self] at some
      exact some rfl
    have less := UInt32.lt_of_le_of_ne (min_quantity_le_right _ _) unequal
    rw [takenThere, Order.withQuantity_currentQuantity, min_quantity_of_lt less, UInt32.sub_self]

/-! ### What matching passes over in silence -/

/-- An order that has nothing left is taken out. -/
theorem removeOrderFromBook_silent {state next : Matching side} (own : state.limitbook.OwnIds)
    (empty : ∀ bookLim, state.limitbook.read state.bookOrder = .ok bookLim →
      bookLim.order.currentQuantity = 0)
    (returned : removeOrderFromBook state = .ok next) : Silent state next := by
  have descends := (removeOrderFromBook_progress own
    ⟨Descends.refl state.limitbook state.bookOrder, rfl⟩ returned).entries
  obtain ⟨bookLim, reads, afterRead⟩ := bind_eq_ok returned
  have nothing := empty bookLim reads
  obtain ⟨here, pointed, stored⟩ := read_eq_ok reads
  have isHere := own here bookLim stored
  have none : state.limitbook.quantityOf bookLim.order.orderId = 0 := by
    rw [isHere, quantityOf_of_lookup stored, nothing]
  split at afterRead
  · cases afterRead
    exact ⟨rfl, rfl, rfl, descends.ownIds own, quantityOf_erase_empty none⟩
  · obtain ⟨limitbook, relinks, done⟩ := bind_eq_ok afterRead
    have same := quantityOf_modify (fun limit => by rfl) relinks
    cases done
    rw [← same] at none
    exact ⟨rfl, rfl, rfl, descends.ownIds own, (quantityOf_erase_empty none).trans same⟩

theorem finishInLevel_silent {state next : Matching side} (own : state.limitbook.OwnIds)
    (returned : finishInLevel state = .ok next) : Silent state next := by
  obtain ⟨bookOrder, reads, afterRead⟩ := bind_eq_ok returned
  split at afterRead
  · rename_i nothing
    obtain ⟨removed, removes, afterRemoval⟩ := bind_eq_ok afterRead
    obtain ⟨count, _counts, done⟩ := bind_eq_ok afterRemoval
    have quiet := removeOrderFromBook_silent own (by
      intro bookLim readsAgain
      rw [reads] at readsAgain
      cases readsAgain
      exact beq_iff_eq.mp nothing) removes
    cases done
    exact quiet.trans ⟨rfl, rfl, rfl, quiet.own, rfl⟩
  · obtain ⟨unchanged, same, afterRemoval⟩ := bind_eq_ok afterRead
    obtain ⟨count, _counts, done⟩ := bind_eq_ok afterRemoval
    cases same
    cases done
    exact ⟨rfl, rfl, rfl, own, rfl⟩

theorem leaveLevel_silent {state next : Matching side} (own : state.limitbook.OwnIds)
    (returned : leaveLevel state = .ok next) : Silent state next := by
  obtain ⟨count, _counts, done⟩ := bind_eq_ok returned
  cases done
  exact ⟨rfl, rfl, rfl, own, rfl⟩

/-! ### The loops -/

/-- Induction over the turns: the loop goes on while the incoming order has something left. -/
theorem orderFullyMatchedInLevel_reporting {fuel : Nat} {filled : Bool}
    {state next : Matching side} (own : state.limitbook.OwnIds)
    (returned : orderFullyMatchedInLevel clock fuel state = .ok (filled, next)) :
    ∃ executions fills, Reporting state next executions fills ∧
      (filled = false → next.orderToMatch.currentQuantity ≠ 0 ∨ executions = []) ∧
      (state.bookOrder ≠ none → executions ≠ []) := by
  induction fuel generalizing state with
  | zero =>
      unfold orderFullyMatchedInLevel at returned
      split at returned
      · cases returned
      · rename_i empty
        cases returned
        exact ⟨[], [], Reporting.silent ⟨rfl, rfl, rfl, own, rfl⟩, fun _unfilled => Or.inr rfl,
          fun some => absurd (Option.isSome_iff_ne_none.mpr some) empty⟩
  | succ fuel ih =>
      unfold orderFullyMatchedInLevel at returned
      split at returned
      · obtain ⟨traded, trades, afterTrade⟩ := bind_eq_ok returned
        obtain ⟨execution, pair, reporting, gone⟩ := tradeWithBookOrder_reporting own trades
        split at afterTrade
        · obtain ⟨finished, finishes, done⟩ := bind_eq_ok afterTrade
          cases done
          refine ⟨[execution], pair,
            reporting.then_silent (finishInLevel_silent reporting.own finishes), ?_,
            fun _some => List.cons_ne_nil execution []⟩
          intro unfilled
          cases unfilled
        · rename_i unmatched
          obtain ⟨removed, removes, rest⟩ := bind_eq_ok afterTrade
          have some : traded.orderToMatch.currentQuantity ≠ 0 := by
            intro nothing
            apply unmatched
            rw [orderIsFullyMatched, nothing]
            rfl
          have quiet := removeOrderFromBook_silent reporting.own (gone some) removes
          obtain ⟨executions, fills, further, ended, _begun⟩ := ih quiet.own rest
          have goesOn : removed.orderToMatch.currentQuantity ≠ 0 := by
            rw [quiet.incoming]
            exact some
          refine ⟨[execution] ++ executions, pair ++ fills,
            (reporting.then_silent quiet).trans further (Or.inl goesOn), ?_,
            fun _some => List.cons_ne_nil execution executions⟩
          intro unfilled
          rcases ended unfilled with some | none
          · exact Or.inl some
          · rw [none] at further
            rw [further.reports.idle]
            exact Or.inl goesOn
      · rename_i empty
        cases returned
        exact ⟨[], [], Reporting.silent ⟨rfl, rfl, rfl, own, rfl⟩, fun _unfilled => Or.inr rfl,
          fun some => absurd (Option.isSome_iff_ne_none.mpr some) empty⟩

/-- The incoming order accepts the level at the iterator, and the level has a head. -/
def Meets (state : Matching side) : Prop :=
  ∃ price, state.cursor.bookItr = some price ∧
    noMatchingLevel side state.orderToMatch.price price = false ∧
    state.cursor.bookLvl.head ≠ none

/-- Induction over the levels. -/
theorem matchLevels_reporting {fuel : Nat} {state next : Matching side}
    (own : state.limitbook.OwnIds) (returned : matchLevels clock fuel state = .ok next) :
    ∃ executions fills, Reporting state next executions fills ∧
      (Meets state → executions ≠ []) := by
  induction fuel generalizing state with
  | zero =>
      unfold matchLevels at returned
      split at returned
      · rename_i ended
        cases returned
        refine ⟨[], [], Reporting.silent ⟨rfl, rfl, rfl, own, rfl⟩, ?_⟩
        rintro ⟨price, atPrice, -⟩
        cases ended.symm.trans atPrice
      · cases returned
  | succ fuel ih =>
      unfold matchLevels at returned
      split at returned
      · rename_i ended
        cases returned
        refine ⟨[], [], Reporting.silent ⟨rfl, rfl, rfl, own, rfl⟩, ?_⟩
        rintro ⟨price, atPrice, -⟩
        cases ended.symm.trans atPrice
      · rename_i levelPrice atLevel
        simp only at returned
        split at returned
        · rename_i refused
          cases returned
          refine ⟨[], [], Reporting.silent ⟨rfl, rfl, rfl, own, rfl⟩, ?_⟩
          rintro ⟨price, atPrice, accepted, -⟩
          cases atLevel.symm.trans atPrice
          rw [accepted] at refused
          cases refused
        · obtain ⟨⟨filled, passed⟩, matched, afterMatch⟩ := bind_eq_ok returned
          obtain ⟨executions, fills, inLevel, ended, begun⟩ :=
            orderFullyMatchedInLevel_reporting (by exact own) matched
          have meets : Meets state → executions ≠ [] := by
            rintro ⟨_price, _atPrice, _accepted, headed⟩
            exact begun headed
          cases filled with
          | true =>
              cases afterMatch
              exact ⟨executions, fills, ⟨inLevel.same, inLevel.executed, inLevel.sent, inLevel.own,
                inLevel.remaining, inLevel.reports⟩, meets⟩
          | false =>
              obtain ⟨left, leaves, rest⟩ := bind_eq_ok afterMatch
              have quiet := leaveLevel_silent inLevel.own leaves
              obtain ⟨later, more, further, _begun⟩ := ih quiet.own rest
              have levelDone := inLevel.then_silent quiet
              have whole := levelDone.trans further (by
                rw [quiet.incoming]
                exact (ended rfl).imp_right Or.inl)
              exact ⟨executions ++ later, fills ++ more, ⟨whole.same, whole.executed, whole.sent,
                whole.own, whole.remaining, whole.reports⟩,
                fun met => List.append_ne_nil_of_left_ne_nil (meets met) later⟩

/-- What the client of the incoming order is told of matching. An order that meets a level with
a head trades. -/
theorem fifoMatch_reports {order : Order} {book : SideBook side} {limits : LimitBook}
    {outcome : Outcome side} (own : limits.OwnIds)
    (returned : fifoMatch clock order book limits = .ok outcome) :
    outcome.order = order.withQuantity outcome.order.currentQuantity ∧
      (∃ fills, sentFills order outcome.matchResult.fills =
          fills.map (fun fill => (order.connection, fill)) ∧
        Reports order.common limits.quantityOf order.currentQuantity outcome.executions fills
          outcome.order.currentQuantity) ∧
      ∀ price level rest, book.entries = (price, level) :: rest →
        noMatchingLevel side order.price price = false → level.head ≠ none →
          outcome.executions ≠ [] := by
  unfold fifoMatch at returned
  split at returned
  · rename_i front
    cases returned
    refine ⟨rfl, ⟨[], rfl, Reports.nothing _ _⟩, ?_⟩
    intro price level rest begins
    cases front.symm.trans begins
  · rename_i first others front
    obtain ⟨finished, matched, same⟩ := map_eq_ok returned
    obtain ⟨executions, fills, reporting, begun⟩ := matchLevels_reporting (by exact own) matched
    have executed : finished.executions = executions := reporting.executed
    rw [← same]
    refine ⟨reporting.same, ⟨fills, reporting.sent, ?_⟩, ?_⟩
    · have reports := reporting.reports
      rw [← executed] at reports
      exact reports
    · intro price level rest begins accepted headed
      cases front.symm.trans begins
      change finished.executions ≠ []
      rw [executed]
      exact begun ⟨_, rfl, accepted, headed⟩

end FifoMatcher

/-! ### Where the responses go -/

/-- The responses among the emissions, with the connection each goes to. -/
def toClients : List Emission → List (ConnectionRef × OrderEntryResponse)
  | [] => []
  | .toClient connection response :: rest => (connection, response) :: toClients rest
  | .marketData _ :: rest => toClients rest

theorem toClients_append (earlier later : List Emission) :
    toClients (earlier ++ later) = toClients earlier ++ toClients later := by
  induction earlier with
  | nil => rfl
  | cons emission earlier ih =>
      cases emission with
      | toClient connection response => exact congrArg _ ih
      | marketData message => exact ih

/-- All responses go to the one connection. -/
def Addressed (connection : ConnectionRef) (emitted : List Emission) : Prop :=
  ∃ responses : List OrderEntryResponse,
    toClients emitted = responses.map (fun response => (connection, response))

theorem addressed_append {connection : ConnectionRef} {earlier later : List Emission}
    (first : Addressed connection earlier) (second : Addressed connection later) :
    Addressed connection (earlier ++ later) := by
  obtain ⟨responses, told⟩ := first
  obtain ⟨more, toldMore⟩ := second
  refine ⟨responses ++ more, ?_⟩
  rw [toClients_append, told, toldMore, List.map_append]

theorem addressed_rejections (connection : ConnectionRef) (common : Info.OrderCommon)
    (reasons : List RejectionReason) :
    Addressed connection (reasons.map (OrderBook.rejection connection common)) := by
  refine ⟨reasons.map (fun reason =>
    .rejection { orderCommon := common, rejectionResponse := reason }), ?_⟩
  induction reasons with
  | nil => rfl
  | cons reason reasons ih => exact congrArg _ ih

theorem addressed_silent (connection : ConnectionRef) {emitted : List Emission}
    (silent : toClients emitted = []) : Addressed connection emitted := ⟨[], silent⟩

namespace FifoMatcher

variable {side : BookSide} {clock : Nat → Int64}

/-- The new fills are for the connection of the incoming order. -/
structure Addressing (state next : Matching side) : Prop where
  incoming : next.orderToMatch.connection = state.orderToMatch.connection
  fills : ∀ fill ∈ next.matchResult.fills,
    fill ∈ state.matchResult.fills ∨ fill.connection = state.orderToMatch.connection

theorem addressing_keptBy (clock : Nat → Int64) :
    KeptBy clock (Addressing : Matching side → Matching side → Prop) where
  refl := fun _state => ⟨rfl, fun _fill listed => Or.inl listed⟩
  trans := by
    intro first second third earlier later
    refine ⟨later.incoming.trans earlier.incoming, ?_⟩
    intro fill listed
    rcases later.fills fill listed with before | new
    · exact earlier.fills fill before
    · exact Or.inr (new.trans earlier.incoming)
  moves := by
    intro state cursor bookOrder matchResult same
    refine ⟨rfl, ?_⟩
    intro fill listed
    exact Or.inl (same ▸ listed)
  trades := by
    intro state next returned
    obtain ⟨bookOrder, _reads, afterRead⟩ := bind_eq_ok returned
    obtain ⟨orderToMatch, reducesIncoming, afterIncoming⟩ := bind_eq_ok afterRead
    obtain ⟨resting, _reduces, afterResting⟩ := bind_eq_ok afterIncoming
    obtain ⟨limitbook, _writes, done⟩ := bind_eq_ok afterResting
    have taken := decreaseQty_eq_ok reducesIncoming
    cases done
    have same : orderToMatch.connection = state.orderToMatch.connection := by
      rw [taken]
      rfl
    refine ⟨same, ?_⟩
    intro fill listed
    simp only [addFills, MatchResult.addFill, List.append_assoc, List.mem_append,
      List.mem_singleton] at listed
    rcases listed with before | restingFill | incomingFill
    · exact Or.inl before
    · rw [restingFill]
      exact Or.inr same
    · rw [incomingFill]
      exact Or.inr same
  removes := by
    intro state next returned
    obtain ⟨bookLim, _reads, afterRead⟩ := bind_eq_ok returned
    split at afterRead
    · cases afterRead
      exact ⟨rfl, fun _fill listed => Or.inl listed⟩
    · obtain ⟨limitbook, _relinks, done⟩ := bind_eq_ok afterRead
      cases done
      exact ⟨rfl, fun _fill listed => Or.inl listed⟩

theorem fifoMatch_addressed {order : Order} {book : SideBook side} {limits : LimitBook}
    {outcome : Outcome side} (returned : fifoMatch clock order book limits = .ok outcome) :
    ∀ fill ∈ outcome.matchResult.fills, fill.connection = order.connection := by
  unfold fifoMatch at returned
  intro fill listed
  split at returned
  · cases returned
    cases listed
  · obtain ⟨finished, matched, same⟩ := map_eq_ok returned
    rw [← same] at listed
    have addressing := matchLevels_kept (addressing_keptBy clock) matched
    rcases addressing.fills fill listed with before | new
    · cases before
    · exact new

end FifoMatcher

namespace OrderBook

variable {clock : Nat → Int64} {book : OrderBook} {result : CallResult}

theorem addressed_communicate {connection : ConnectionRef} {matched : MatchResult}
    (order : Order) (fills : ∀ fill ∈ matched.fills, fill.connection = connection) :
    Addressed connection (communicateMatchResults matched order) := by
  refine ⟨matched.fills.map (fun fill => .fill (fillAck fill order)), ?_⟩
  unfold communicateMatchResults
  generalize matched.fills = sent at fills
  induction sent with
  | nil => rfl
  | cons fill rest ih =>
      have here := fills fill List.mem_cons_self
      have later := ih (fun other listed => fills other (List.mem_cons_of_mem fill listed))
      rw [List.flatMap_cons, toClients_append, later, here]
      rfl

theorem restOrder_addressed {addSide : BookSide} {order rested : Order} {reading : Nat}
    {executions : List Execution} {emitted : List Emission} {connection : ConnectionRef}
    (addressed : Addressed connection emitted)
    (returned : restOrder clock book addSide order reading executions emitted =
      .ok (rested, result)) : Addressed connection result.emitted := by
  obtain ⟨placed, _places, done⟩ := bind_eq_ok returned
  cases done
  exact addressed_append addressed (addressed_silent connection rfl)

theorem addOrderTo_addressed {order rested : Order} {matchSide addSide : BookSide}
    (returned : addOrderTo clock book order matchSide addSide = .ok (rested, result)) :
    Addressed order.connection result.emitted := by
  unfold addOrderTo at returned
  split at returned
  · obtain ⟨matched, matches_, afterMatch⟩ := bind_eq_ok returned
    have told := addressed_communicate matched.order (FifoMatcher.fifoMatch_addressed matches_)
    simp only at afterMatch
    split at afterMatch
    · cases afterMatch
      exact told
    · exact restOrder_addressed told afterMatch
  · exact restOrder_addressed (addressed_silent order.connection rfl) returned

theorem addOrder_addressed {order rested : Order}
    (returned : book.addOrder clock order = .ok (rested, result)) :
    Addressed order.connection result.emitted := by
  unfold addOrder at returned
  split at returned
  · cases returned
    exact addressed_rejections order.connection order.common [.orderIdAlreadyPresent]
  · split at returned
    · exact addOrderTo_addressed returned
    · split at returned
      · exact addOrderTo_addressed returned
      · cases returned
        exact addressed_silent order.connection rfl

theorem cancelOrder_addressed {cancel : Info.CancelOrder}
    (returned : book.cancelOrder clock cancel = .ok result) :
    Addressed cancel.connection result.emitted := by
  unfold cancelOrder at returned
  split at returned
  · cases returned
    exact addressed_rejections cancel.connection cancel.toOrderCommon [.orderNotFound]
  · split at returned
    · cases returned
      exact addressed_rejections cancel.connection cancel.toOrderCommon [.wrongUserId]
    · obtain ⟨unlinked, _unlinks, done⟩ := bind_eq_ok returned
      cases done
      exact addressed_silent cancel.connection rfl

/-- The reasons of a modify that is refused. -/
def modifyReasons (wrongSide wrongUserId trivialModify : Bool) : List RejectionReason :=
  (if wrongSide then [.modifyWrongSide] else []) ++
    (if wrongUserId then [.wrongUserId] else []) ++
    (if trivialModify then [.modificationTrivial] else [])

theorem processModifyError_eq (wrongSide wrongUserId trivialModify : Bool)
    (modify : Info.ModifyOrder) :
    processModifyError wrongSide wrongUserId trivialModify modify =
      (modifyReasons wrongSide wrongUserId trivialModify).map
        (rejection modify.connection modify.toOrderCommon) := by
  cases wrongSide <;> cases wrongUserId <;> cases trivialModify <;> rfl

theorem modifyOrder_addressed {modify : Info.ModifyOrder}
    (returned : book.modifyOrder clock modify = .ok result) :
    Addressed modify.connection result.emitted := by
  unfold modifyOrder at returned
  split at returned
  · cases returned
    exact addressed_rejections modify.connection modify.toOrderCommon [.orderNotFound]
  · simp only at returned
    split at returned
    · cases returned
      rw [processModifyError_eq]
      exact addressed_rejections modify.connection modify.toOrderCommon _
    · split at returned
      · obtain ⟨order, _changes, done⟩ := bind_eq_ok returned
        cases done
        exact addressed_silent modify.connection rfl
      · obtain ⟨cancelled, cancels, rest⟩ := bind_eq_ok returned
        obtain ⟨⟨left, added⟩, adds, done⟩ := bind_eq_ok rest
        cases done
        exact addressed_append (cancelOrder_addressed cancels) (addOrder_addressed adds)

/-- A call tells no client but that of its request. -/
theorem call_addressed {request : Request} (returned : book.call request = .ok result) :
    Addressed request.connection result.emitted := by
  cases request with
  | add clock order =>
      obtain ⟨⟨left, added⟩, adds, same⟩ := map_eq_ok returned
      cases same
      exact addOrder_addressed adds
  | modify clock modify => exact modifyOrder_addressed returned
  | cancel clock cancel => exact cancelOrder_addressed returned

end OrderBook

/-! ### The answers to calls -/

/-- What follows the acknowledgement of a request that is made with such a quantity, where so much
remains of the orders that rest: the reasons for which it is refused, or the fills of its
executions. -/
inductive Replied (common : Info.OrderCommon) (remaining : OrderId → UInt32) (quantity : UInt32) :
    List Execution → List OrderEntryResponse → Prop
  | refused (reasons : List RejectionReason) (some : reasons ≠ []) (distinct : reasons.Nodup) :
      Replied common remaining quantity []
        (reasons.map (fun reason =>
          .rejection { orderCommon := common, rejectionResponse := reason }))
  | carriedOut {executions : List Execution} {fills : List OrderEntryFill} {left : UInt32}
      (reports : Reports common remaining quantity executions fills left) :
      Replied common remaining quantity executions (fills.map OrderEntryResponse.fill)

/-- The quantity that a request would trade. -/
def Request.quantity : Request → UInt32
  | .add _ order => order.currentQuantity
  | .modify _ changes => changes.quantity
  | .cancel _ _ => 0

namespace OrderBook

/-- What is left of the orders of the book but the one that a request is about. -/
def restingBeside (book : OrderBook) (common : Info.OrderCommon) (orderId : OrderId) : UInt32 :=
  if orderId = common.orderId then 0 else book.limitOrders.quantityOf orderId

/-- All responses go to the one connection, and they are such a reply. -/
def RepliesTo (connection : ConnectionRef) (common : Info.OrderCommon)
    (remaining : OrderId → UInt32) (quantity : UInt32) (result : CallResult) : Prop :=
  ∃ responses, toClients result.emitted =
      responses.map (fun response => (connection, response)) ∧
    Replied common remaining quantity result.executions responses

section Replies

variable {clock : Nat → Int64} {book : OrderBook} {connection : ConnectionRef}
  {common : Info.OrderCommon} {remaining : OrderId → UInt32} {quantity : UInt32}

theorem repliesTo_refused (book : OrderBook) {reasons : List RejectionReason}
    (some : reasons ≠ []) (distinct : reasons.Nodup) :
    RepliesTo connection common remaining quantity
      { book := book
        executions := []
        emitted := reasons.map (rejection connection common) } := by
  refine ⟨_, ?_, Replied.refused reasons some distinct⟩
  clear some distinct
  induction reasons with
  | nil => rfl
  | cons reason reasons ih => exact congrArg _ ih

theorem repliesTo_silent {emitted : List Emission} (book : OrderBook)
    (silent : toClients emitted = []) :
    RepliesTo connection common remaining quantity
      { book := book
        executions := []
        emitted := emitted } :=
  ⟨[], silent, Replied.carriedOut (Reports.nothing remaining quantity)⟩

theorem toClients_communicate (result : MatchResult) (order : Order) :
    toClients (communicateMatchResults result order) =
      (FifoMatcher.sentFills order result.fills).map (fun (connection, fill) =>
        (connection, OrderEntryResponse.fill fill)) := by
  unfold communicateMatchResults FifoMatcher.sentFills
  induction result.fills with
  | nil => rfl
  | cons fill fills ih =>
      rw [List.flatMap_cons, toClients_append, ih]
      rfl

theorem restOrder_replies {addSide : BookSide} {order rested : Order} {reading : Nat}
    {executions : List Execution} {emitted : List Emission} {result : CallResult}
    {responses : List OrderEntryResponse}
    (told : toClients emitted = responses.map (fun response => (connection, response)))
    (replied : Replied common remaining quantity executions responses)
    (returned : restOrder clock book addSide order reading executions emitted =
      .ok (rested, result)) : RepliesTo connection common remaining quantity result := by
  obtain ⟨placed, _places, done⟩ := bind_eq_ok returned
  cases done
  refine ⟨responses, ?_, replied⟩
  rw [toClients_append, told]
  exact List.append_nil _

theorem addOrderTo_replies {order rested : Order} {matchSide addSide : BookSide}
    {result : CallResult} (own : book.limitOrders.OwnIds)
    (returned : addOrderTo clock book order matchSide addSide = .ok (rested, result)) :
    RepliesTo order.connection order.common book.limitOrders.quantityOf order.currentQuantity
      result := by
  unfold addOrderTo at returned
  split at returned
  · obtain ⟨matched, matches_, afterMatch⟩ := bind_eq_ok returned
    obtain ⟨same, ⟨fills, sent, reports⟩, _begun⟩ := FifoMatcher.fifoMatch_reports own matches_
    have told : toClients (communicateMatchResults matched.matchResult matched.order) =
        (fills.map OrderEntryResponse.fill).map (fun response => (order.connection, response)) := by
      rw [toClients_communicate, same, FifoMatcher.sentFills_withQuantity, sent, List.map_map,
        List.map_map]
      rfl
    simp only at afterMatch
    split at afterMatch
    · cases afterMatch
      exact ⟨_, told, Replied.carriedOut reports⟩
    · exact restOrder_replies told (Replied.carriedOut reports) afterMatch
  · have nothing : Replied order.common book.limitOrders.quantityOf order.currentQuantity [] [] :=
      Replied.carriedOut (Reports.nothing _ order.currentQuantity)
    exact restOrder_replies rfl nothing returned

/-- A book does not hold an order that is accepted. -/
theorem restingBeside_of_absent (absent : book.limitOrders.lookup common.orderId = none) :
    book.restingBeside common = book.limitOrders.quantityOf := by
  funext orderId
  rw [restingBeside]
  split
  · rename_i same
    rw [same, LimitBook.quantityOf_of_absent absent]
  · rfl

theorem addOrder_replies {order rested : Order} {result : CallResult}
    (own : book.limitOrders.OwnIds)
    (returned : book.addOrder clock order = .ok (rested, result)) :
    RepliesTo order.connection order.common (book.restingBeside order.common)
      order.currentQuantity result := by
  unfold addOrder at returned
  split at returned
  · cases returned
    exact repliesTo_refused book (List.cons_ne_nil RejectionReason.orderIdAlreadyPresent [])
      (List.nodup_singleton _)
  · rename_i fresh
    rw [restingBeside_of_absent (Option.not_isSome_iff_eq_none.mp fresh)]
    split at returned
    · exact addOrderTo_replies own returned
    · split at returned
      · exact addOrderTo_replies own returned
      · cases returned
        exact repliesTo_silent book rfl

/-- The flags of a modify have different reasons. -/
theorem processModifyError_replies {wrongSide wrongUserId trivialModify : Bool}
    (book : OrderBook) (modify : Info.ModifyOrder)
    (flagged : (wrongSide || wrongUserId || trivialModify) = true) :
    RepliesTo modify.connection modify.toOrderCommon remaining quantity
      { book := book
        executions := []
        emitted := processModifyError wrongSide wrongUserId trivialModify modify } := by
  rw [processModifyError_eq]
  refine repliesTo_refused book ?_ ?_
  · intro none
    cases wrongSide <;> cases wrongUserId <;> cases trivialModify
    · cases flagged
    all_goals cases none
  · cases wrongSide <;> cases wrongUserId <;> cases trivialModify <;> decide

/-- Nothing is sent of a cancel that is done. -/
theorem cancelOrder_replies {cancel : Info.CancelOrder} {result : CallResult}
    (returned : book.cancelOrder clock cancel = .ok result) :
    RepliesTo cancel.connection cancel.toOrderCommon remaining quantity result := by
  unfold cancelOrder at returned
  split at returned
  · cases returned
    exact repliesTo_refused book (List.cons_ne_nil RejectionReason.orderNotFound [])
      (List.nodup_singleton _)
  · split at returned
    · cases returned
      exact repliesTo_refused book (List.cons_ne_nil RejectionReason.wrongUserId [])
        (List.nodup_singleton _)
    · obtain ⟨unlinked, _unlinks, done⟩ := bind_eq_ok returned
      cases done
      exact repliesTo_silent _ rfl

/-- Unlinking moves pointers only. -/
theorem unlinkLimit_quantityOf {limit : Limit} {after : OrderBook}
    (returned : book.unlinkLimit limit = .ok after) :
    after.limitOrders.quantityOf = book.limitOrders.quantityOf := by
  unfold unlinkLimit at returned
  split at returned
  · obtain ⟨first, relinksNext, rest⟩ := bind_eq_ok returned
    obtain ⟨second, relinksPrev, done⟩ := bind_eq_ok rest
    cases done
    exact (LimitBook.quantityOf_modify (fun limit => by rfl) relinksPrev).trans
      (LimitBook.quantityOf_modify (fun limit => by rfl) relinksNext)
  · split at returned
    · obtain ⟨moved, written, rest⟩ := bind_eq_ok returned
      obtain ⟨limits, relinks, done⟩ := bind_eq_ok rest
      cases done
      rw [writeLevel_limitOrders written] at relinks
      exact LimitBook.quantityOf_modify (fun limit => by rfl) relinks
    · split at returned
      · obtain ⟨moved, written, rest⟩ := bind_eq_ok returned
        obtain ⟨limits, relinks, done⟩ := bind_eq_ok rest
        cases done
        rw [writeLevel_limitOrders written] at relinks
        exact LimitBook.quantityOf_modify (fun limit => by rfl) relinks
      · split at returned
        · split at returned
          · cases returned
            rfl
          · cases returned
            rfl
        · cases returned
          rfl

/-- An order that is re-priced is taken out first. -/
theorem cancelOrder_resting {cancel : Info.CancelOrder} {limit : Limit} {cancelled : CallResult}
    (found : book.limitOrders.lookup cancel.orderId = some limit)
    (sameUser : limit.order.userId = cancel.userId)
    (cancels : book.cancelOrder clock cancel = .ok cancelled) :
    cancelled.book.limitOrders.quantityOf =
      book.restingBeside cancel.toOrderCommon := by
  unfold cancelOrder at cancels
  rw [found] at cancels
  simp only [sameUser, ne_eq, not_true_eq_false, if_false] at cancels
  obtain ⟨unlinked, unlinks, done⟩ := bind_eq_ok cancels
  cases done
  funext orderId
  change LimitBook.quantityOf (unlinked.limitOrders.erase cancel.orderId) orderId =
    if orderId = cancel.orderId then 0 else book.limitOrders.quantityOf orderId
  rw [LimitBook.quantityOf_erase, unlinkLimit_quantityOf unlinks]

theorem modifyOrder_replies {modify : Info.ModifyOrder} {result : CallResult}
    (own : book.limitOrders.OwnIds) (returned : book.modifyOrder clock modify = .ok result) :
    RepliesTo modify.connection modify.toOrderCommon (book.restingBeside modify.toOrderCommon)
      modify.quantity result := by
  unfold modifyOrder at returned
  split at returned
  · cases returned
    exact repliesTo_refused book (List.cons_ne_nil RejectionReason.orderNotFound [])
      (List.nodup_singleton _)
  · rename_i limit found
    simp only at returned
    split at returned
    · rename_i flagged
      cases returned
      exact processModifyError_replies book modify flagged
    · rename_i accepted
      simp only [Bool.or_eq_true, bne_iff_ne, not_or, not_not] at accepted
      split at returned
      · obtain ⟨order, _changes, done⟩ := bind_eq_ok returned
        cases done
        exact repliesTo_silent _ rfl
      · obtain ⟨cancelled, cancels, rest⟩ := bind_eq_ok returned
        obtain ⟨⟨left, added⟩, adds, done⟩ := bind_eq_ok rest
        cases done
        obtain ⟨_gone, _entries, emitted⟩ :=
          @cancelOrder_takes book clock (Info.CancelOrder.ofModify modify) limit cancelled found
            accepted.1.2 cancels
        have without := (cancelOrder_descends cancels).ownIds own
        have resting := cancelOrder_resting found accepted.1.2 cancels
        obtain ⟨responses, told, replied⟩ := addOrder_replies without adds
        have sameResting : cancelled.book.restingBeside (Order.ofModify modify).common =
            book.restingBeside modify.toOrderCommon := by
          funext orderId
          rw [restingBeside, resting]
          exact ite_eq_right_iff.mpr (fun same => (if_pos same).symm)
        rw [sameResting] at replied
        refine ⟨responses, ?_, replied⟩
        rw [toClients_append, emitted]
        exact told

/-- What every call that returns tells its client, and that it tells no other one. -/
theorem call_replies {request : Request} {result : CallResult} (own : book.limitOrders.OwnIds)
    (returned : book.call request = .ok result) :
    RepliesTo request.connection request.common (book.restingBeside request.common)
      request.quantity result := by
  cases request with
  | add clock order =>
      obtain ⟨⟨left, added⟩, adds, same⟩ := map_eq_ok returned
      cases same
      exact addOrder_replies own adds
  | modify clock modify => exact modifyOrder_replies own returned
  | cancel clock cancel => exact cancelOrder_replies returned

end Replies

end OrderBook

end Engine
end SpotExchange
