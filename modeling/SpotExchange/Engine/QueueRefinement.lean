/-
A book as a family of queues, one for each side and price: an order that crosses
nothing goes to the end of its queue, a cancelled order leaves its queue wherever it
stands. The maps, the levels and the links of a book are determined by its queues.
-/

import Mathlib.Data.Set.Card
import SpotExchange.Engine.Representation
import SpotExchange.Engine.Arrivals

namespace SpotExchange
namespace Engine

open Collections IntrusiveList Machine Wire

/-! ### Queues and their edits -/

namespace BookView

/-- The side on which an order rests. -/
def sideOf (order : Order) : BookSide := if order.isBuySide = 1 then .bids else .asks

/-- What a call that crosses nothing does to the queues. -/
def edit (view : BookView) : Request → BookView
  | .add _ order => view.append (sideOf order) order
  | .cancel _ cancel => view.drop cancel.orderId
  | .modify _ _ => view

theorem sideOf_flagged {order : Order} {side : BookSide} (flagged : order.isBuySide = side.flag) :
    sideOf order = side := by
  unfold sideOf
  rw [flagged]
  cases side <;> rfl

/-- An order that is added and dropped again leaves the queues as they were. -/
theorem drop_append {view : BookView} {side : BookSide} {order : Order}
    (absent : ∀ other price, order.orderId ∉ orderIds (view other price)) :
    (view.append side order).drop order.orderId = view := by
  funext other price
  unfold drop append
  split
  · rw [List.filter_append, OrderBook.drop_absent (absent other price),
      List.filter_cons_of_neg (by simp), List.filter_nil, List.append_nil]
  · exact OrderBook.drop_absent (absent other price)

end BookView

namespace OrderBook

/-- Books with the same maps, up to the order in which the id map keeps its entries. -/
structure SameBook (book other : OrderBook) : Prop where
  ticker : other.ticker = book.ticker
  levels : ∀ side, other.levels side = book.levels side
  limits : ∀ orderId, other.limitOrders.lookup orderId = book.limitOrders.lookup orderId

/-- The level that holds a list. -/
def levelOf (side : BookSide) (price : Price) (orders : List Order) : Option Level :=
  match orders with
  | [] => none
  | order :: rest =>
      some
        { head := headOf (order :: rest)
          tail := tailOf (order :: rest)
          isBuySide := side.flag
          price := price }

theorem levelOf_eq_none_iff {side : BookSide} {price : Price} {orders : List Order} :
    levelOf side price orders = none ↔ orders = [] := by
  cases orders <;> simp [levelOf]

namespace Represents

variable {book other : OrderBook} {view otherView : BookView}

theorem find?_eq (represents : book.Represents view) (side : BookSide) (price : Price) :
    (book.levels side).find? price = levelOf side price (view side price) := by
  cases found : (book.levels side).find? price with
  | none =>
      rw [represents.absent side price found]
      rfl
  | some level =>
      have held := represents.level side price level found
      have occupied := held.occupied
      obtain ⟨head, tail, flag, levelPrice⟩ := level
      have atHead : head = headOf (view side price) := held.atHead
      have atTail : tail = tailOf (view side price) := held.atTail
      have flagged : flag = side.flag := held.flagged
      have priced : levelPrice = price := held.priced
      subst atHead atTail flagged priced
      cases orders : view side levelPrice with
      | nil => exact absurd orders occupied
      | cons order rest => rfl

/-- The node of an order names its neighbours in its list. -/
theorem lookup_split (represents : book.Represents view) {side : BookSide} {price : Price}
    {front back : List Order} {order : Order} (split : view side price = front ++ order :: back) :
    book.limitOrders.lookup order.orderId =
      some (limitAt { side := side, price := price } order (headOf back) (tailOf front)) := by
  have occupied : view side price ≠ [] := by
    rw [split]
    exact List.append_ne_nil_of_right_ne_nil front (List.cons_ne_nil order back)
  obtain ⟨_level, _found, held⟩ := represents.levelHolds occupied
  have linked := held.linked
  rw [split] at linked
  exact ((Segment.append_iff front (order :: back)).mp linked).2.1

theorem lookup_absent (represents : book.Represents view) {orderId : OrderId}
    (absent : ∀ side price, orderId ∉ orderIds (view side price)) :
    book.limitOrders.lookup orderId = none := by
  cases found : book.limitOrders.lookup orderId with
  | none => rfl
  | some limit =>
      obtain ⟨side, price, member⟩ := represents.resting orderId limit found
      exact absurd member (absent side price)

/-- Two books have the same node for an id that stands on the same list in both. -/
theorem lookup_congr (represents : book.Represents view) (otherRepresents : other.Represents otherView)
    {side : BookSide} {price : Price} (same : otherView side price = view side price)
    {orderId : OrderId} (member : orderId ∈ orderIds (view side price)) :
    other.limitOrders.lookup orderId = book.limitOrders.lookup orderId := by
  obtain ⟨order, resting, sameId⟩ := List.mem_map.mp member
  obtain ⟨front, back, split⟩ := List.append_of_mem resting
  rw [← sameId, represents.lookup_split split, otherRepresents.lookup_split (same.trans split)]

/-- The maps of a book are determined by its lists. -/
theorem sameBook (represents : book.Represents view) (otherRepresents : other.Represents view)
    (ticker : other.ticker = book.ticker) : SameBook book other where
  ticker := ticker
  levels := by
    intro side
    apply OrderedMap.ext_find?
    intro price
    rw [represents.find?_eq, otherRepresents.find?_eq]
  limits := by
    intro orderId
    by_cases somewhere : ∃ side price, orderId ∈ orderIds (view side price)
    · obtain ⟨side, price, member⟩ := somewhere
      exact represents.lookup_congr otherRepresents rfl member
    · have absent : ∀ side price, orderId ∉ orderIds (view side price) :=
        fun side price member => somewhere ⟨side, price, member⟩
      rw [represents.lookup_absent absent, otherRepresents.lookup_absent absent]

end Represents

/-! ### What a book holds -/

theorem ncard_of_list {α : Type} {items : Set α} (listed : List α) (distinct : listed.Nodup)
    (same : ∀ item, item ∈ listed ↔ item ∈ items) : items.ncard = listed.length := by
  classical
  have equal : items = ((listed.toFinset : Finset α) : Set α) := by
    ext item
    rw [Finset.mem_coe, List.mem_toFinset]
    exact (same item).symm
  rw [equal, Set.ncard_coe_finset]
  exact List.toFinset_card_of_nodup distinct

/-- The maps agree with the queues: prices without orders have no level, the links lead
through a queue in both directions, and the counts are those of the queues. -/
structure HoldsQueues (book : OrderBook) : Prop where
  absent : ∀ side price, (book.levels side).find? price = none ↔ book.queueAt side price = []
  forward : ∀ side price level, (book.levels side).find? price = some level →
    listFrom book.limitOrders book.limitOrders.size level.head = .ok (book.queueAt side price)
  backward : ∀ side price level, (book.levels side).find? price = some level →
    listBack book.limitOrders book.limitOrders.size level.tail =
      .ok (book.queueAt side price).reverse
  numOrders : book.numOrders = Set.ncard { order | ∃ side price, order ∈ book.queueAt side price }
  numLevels : book.numLevels =
    Set.ncard { place : BookSide × Price | book.queueAt place.1 place.2 ≠ [] }

theorem WellFormed.numOrders_eq {book : OrderBook} (wellFormed : book.WellFormed) :
    book.numOrders = Set.ncard { order | ∃ side price, order ∈ book.queueAt side price } := by
  have injective : Set.InjOn Order.orderId
      { order | ∃ side price, order ∈ book.queueAt side price } := by
    rintro first ⟨side, price, member⟩ second ⟨otherSide, otherPrice, otherMember⟩ same
    exact (wellFormed.unique member otherMember same).2.2
  rw [← injective.ncard_image, ncard_of_list book.limitOrders.keys book.limitOrders.nodupKeys]
  · simp [numOrders, LimitBook.size, AList.keys, List.keys]
  · intro orderId
    rw [← AList.mem_keys, ← AList.lookup_isSome, Option.isSome_iff_exists]
    constructor
    · rintro ⟨limit, found⟩
      obtain ⟨side, _flag, member, sameId⟩ := wellFormed.flag_of_lookup found
      exact ⟨limit.order, ⟨side, limit.order.price, member⟩, sameId⟩
    · rintro ⟨order, ⟨side, price, member⟩, sameId⟩
      obtain ⟨next, prev, found⟩ := wellFormed.lookup member
      rw [sameId] at found
      exact ⟨_, found⟩

theorem WellFormed.numLevels_eq {book : OrderBook} (wellFormed : book.WellFormed) :
    book.numLevels =
      Set.ncard { place : BookSide × Price | book.queueAt place.1 place.2 ≠ [] } := by
  have pairs : ∀ side : BookSide,
      ((book.levels side).keys.map (fun price => (side, price))).Nodup := by
    intro side
    exact (book.levels side).keys_nodup.map (fun first second same => (Prod.mk.inj same).2)
  have distinct : ((book.levels .asks).keys.map (fun price => (BookSide.asks, price)) ++
      (book.levels .bids).keys.map (fun price => (BookSide.bids, price))).Nodup := by
    apply List.nodup_append.mpr
    refine ⟨pairs .asks, pairs .bids, ?_⟩
    intro first firstMember second secondMember same
    obtain ⟨price, _here, atAsks⟩ := List.mem_map.mp firstMember
    obtain ⟨other, _there, atBids⟩ := List.mem_map.mp secondMember
    rw [← atAsks, ← atBids] at same
    cases same
  rw [ncard_of_list _ distinct]
  · simp [numLevels, OrderedMap.size, OrderedMap.keys, levels]
  · rintro ⟨side, price⟩
    change _ ↔ book.queueAt side price ≠ []
    rw [List.mem_append, List.mem_map, List.mem_map, ← wellFormed.mem_keys_iff]
    constructor
    · rintro (⟨other, key, same⟩ | ⟨other, key, same⟩)
      · cases same
        exact key
      · cases same
        exact key
    · intro key
      cases side with
      | asks => exact Or.inl ⟨price, key, rfl⟩
      | bids => exact Or.inr ⟨price, key, rfl⟩

theorem WellFormed.holdsQueues {book : OrderBook} (wellFormed : book.WellFormed) :
    book.HoldsQueues where
  absent := by
    intro side price
    rw [wellFormed.find?_eq]
    exact levelOf_eq_none_iff
  forward := by
    intro side price level found
    have held := wellFormed.level side price level found
    rw [held.atHead]
    exact listFrom_chain held.linked (held.linked.length_le (wellFormed.distinct side price))
  backward := by
    intro side price level found
    have held := wellFormed.level side price level found
    rw [held.atTail]
    exact listBack_chain held.linked (held.linked.length_le (wellFormed.distinct side price))
  numOrders := wellFormed.numOrders_eq
  numLevels := wellFormed.numLevels_eq

/-! ### The ticker of a book -/

section Ticker

variable {book after : OrderBook} {clock : Nat → Int64}

theorem writeLevel_ticker {ptr : Option LevelPtr} {change : Level → Level}
    (returned : book.writeLevel ptr change = .ok after) : after.ticker = book.ticker := by
  unfold writeLevel at returned
  split at returned
  · cases returned
  · split at returned
    · cases returned
    · cases returned
      exact ticker_setLevels book _ _

theorem placeLimitInBookLevel_ticker {ptr : LevelPtr} {order : Order}
    (returned : book.placeLimitInBookLevel ptr order = .ok after) : after.ticker = book.ticker := by
  unfold placeLimitInBookLevel at returned
  split at returned
  · cases returned
  · obtain ⟨level, _read, placed⟩ := bind_eq_ok returned
    split at placed
    · have same := writeLevel_ticker placed
      exact same
    · obtain ⟨limits, _linked, written⟩ := bind_eq_ok placed
      have same := writeLevel_ticker written
      exact same

theorem placeOrderInBook_ticker {side : BookSide} {order : Order} {isBuySide : UInt8}
    (returned : book.placeOrderInBook side order isBuySide = .ok after) :
    after.ticker = book.ticker := by
  obtain ⟨sidebook, _made, placed⟩ := bind_eq_ok returned
  exact (placeLimitInBookLevel_ticker placed).trans (ticker_setLevels book side _)

theorem addOrder_ticker {order : Order} {result : Order × CallResult}
    (returned : addOrder clock book order = .ok result) :
    result.2.book.ticker = book.ticker := by
  have routed : ∀ {matchSide addSide : BookSide},
      addOrderTo clock book order matchSide addSide = .ok result →
        result.2.book.ticker = book.ticker := by
    intro matchSide addSide returned
    unfold addOrderTo at returned
    split at returned
    · obtain ⟨matched, _found, rest⟩ := bind_eq_ok returned
      split at rest
      · cases rest
        exact ticker_setLevels book matchSide matched.book
      · obtain ⟨placed, places, done⟩ := bind_eq_ok rest
        cases done
        have same := placeOrderInBook_ticker places
        exact same.trans (ticker_setLevels book matchSide matched.book)
    · obtain ⟨placed, places, done⟩ := bind_eq_ok returned
      cases done
      exact placeOrderInBook_ticker places
  unfold addOrder at returned
  split at returned
  · cases returned
    rfl
  · split at returned
    · exact routed returned
    · split at returned
      · exact routed returned
      · cases returned
        rfl

theorem unlinkLimit_ticker {limit : Limit} (returned : book.unlinkLimit limit = .ok after) :
    after.ticker = book.ticker := by
  unfold unlinkLimit at returned
  split at returned
  · obtain ⟨first, _next, rest⟩ := bind_eq_ok returned
    obtain ⟨second, _prev, done⟩ := bind_eq_ok rest
    cases done
    rfl
  · split at returned
    · obtain ⟨moved, written, rest⟩ := bind_eq_ok returned
      obtain ⟨limits, _next, done⟩ := bind_eq_ok rest
      cases done
      have same := writeLevel_ticker written
      exact same
    · split at returned
      · obtain ⟨moved, written, rest⟩ := bind_eq_ok returned
        obtain ⟨limits, _prev, done⟩ := bind_eq_ok rest
        cases done
        have same := writeLevel_ticker written
        exact same
      · split at returned
        · split at returned
          · cases returned
            rfl
          · cases returned
            rfl
        · cases returned
          rfl

theorem cancelOrder_ticker {cancel : Info.CancelOrder} {result : CallResult}
    (returned : cancelOrder clock book cancel = .ok result) : result.book.ticker = book.ticker := by
  unfold cancelOrder at returned
  split at returned
  · cases returned
    rfl
  · split at returned
    · cases returned
      rfl
    · obtain ⟨unlinked, unlinks, done⟩ := bind_eq_ok returned
      cases done
      have same := unlinkLimit_ticker unlinks
      exact same

/-- No call changes the ticker of a book. -/
theorem call_ticker {request : Request} {result : CallResult}
    (returned : book.call request = .ok result) : result.book.ticker = book.ticker := by
  cases request with
  | add clock order =>
      obtain ⟨added, adds, same⟩ := map_eq_ok returned
      rw [← same]
      exact addOrder_ticker adds
  | cancel clock cancel => exact cancelOrder_ticker returned
  | modify clock modify =>
      simp only [call, modifyOrder] at returned
      split at returned
      · cases returned
        rfl
      · split at returned
        · cases returned
          rfl
        · split at returned
          · obtain ⟨order, _changes, done⟩ := bind_eq_ok returned
            cases done
            rfl
          · obtain ⟨cancelled, cancels, rest⟩ := bind_eq_ok returned
            obtain ⟨added, adds, done⟩ := bind_eq_ok rest
            cases done
            exact (addOrder_ticker adds).trans (cancelOrder_ticker cancels)

end Ticker
/-! ### Calls that cross nothing -/

/-- An accepted add that reaches nothing, or a cancel by the owner. -/
def crossesNothing (book : OrderBook) : Request → Bool
  | .add clock order => book.accepted (.add clock order) && !book.reaches order
  | .cancel clock cancel => book.accepted (.cancel clock cancel)
  | .modify _ _ => false

theorem cleanRequest_of_crossesNothing {book : OrderBook} {request : Request}
    (quiet : book.crossesNothing request = true) : book.cleanRequest request = true := by
  cases request with
  | add clock order =>
      simp only [crossesNothing, Bool.and_eq_true, Bool.not_eq_true'] at quiet
      simp only [cleanRequest, Bool.or_eq_true]
      exact Or.inr (cleanArrival_unreached quiet.2)
  | modify clock modify => cases quiet
  | cancel clock cancel => rfl

/-- All but one list is as before, with its level and its nodes. -/
structure SameElsewhere (book after : OrderBook) (side : BookSide) (price : Price) : Prop where
  ticker : after.ticker = book.ticker
  queues : ∀ other otherPrice, ¬(other = side ∧ otherPrice = price) →
    after.queueAt other otherPrice = book.queueAt other otherPrice
  levels : ∀ other otherPrice, ¬(other = side ∧ otherPrice = price) →
    (after.levels other).find? otherPrice = (book.levels other).find? otherPrice
  limits : ∀ orderId, orderId ∉ orderIds (book.queueAt side price) →
    orderId ∉ orderIds (after.queueAt side price) →
    after.limitOrders.lookup orderId = book.limitOrders.lookup orderId

theorem sameElsewhere_of_queues {book after : OrderBook} {side : BookSide} {price : Price}
    (wellFormed : book.WellFormed) (afterWellFormed : after.WellFormed)
    (ticker : after.ticker = book.ticker)
    (queues : ∀ other otherPrice, ¬(other = side ∧ otherPrice = price) →
      after.queueAt other otherPrice = book.queueAt other otherPrice) :
    SameElsewhere book after side price where
  ticker := ticker
  queues := queues
  levels := by
    intro other otherPrice away
    rw [wellFormed.find?_eq, afterWellFormed.find?_eq, queues other otherPrice away]
  limits := by
    intro orderId notBefore notAfter
    by_cases somewhere : ∃ other otherPrice, orderId ∈ orderIds (book.queueAt other otherPrice)
    · obtain ⟨other, otherPrice, member⟩ := somewhere
      have away : ¬(other = side ∧ otherPrice = price) := by
        rintro ⟨sameSide, samePrice⟩
        rw [sameSide, samePrice] at member
        exact notBefore member
      exact wellFormed.lookup_congr afterWellFormed (queues other otherPrice away) member
    · have absent : ∀ other otherPrice, orderId ∉ orderIds (book.queueAt other otherPrice) :=
        fun other otherPrice member => somewhere ⟨other, otherPrice, member⟩
      have absentAfter : ∀ other otherPrice,
          orderId ∉ orderIds (after.queueAt other otherPrice) := by
        intro other otherPrice
        by_cases here : other = side ∧ otherPrice = price
        · rw [here.1, here.2]
          exact notAfter
        · rw [queues other otherPrice here]
          exact absent other otherPrice
      rw [wellFormed.lookup_absent absent, afterWellFormed.lookup_absent absentAfter]

/-- What a call that crosses nothing does to the one list it names. -/
inductive QueueEdit (book : OrderBook) : Request → CallResult → Prop
  | appended (clock : Nat → Int64) (order : Order) (side : BookSide) (result : CallResult)
      (flagged : order.isBuySide = side.flag)
      (atEnd : result.book.queueAt side order.price = book.queueAt side order.price ++ [order])
      (levelled : ∃ level, (result.book.levels side).find? order.price = some level ∧
        level.tail = some order.orderId)
      (elsewhere : SameElsewhere book result.book side order.price)
      (noTrade : result.executions = []) :
      QueueEdit book (.add clock order) result
  | deleted (clock : Nat → Int64) (cancel : Info.CancelOrder) (order : Order) (side : BookSide)
      (front back : List Order) (result : CallResult)
      (sameId : order.orderId = cancel.orderId)
      (owner : order.userId = cancel.userId)
      (before : book.queueAt side order.price = front ++ order :: back)
      (closed : result.book.queueAt side order.price = front ++ back)
      (erased : (result.book.levels side).find? order.price = none ↔ front ++ back = [])
      (elsewhere : SameElsewhere book result.book side order.price)
      (noTrade : result.executions = []) :
      QueueEdit book (.cancel clock cancel) result

section Edits

variable {book : OrderBook} {request : Request} {result : CallResult}

theorem Effect.queueEdit (wellFormed : book.WellFormed) (returned : book.call request = .ok result)
    (quiet : book.crossesNothing request = true) (effect : Effect book request result) :
    result.book.queueAt = BookView.edit book.queueAt request ∧ QueueEdit book request result := by
  have after := effect.wellFormed wellFormed
  have ticker := call_ticker returned
  cases effect with
  | ignored _ _ refused _ _ _ =>
      cases request <;> simp [crossesNothing, refused] at quiet
  | added clock order left side _ _taken fresh flagged arrives =>
      simp only [crossesNothing, Bool.and_eq_true, Bool.not_eq_true'] at quiet
      have queues := arrival_view wellFormed flagged quiet.2 arrives
      have noTrade : result.executions = [] := by
        rw [arrives.executions, sweepOrders_unreached (possibleMatches_unreached flagged quiet.2)]
        rfl
      constructor
      · rw [queues, BookView.edit, BookView.sideOf_flagged flagged]
      · have atEnd : result.book.queueAt side order.price =
            book.queueAt side order.price ++ [order] := by
          rw [queues, append_self]
        apply QueueEdit.appended clock order side result flagged atEnd _ _ noTrade
        · obtain ⟨level, found, held⟩ := after.levelHolds
            (atEnd ▸ List.append_ne_nil_of_right_ne_nil _ (List.cons_ne_nil order []))
          refine ⟨level, found, ?_⟩
          rw [held.atTail, atEnd, tailOf, last_concat]
        · apply sameElsewhere_of_queues wellFormed after ticker
          intro other price away
          rw [queues, append_away _ away]
  | cancelled clock cancel limit _ _taken found owner noTrade _ dropped =>
      obtain ⟨side, _flag, member, sameId⟩ := wellFormed.flag_of_lookup found
      obtain ⟨front, back, split⟩ := List.append_of_mem member
      have queues := dropped.queueAt_eq
      have distinct := wellFormed.distinct side limit.order.price
      rw [split] at distinct
      have closed : result.book.queueAt side limit.order.price = front ++ back := by
        rw [queues, BookView.drop, split, ← sameId]
        exact drop_around distinct
      constructor
      · exact queues
      · apply QueueEdit.deleted clock cancel limit.order side front back result sameId owner split
          closed _ _ noTrade
        · rw [after.find?_eq, closed]
          exact levelOf_eq_none_iff
        · apply sameElsewhere_of_queues wellFormed after ticker
          intro other price away
          rw [queues]
          apply drop_absent
          intro inside
          obtain ⟨twin, twinMember, twinSame⟩ := List.mem_map.mp inside
          have place := wellFormed.unique twinMember member (twinSame.trans sameId.symm)
          exact away ⟨place.1, place.2.1⟩
  | changed _ _ _ _ _ _ _ _ _ _ _ _ _ _ => cases quiet
  | repriced _ _ _ _ _ _ _ _ _ _ _ _ _ _ _ _ _ _ _ _ => cases quiet

/-- A call that crosses nothing returns, and edits the one list it names. -/
theorem call_edits (wellFormed : book.WellFormed) (quiet : book.crossesNothing request = true) :
    ∃ result, book.call request = .ok result ∧ result.book.WellFormed ∧
      result.book.queueAt = BookView.edit book.queueAt request ∧ QueueEdit book request result := by
  obtain ⟨result, returned, effect⟩ :=
    call_effect wellFormed (cleanRequest_of_crossesNothing quiet)
  obtain ⟨queues, edit⟩ := effect.queueEdit wellFormed returned quiet
  exact ⟨result, returned, effect.wellFormed wellFormed, queues, edit⟩

/-- An add that crosses nothing, followed by the cancel of its owner, restores the book. -/
theorem add_then_cancel (wellFormed : book.WellFormed) {clock : Nat → Int64} {order : Order}
    (quiet : book.crossesNothing (.add clock order) = true) {cancelClock : Nat → Int64}
    {cancel : Info.CancelOrder} (sameId : cancel.orderId = order.orderId)
    (owner : cancel.userId = order.userId) :
    ∃ restored, run step book [.add clock order, .cancel cancelClock cancel] = .ok restored ∧
      SameBook book restored := by
  obtain ⟨added, adds, addedWellFormed, queues, edit⟩ := call_edits wellFormed quiet
  have fresh : book.limitOrders.lookup order.orderId = none := by
    simp only [crossesNothing, accepted, Bool.and_eq_true, Option.isNone_iff_eq_none] at quiet
    exact quiet.1.1
  have absent := notMem_of_lookup_none wellFormed fresh
  have rests : ∃ side, order ∈ added.book.queueAt side order.price := by
    cases edit with
    | appended _ _ side _ _ atEnd _ _ _ =>
        refine ⟨side, ?_⟩
        rw [atEnd]
        exact List.mem_append_right _ List.mem_cons_self
  obtain ⟨side, member⟩ := rests
  obtain ⟨next, prev, stored⟩ := addedWellFormed.lookup member
  rw [← sameId] at stored
  have cancels : added.book.crossesNothing (.cancel cancelClock cancel) = true := by
    simp only [crossesNothing, accepted, stored, limitAt_order, owner, beq_self_eq_true]
  obtain ⟨result, returned, restored, restoredQueues, _edit⟩ := call_edits addedWellFormed cancels
  refine ⟨result.book, ?_, ?_⟩
  · simp only [run, step_of_call adds, step_of_call returned]
  · apply Represents.sameBook wellFormed _ ((call_ticker returned).trans (call_ticker adds))
    have back : result.book.queueAt = book.queueAt := by
      rw [restoredQueues, queues, BookView.edit, BookView.edit, sameId]
      exact BookView.drop_append absent
    rw [← back]
    exact restored

end Edits

/-- Along every run of calls that cross nothing, each call edits the one list it names, the
queues are those of the edits, the maps agree with them, and an add that is cancelled
leaves no trace. -/
theorem run_refines_queues (book : OrderBook) (wellFormed : book.WellFormed)
    (requests : List Request)
    (quiet : Guarded step (fun book request => book.crossesNothing request = true) book requests) :
    ∃ after, run step book requests = .ok after ∧
      after.queueAt = requests.foldl BookView.edit book.queueAt ∧
      after.HoldsQueues ∧
      (∀ earlier request later, requests = earlier ++ request :: later →
        ∃ here result, run step book earlier = .ok here ∧ here.call request = .ok result ∧
          QueueEdit here request result) ∧
      ∀ clock order cancelClock cancel, after.crossesNothing (.add clock order) = true →
        cancel.orderId = order.orderId → cancel.userId = order.userId →
        ∃ restored, run step after [.add clock order, .cancel cancelClock cancel] = .ok restored ∧
          SameBook after restored := by
  have simulates : ∀ (here : OrderBook) (request : Request), here.WellFormed →
      here.crossesNothing request = true →
      ∃ next, here.step request = .ok next ∧ next.WellFormed ∧
        next.queueAt = BookView.edit here.queueAt request := by
    intro here request good quietHere
    obtain ⟨result, returned, next, queues, _edit⟩ := call_edits good quietHere
    exact ⟨result.book, step_of_call returned, next, queues⟩
  obtain ⟨after, reached, afterWellFormed, queues⟩ := Guarded.refines simulates wellFormed quiet
  refine ⟨after, reached, queues, afterWellFormed.holdsQueues, ?_, ?_⟩
  · intro earlier request later split
    rw [split] at quiet
    have returns : ∀ (here : OrderBook) (request : Request), here.WellFormed →
        here.crossesNothing request = true → ∃ next, here.step request = .ok next ∧ next.WellFormed := by
      intro here request good quietHere
      obtain ⟨next, taken, goodNext, _queues⟩ := simulates here request good quietHere
      exact ⟨next, taken, goodNext⟩
    obtain ⟨here, reachedHere, good, quietHere⟩ := Guarded.each returns wellFormed quiet
    obtain ⟨result, returned, _after, _queues, edit⟩ := call_edits good quietHere
    exact ⟨here, result, reachedHere, returned, edit⟩
  · intro clock order cancelClock cancel quietAdd sameId owner
    exact add_then_cancel afterWellFormed quietAdd sameId owner

/-- Three bids and an offer; the middle bid is cancelled. -/
def quietRun : List Request :=
  [.add (fun _ => 0) (Order.create 1 1 100 10 { orderId := 1, userId := 1, ticker := 1 }),
    .add (fun _ => 0) (Order.create 1 2 100 5 { orderId := 2, userId := 2, ticker := 1 }),
    .add (fun _ => 0) (Order.create 0 3 105 4 { orderId := 3, userId := 3, ticker := 1 }),
    .add (fun _ => 0) (Order.create 1 1 100 7 { orderId := 4, userId := 1, ticker := 1 }),
    .cancel (fun _ => 0)
      { orderId := 2
        userId := 2
        ticker := 1
        connection := 2 }]

theorem quietRun_refines_queues :
    ∃ after, run step (empty 1) quietRun = .ok after ∧
      after.queueAt = quietRun.foldl BookView.edit (empty 1).queueAt ∧ after.HoldsQueues := by
  obtain ⟨after, reached, queues, holds, _edits, _restores⟩ :=
    run_refines_queues (empty 1) (empty_wellFormed 1) quietRun (by decide +kernel)
  exact ⟨after, reached, queues, holds⟩

end OrderBook

end Engine
end SpotExchange
