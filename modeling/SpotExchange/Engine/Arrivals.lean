/-
Which orders a call brings to the book, what it does to the ids on the lists, and
what it executes.
-/

import SpotExchange.Engine.Calls

namespace SpotExchange
namespace Engine

open Collections Allocation Machine

/-! ### Ids on the lists -/

theorem queueIn_cons_self (price : Price) (items : List Order) (rest : Queues) :
    queueIn ((price, items) :: rest) price = items := by
  simp [queueIn, OrderedMap.lookupIn]

theorem queueIn_cons_ne {price other : Price} (different : other ≠ price) (items : List Order)
    (rest : Queues) : queueIn ((price, items) :: rest) other = queueIn rest other := by
  simp [queueIn, OrderedMap.lookupIn, different]

theorem queueIn_of_absent {queues : Queues} {price : Price}
    (absent : price ∉ queues.map Prod.fst) : queueIn queues price = [] := by
  cases orders : queueIn queues price with
  | nil => rfl
  | cons order rest =>
      have present := mem_queueIn (orders ▸ List.mem_cons_self : order ∈ queueIn queues price)
      exact absurd (List.mem_map_of_mem (f := Prod.fst) present) absent

theorem orderIds_remaining_sublist (wanted : Nat) (items : List Order) :
    (orderIds (fillQueue orderAmount reduceOrder wanted items).remaining).Sublist
      (orderIds items) := by
  rw [orderIds_remaining]
  exact (kept_suffix wanted items).sublist.map Order.orderId

/-- A sweep leaves the list of a price as it is, or fills an order from it. -/
theorem queueIn_sweep (acceptable : Price → Bool) (wanted : Nat) {queues : Queues}
    (distinct : (queues.map Prod.fst).Nodup) (price : Price) :
    queueIn (sweep orderAmount reduceOrder acceptable wanted queues).levels price =
        queueIn queues price ∨
      ∃ part,
        queueIn (sweep orderAmount reduceOrder acceptable wanted queues).levels price =
            (fillQueue orderAmount reduceOrder part (queueIn queues price)).remaining ∧
          ∀ entry ∈ (fillQueue orderAmount reduceOrder part (queueIn queues price)).taken,
            entry ∈ (sweep orderAmount reduceOrder acceptable wanted queues).taken := by
  induction queues generalizing wanted with
  | nil => exact Or.inl rfl
  | cons queue rest ih =>
      obtain ⟨first, items⟩ := queue
      obtain ⟨absent, distinctRest⟩ := List.nodup_cons.mp distinct
      cases accepted : acceptable first with
      | false =>
          rw [sweep_refused rest accepted]
          exact Or.inl rfl
      | true =>
          by_cases stopped : (fillQueue orderAmount reduceOrder wanted items).left = 0
          · rw [sweep_stopped rest accepted stopped]
            by_cases here : price = first
            · subst here
              rw [queueIn_cons_self]
              refine Or.inr ⟨wanted, ?_, fun entry member => member⟩
              cases remaining : (fillQueue orderAmount reduceOrder wanted items).remaining with
              | nil => exact queueIn_of_absent absent
              | cons order others => exact queueIn_cons_self price _ rest
            · rw [queueIn_cons_ne here]
              unfold keepLevel
              split
              · exact Or.inl rfl
              · exact Or.inl (queueIn_cons_ne here _ rest)
          · rw [sweep_passed rest accepted stopped]
            by_cases here : price = first
            · subst here
              have gone : price ∉ (sweep orderAmount reduceOrder acceptable
                  (fillQueue orderAmount reduceOrder wanted items).left rest).levels.map
                    Prod.fst := fun member =>
                absent ((OrderBook.sweep_prices_sublist acceptable _ rest).mem member)
              rw [queueIn_cons_self]
              refine Or.inr ⟨wanted, ?_, fun entry member => List.mem_append_left _ member⟩
              rw [queueIn_of_absent gone, (fillQueue_short stopped).2.1]
            · rw [queueIn_cons_ne here]
              rcases ih (fillQueue orderAmount reduceOrder wanted items).left distinctRest with
                same | ⟨part, remains, executed⟩
              · exact Or.inl same
              · exact Or.inr ⟨part, remains,
                  fun entry member => List.mem_append_right _ (executed entry member)⟩

theorem queueIn_sweep_sublist (acceptable : Price → Bool) (wanted : Nat) {queues : Queues}
    (distinct : (queues.map Prod.fst).Nodup) (price : Price) :
    (orderIds (queueIn (sweep orderAmount reduceOrder acceptable wanted queues).levels
      price)).Sublist (orderIds (queueIn queues price)) := by
  rcases queueIn_sweep acceptable wanted distinct price with same | ⟨part, remains, _executed⟩
  · rw [same]
  · rw [remains]
    exact orderIds_remaining_sublist part (queueIn queues price)

namespace BookView

theorem orderIds_drop (view : BookView) (orderId : OrderId) (side : BookSide) (price : Price) :
    orderIds (view.drop orderId side price) =
      (orderIds (view side price)).filter (fun other => decide (other ≠ orderId)) := by
  unfold drop orderIds
  rw [List.filter_map]
  rfl

theorem orderIds_replace (view : BookView) (changed : Order) (side : BookSide) (price : Price) :
    orderIds (view.replace changed side price) = orderIds (view side price) := by
  unfold replace orderIds
  rw [List.map_map]
  refine List.map_congr_left ?_
  intro order _member
  by_cases same : order.orderId = changed.orderId
  · simp [same]
  · simp [same]

theorem orderIds_append_sublist (view : BookView) (placed : BookSide) (order : Order)
    (side : BookSide) (price : Price) :
    (orderIds (view.append placed order side price)).Sublist
      (orderIds (view side price) ++ [order.orderId]) := by
  unfold append
  split
  · rw [orderIds, List.map_append, List.map_singleton]
    exact List.Sublist.refl _
  · exact List.sublist_append_left _ _

end BookView

namespace OrderBook

variable {book : OrderBook} {request : Request} {result : CallResult}

theorem queueAt_sublist (wellFormed : book.WellFormed) (side : BookSide) (price : Price) :
    (book.queueAt side price).Sublist ((book.queuesOf side).flatMap Prod.snd) := by
  rw [← wellFormed.queueIn_queuesOf side price]
  cases orders : queueIn (book.queuesOf side) price with
  | nil => exact List.nil_sublist _
  | cons order rest =>
      have present := mem_queueIn
        (orders ▸ List.mem_cons_self : order ∈ queueIn (book.queuesOf side) price)
      rw [orders] at present
      obtain ⟨front, back, split⟩ := List.append_of_mem present
      rw [split, List.flatMap_append, List.flatMap_cons]
      exact (List.sublist_append_left _ _).trans (List.sublist_append_right _ _)

theorem swept_ids_sublist (wellFormed : book.WellFormed) (swept : BookSide) (order : Order)
    (side : BookSide) (price : Price) :
    (orderIds (BookView.swept book.queueAt swept
      (sweepOrders swept order (book.queuesOf swept)).levels side price)).Sublist
        (orderIds (book.queueAt side price)) := by
  unfold BookView.swept
  by_cases same : side = swept
  · subst same
    rw [if_pos rfl, ← wellFormed.queueIn_queuesOf side price]
    exact queueIn_sweep_sublist _ _ (queuesOf_prices_nodup book side) price
  · rw [if_neg same]

theorem arrived_ids_sublist (wellFormed : book.WellFormed) (added : BookSide) (order : Order)
    (side : BookSide) (price : Price) :
    (orderIds (BookView.arrived book.queueAt added order
      (sweepOrders added.opposite order (book.queuesOf added.opposite)) side price)).Sublist
        (orderIds (book.queueAt side price) ++ [order.orderId]) := by
  have fewer := swept_ids_sublist wellFormed added.opposite order side price
  unfold BookView.arrived
  split
  · exact fewer.trans (List.sublist_append_left _ _)
  · refine (BookView.orderIds_append_sublist _ added _ side price).trans ?_
    exact List.Sublist.append_right fewer _

/-! ### The order that a call brings -/

/-- The order that a call brings to the book: that of an accepted add, or of an accepted
modify that moves its order to another price. -/
def arriving (book : OrderBook) : Request → Option Order
  | .add clock order => if book.accepted (.add clock order) then some order else none
  | .modify clock modify =>
      if book.accepted (.modify clock modify) && book.repricing modify then
        some (Order.ofModify modify)
      else none
  | .cancel _ _ => none

theorem arriving_refused (refused : book.accepted request = false) :
    book.arriving request = none := by
  cases request <;> simp [arriving, refused]

theorem repricing_of_price {modify : Info.ModifyOrder} {limit : Limit}
    (found : book.limitOrders.lookup modify.orderId = some limit)
    (owner : limit.order.userId = modify.userId)
    (sameSide : limit.order.isBuySide = modify.isBuySide) :
    book.repricing modify = (modify.price != limit.order.price) := by
  simp [repricing, found, owner, sameSide]

/-- The ids that a call may leave on a list: those that were there, without the one that
arrives, which comes last. -/
def idsAfter (ids : List OrderId) : Option Order → List OrderId
  | none => ids
  | some order => ids.filter (fun other => decide (other ≠ order.orderId)) ++ [order.orderId]

theorem Effect.ids_sublist (wellFormed : book.WellFormed) (effect : Effect book request result)
    (side : BookSide) (price : Price) :
    (orderIds (result.book.queueAt side price)).Sublist
      (idsAfter (orderIds (book.queueAt side price)) (book.arriving request)) := by
  cases effect with
  | ignored _ _ refused sameBook _ _ =>
      rw [sameBook, arriving_refused refused]
      exact List.Sublist.refl _
  | added clock order _ added _ taken fresh _ arrives =>
      have outside : ∀ orderId ∈ orderIds (book.queueAt side price), orderId ≠ order.orderId := by
        intro orderId member same
        exact notMem_of_lookup_none wellFormed fresh side price (same ▸ member)
      have arrivesAs : book.arriving (.add clock order) = some order := if_pos taken
      rw [arrives.represents.queueAt_eq, arrivesAs, idsAfter, List.filter_eq_self.mpr
        (fun orderId member => decide_eq_true (outside orderId member))]
      exact arrived_ids_sublist wellFormed added order side price
  | cancelled clock cancel _ _ _ _ _ _ _ dropped =>
      rw [dropped.queueAt_eq, BookView.orderIds_drop]
      exact List.filter_sublist
  | changed clock modify limit order _ _ found owner sameSide samePrice _ _ _ replaced =>
      have stays : book.arriving (.modify clock modify) = none := by
        simp [arriving, repricing_of_price found owner sameSide, samePrice]
      rw [replaced.queueAt_eq, stays, BookView.orderIds_replace]
      exact List.Sublist.refl _
  | repriced clock modify limit added without left arrival _ taken found owner sameSide newPrice
      _ dropped _ arrives sameBook _ _ =>
      have moves : book.arriving (.modify clock modify) = some (Order.ofModify modify) := by
        simp [arriving, taken, repricing_of_price found owner sameSide, newPrice]
      have sublist := arrived_ids_sublist dropped.wellFormed added (Order.ofModify modify) side price
      rw [dropped.queueAt_eq, BookView.orderIds_drop, ← dropped.queueAt_eq] at sublist
      rw [sameBook, arrives.represents.queueAt_eq, moves, idsAfter]
      exact sublist

/-- An order that a call does not bring stays on its side and at its price. -/
theorem Effect.keeps_place (wellFormed : book.WellFormed) (effect : Effect book request result)
    {orderId : OrderId} {limit : Limit}
    (found : result.book.limitOrders.lookup orderId = some limit)
    (others : (book.arriving request).map Order.orderId ≠ some orderId) :
    ∃ old, book.limitOrders.lookup orderId = some old ∧
      old.order.isBuySide = limit.order.isBuySide ∧ old.order.price = limit.order.price := by
  have after := effect.wellFormed wellFormed
  obtain ⟨side, flag, member, sameId⟩ := after.flag_of_lookup found
  have inside : orderId ∈ idsAfter (orderIds (book.queueAt side limit.order.price))
      (book.arriving request) := by
    rw [← sameId]
    exact (effect.ids_sublist wellFormed side limit.order.price).mem (List.mem_map_of_mem member)
  have before : orderId ∈ orderIds (book.queueAt side limit.order.price) := by
    cases arrival : book.arriving request with
    | none =>
        rw [arrival] at inside
        exact inside
    | some order =>
        rw [arrival, idsAfter] at inside
        rw [arrival, Option.map_some] at others
        rcases List.mem_append.mp inside with old | new
        · exact (List.mem_filter.mp old).1
        · exact absurd (congrArg some (List.mem_singleton.mp new).symm) others
  obtain ⟨order, resting, same⟩ := List.mem_map.mp before
  obtain ⟨next, prev, stored⟩ := wellFormed.lookup resting
  obtain ⟨samePrice, sameFlag⟩ := wellFormed.belongs resting
  rw [same] at stored
  exact ⟨_, stored, sameFlag.trans flag.symm, samePrice⟩

/-- The order reaches the best price of the opposite side. -/
def reaches (book : OrderBook) (order : Order) : Bool :=
  if order.isBuySide = 1 then possibleMatches .asks (book.levels .asks) order
  else if order.isBuySide = 0 then possibleMatches .bids (book.levels .bids) order
  else false

theorem cleanArrival_unreached {order : Order} (unreached : reaches book order = false) :
    book.cleanArrival order = true := by
  unfold reaches at unreached
  unfold cleanArrival
  split
  · rename_i buys
    rw [if_pos buys] at unreached
    exact cleanSweep_unreached unreached
  · rename_i notBuys
    rw [if_neg notBuys] at unreached
    split
    · rename_i sells
      rw [if_pos sells] at unreached
      exact cleanSweep_unreached unreached
    · rfl

/-- Only the best price is compared. -/
theorem possibleMatches_congr {side : BookSide} {sidebook other : SideBook side}
    (sameBest : sidebook.begin? = other.begin?) (order : Order) :
    possibleMatches side sidebook order = possibleMatches side other order := by
  unfold possibleMatches
  rw [sameBest]
  cases other.begin? with
  | none => rfl
  | some best => cases side <;> rfl

theorem possibleMatches_unreached {side : BookSide} {order : Order}
    (flagged : order.isBuySide = side.flag) (unreached : reaches book order = false) :
    possibleMatches side.opposite (book.levels side.opposite) order = false := by
  unfold reaches at unreached
  cases side with
  | asks =>
      have zero : order.isBuySide = 0 := flagged
      rw [if_neg (by rw [zero]; decide), if_pos zero] at unreached
      exact unreached
  | bids =>
      have one : order.isBuySide = 1 := flagged
      rw [if_pos one] at unreached
      exact unreached

theorem arrival_view {clock : Nat → Int64} {side : BookSide} {order left : Order}
    (wellFormed : book.WellFormed) (flagged : order.isBuySide = side.flag)
    (unreached : reaches book order = false)
    (arrives : Arrived clock book side order
      (sweepOrders side.opposite order (book.queuesOf side.opposite)) left result) :
    result.book.queueAt = BookView.append book.queueAt side order := by
  rw [arrives.represents.queueAt_eq,
    sweepOrders_unreached (possibleMatches_unreached flagged unreached)]
  unfold BookView.arrived
  rw [if_neg Bool.false_ne_true, wellFormed.swept_self, withQuantity_amount]

end OrderBook

end Engine
end SpotExchange
