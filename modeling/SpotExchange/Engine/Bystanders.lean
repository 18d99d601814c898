/-
What a call does to the orders that it does not name: each stays as it is unless it
trades, and behind the same orders as before.
-/

import SpotExchange.Engine.Balance

namespace SpotExchange
namespace Engine

open Collections Allocation Machine

namespace OrderBook

/-! ### Orders on the lists after an arrival -/

section Arrival

variable {book : OrderBook}

theorem swept_origin (wellFormed : book.WellFormed) {swept side : BookSide} {order item : Order}
    {price : Price}
    (member : item ∈ BookView.swept book.queueAt swept
      (sweepOrders swept order (book.queuesOf swept)).levels side price) :
    ∃ old ∈ book.queueAt side price, ∃ quantity, item = old.withQuantity quantity := by
  unfold BookView.swept at member
  by_cases same : side = swept
  · subst same
    rw [if_pos rfl] at member
    rw [← wellFormed.queueIn_queuesOf side price]
    rcases queueIn_sweep (accepts side order.price) (orderAmount order)
      (queuesOf_prices_nodup book side) price with kept | ⟨part, remains, _executed⟩
    · have inside : item ∈ queueIn (book.queuesOf side) price := kept ▸ member
      exact ⟨item, inside, item.currentQuantity, rfl⟩
    · have inside : item ∈ (fillQueue orderAmount reduceOrder part
          (queueIn (book.queuesOf side) price)).remaining := remains ▸ member
      rcases fillQueue_remaining_origin inside with old | ⟨old, oldMember, given, reduced⟩
      · exact ⟨item, old, item.currentQuantity, rfl⟩
      · exact ⟨old, oldMember, _, reduced⟩
  · rw [if_neg same] at member
    exact ⟨item, member, item.currentQuantity, rfl⟩

theorem swept_untouched (wellFormed : book.WellFormed) {swept side : BookSide}
    {order item : Order} {price : Price} (member : item ∈ book.queueAt side price)
    (idle : ∀ entry ∈ (sweepOrders swept order (book.queuesOf swept)).taken, entry.1 ≠ item) :
    item ∈ BookView.swept book.queueAt swept
      (sweepOrders swept order (book.queuesOf swept)).levels side price := by
  unfold BookView.swept
  by_cases same : side = swept
  · subst same
    rw [if_pos rfl]
    rw [← wellFormed.queueIn_queuesOf side price] at member
    rcases queueIn_sweep (accepts side order.price) (orderAmount order)
      (queuesOf_prices_nodup book side) price with kept | ⟨part, remains, executed⟩
    · exact kept.symm ▸ member
    · have stays : item ∈ (fillQueue orderAmount reduceOrder part
          (queueIn (book.queuesOf side) price)).remaining := by
        refine (fillQueue_visited_or_remains part member).resolve_left ?_
        intro visited
        obtain ⟨entry, inside, here⟩ := List.mem_map.mp visited
        exact idle entry (executed entry inside) here
      exact remains.symm ▸ stays
  · rw [if_neg same]
    exact member

theorem arrived_cases {view : BookView} {added side : BookSide} {order item : Order}
    {price : Price} {result : SweepResult Price Order}
    (member : item ∈ BookView.arrived view added order result side price) :
    item ∈ BookView.swept view added.opposite result.levels side price ∨
      (price = order.price ∧ ∃ quantity, item = order.withQuantity quantity) := by
  unfold BookView.arrived at member
  split at member
  · exact Or.inl member
  · unfold BookView.append at member
    split at member
    · rename_i placed
      rcases List.mem_append.mp member with old | new
      · exact Or.inl old
      · exact Or.inr ⟨placed.2, _, List.mem_singleton.mp new⟩
    · exact Or.inl member

end Arrival

/-! ### Where the orders on the lists come from -/

section Origin

variable {book : OrderBook} {request : Request} {result : CallResult}

/-- An order that a call brings carries the ids and the connection of the call. -/
theorem arriving_common {order : Order} (arrives : book.arriving request = some order) :
    order.common = request.common ∧ order.connection = request.connection := by
  cases request with
  | add clock incoming =>
      simp only [arriving] at arrives
      split at arrives
      · rw [← Option.some.inj arrives]
        exact ⟨rfl, rfl⟩
      · cases arrives
  | modify clock modify =>
      simp only [arriving] at arrives
      split at arrives
      · rw [← Option.some.inj arrives]
        exact ⟨rfl, rfl⟩
      · cases arrives
  | cancel clock cancel => cases arrives

theorem Effect.unchanged_of_refused (effect : Effect book request result)
    (refused : book.accepted request = false) : result.book = book ∧ result.executions = [] := by
  cases effect with
  | ignored _ _ _ sameBook noTrade _ => exact ⟨sameBook, noTrade⟩
  | added _ _ _ _ _ taken _ _ _ =>
      rw [refused] at taken
      cases taken
  | cancelled _ _ _ _ taken _ _ _ _ _ =>
      rw [refused] at taken
      cases taken
  | changed _ _ _ _ _ taken _ _ _ _ _ _ _ _ =>
      rw [refused] at taken
      cases taken
  | repriced _ _ _ _ _ _ _ _ taken _ _ _ _ _ _ _ _ _ _ _ =>
      rw [refused] at taken
      cases taken

/-- A change in place keeps everything but the quantity. -/
theorem changed_order (wellFormed : book.WellFormed) {modify : Info.ModifyOrder} {limit : Limit}
    {order : Order} (found : book.limitOrders.lookup modify.orderId = some limit)
    (changes : modifyInPlace modify limit.order = .ok order) :
    ∃ quantity, order = limit.order.withQuantity quantity ∧ order.orderId = modify.orderId := by
  obtain ⟨quantity, changesTo⟩ := modifyInPlace_eq modify limit.order
  obtain ⟨_side, _flag, _member, own⟩ := wellFormed.flag_of_lookup found
  rw [changesTo] at changes
  rw [← Except.ok.inj changes]
  exact ⟨quantity, rfl, own⟩

/-- What rests after a call rested before, or is what the call brought, but for the
quantity. -/
theorem Effect.origin (wellFormed : book.WellFormed) (effect : Effect book request result)
    {side : BookSide} {price : Price} {item : Order}
    (member : item ∈ result.book.queueAt side price) :
    (∃ old ∈ book.queueAt side price, ∃ quantity, item = old.withQuantity quantity) ∨
      ∃ order quantity, book.arriving request = some order ∧
        item = order.withQuantity quantity := by
  cases effect with
  | ignored _ _ _ sameBook _ _ =>
      rw [sameBook] at member
      exact Or.inl ⟨item, member, item.currentQuantity, rfl⟩
  | added clock order _ added _ taken _ _ arrives =>
      have arrivesAs : book.arriving (.add clock order) = some order := if_pos taken
      rw [arrives.represents.queueAt_eq] at member
      rcases arrived_cases member with swept | ⟨_here, quantity, own⟩
      · exact Or.inl (swept_origin wellFormed swept)
      · exact Or.inr ⟨order, quantity, arrivesAs, own⟩
  | cancelled _ _ _ _ _ _ _ _ _ dropped =>
      rw [dropped.queueAt_eq] at member
      exact Or.inl ⟨item, (mem_drop.mp member).1, item.currentQuantity, rfl⟩
  | changed clock modify limit order _ _ found _ _ _ changes _ _ replaced =>
      obtain ⟨quantity, changesTo, sameId⟩ := changed_order wellFormed found changes
      rw [replaced.queueAt_eq] at member
      obtain ⟨old, oldMember, same⟩ := List.mem_map.mp member
      by_cases own : old.orderId = order.orderId
      · obtain ⟨_side, _flag, resting, limitId⟩ := wellFormed.flag_of_lookup found
        have sameOrder := (wellFormed.unique oldMember resting
          (own.trans (sameId.trans limitId.symm))).2.2
        rw [if_pos own] at same
        refine Or.inl ⟨old, oldMember, quantity, ?_⟩
        rw [← same, changesTo, sameOrder]
      · rw [if_neg own] at same
        rw [← same]
        exact Or.inl ⟨old, oldMember, old.currentQuantity, rfl⟩
  | repriced clock modify _ added without _ _ _ taken found owner sameSide newPrice _ dropped _
      arrives sameBook _ _ =>
      have moves : book.arriving (.modify clock modify) = some (Order.ofModify modify) := by
        simp [arriving, taken, repricing_of_price found owner sameSide, newPrice]
      rw [sameBook, arrives.represents.queueAt_eq] at member
      rcases arrived_cases member with swept | ⟨_here, quantity, own⟩
      · obtain ⟨old, oldMember, quantity, same⟩ := swept_origin dropped.wellFormed swept
        rw [dropped.queueAt_eq] at oldMember
        exact Or.inl ⟨old, (mem_drop.mp oldMember).1, quantity, same⟩
      · exact Or.inr ⟨_, quantity, moves, own⟩

/-- An order that the call does not name and that does not trade stays as it is. -/
theorem Effect.untouched (wellFormed : book.WellFormed) (effect : Effect book request result)
    {side : BookSide} {price : Price} {item : Order} (member : item ∈ book.queueAt side price)
    (other : item.orderId ≠ request.common.orderId)
    (idle : ∀ execution ∈ result.executions, execution.restingId ≠ item.orderId) :
    item ∈ result.book.queueAt side price := by
  cases effect with
  | ignored _ _ _ sameBook _ _ =>
      rw [sameBook]
      exact member
  | added clock order _ added _ _ _ _ arrives =>
      rw [arrives.represents.queueAt_eq]
      refine (mem_arrived_of_ne other).mpr (swept_untouched wellFormed member ?_)
      intro entry taken same
      have executed : executionOf order.orderId entry ∈ result.executions := by
        rw [arrives.executions]
        exact List.mem_map_of_mem taken
      exact idle _ executed (congrArg Order.orderId same)
  | cancelled _ _ _ _ _ _ _ _ _ dropped =>
      rw [dropped.queueAt_eq]
      exact mem_drop.mpr ⟨member, other⟩
  | changed clock modify limit order _ _ found _ _ _ changes _ _ replaced =>
      obtain ⟨_quantity, _changesTo, sameId⟩ := changed_order wellFormed found changes
      rw [replaced.queueAt_eq]
      refine (mem_replace_of_ne ?_).mpr member
      rw [sameId]
      exact other
  | repriced clock modify _ added without _ arrival _ _ _ _ _ _ _ dropped _ arrives sameBook
      executions _ =>
      have stays : item ∈ without.queueAt side price := by
        rw [dropped.queueAt_eq]
        exact mem_drop.mpr ⟨member, other⟩
      have incoming : item.orderId ≠ (Order.ofModify modify).orderId := other
      rw [sameBook, arrives.represents.queueAt_eq]
      refine (mem_arrived_of_ne incoming).mpr (swept_untouched dropped.wellFormed stays ?_)
      intro entry taken same
      have executed : executionOf (Order.ofModify modify).orderId entry ∈ result.executions := by
        rw [executions, arrives.executions]
        exact List.mem_map_of_mem taken
      exact idle _ executed (congrArg Order.orderId same)

/-! ### Places in line -/

theorem arrived_absent {side : BookSide} {price : Price} {order : Order} {added : BookSide}
    (wellFormed : book.WellFormed) (fresh : book.limitOrders.lookup order.orderId = none)
    (elsewhere : price ≠ order.price) :
    order.orderId ∉ orderIds (BookView.arrived book.queueAt added order
      (sweepOrders added.opposite order (book.queuesOf added.opposite)) side price) := by
  intro inside
  obtain ⟨item, member, sameId⟩ := List.mem_map.mp inside
  rcases arrived_cases member with swept | ⟨here, _own⟩
  · have there : item.orderId ∈ orderIds (BookView.swept book.queueAt added.opposite
        (sweepOrders added.opposite order (book.queuesOf added.opposite)).levels side price) :=
      List.mem_map_of_mem swept
    rw [sameId] at there
    exact swept_absent wellFormed (notMem_of_lookup_none wellFormed fresh) side price there
  · exact elsewhere here

/-- An order that a call brings comes to a list on which it was not. -/
theorem Effect.arrives_elsewhere (wellFormed : book.WellFormed)
    (effect : Effect book request result) {order : Order}
    (arriving : book.arriving request = some order) {side : BookSide} {price : Price}
    (before : order.orderId ∈ orderIds (book.queueAt side price)) :
    order.orderId ∉ orderIds (result.book.queueAt side price) := by
  cases effect with
  | ignored _ _ refused _ _ _ =>
      rw [arriving_refused refused] at arriving
      cases arriving
  | added clock incoming _ added _ taken fresh _ _ =>
      have incomes : book.arriving (.add clock incoming) = some incoming := if_pos taken
      rw [Option.some.inj (incomes.symm.trans arriving)] at fresh
      exact absurd before (notMem_of_lookup_none wellFormed fresh side price)
  | cancelled _ _ _ _ _ _ _ _ _ _ => cases arriving
  | changed clock modify _ _ _ _ found owner sameSide samePrice _ _ _ _ =>
      have stays : book.arriving (.modify clock modify) = none := by
        simp [OrderBook.arriving, repricing_of_price found owner sameSide, samePrice]
      rw [stays] at arriving
      cases arriving
  | repriced clock modify limit added without _ _ _ taken found owner sameSide newPrice _ dropped _
      arrives sameBook _ _ =>
      have moves : book.arriving (.modify clock modify) = some (Order.ofModify modify) := by
        simp [OrderBook.arriving, taken, repricing_of_price found owner sameSide, newPrice]
      rw [← Option.some.inj (moves.symm.trans arriving)] at before ⊢
      obtain ⟨old, member, sameId⟩ := List.mem_map.mp before
      obtain ⟨_side, _flag, resting, limitId⟩ := wellFormed.flag_of_lookup found
      have oldPrice : price = limit.order.price :=
        (wellFormed.unique member resting (sameId.trans limitId.symm)).2.1
      rw [sameBook, arrives.represents.queueAt_eq]
      refine arrived_absent dropped.wellFormed (lookup_dropped dropped) ?_
      rw [oldPrice]
      exact Ne.symm newPrice

theorem idsAfter_nodup {ids : List OrderId} (distinct : ids.Nodup) (arriving : Option Order) :
    (idsAfter ids arriving).Nodup := by
  cases arriving with
  | none => exact distinct
  | some order =>
      refine List.nodup_append.mpr ⟨distinct.filter _, List.nodup_singleton _, ?_⟩
      intro orderId member other last same
      have different := of_decide_eq_true (List.mem_filter.mp member).2
      exact different (same.trans (List.mem_singleton.mp last))

/-- Of the orders that are on a list after a call, those ahead of an order that the call
does not name are the ones that were ahead of it before. -/
theorem Effect.keeps_ahead (wellFormed : book.WellFormed) (effect : Effect book request result)
    {orderId other : OrderId} (unnamed : orderId ≠ request.common.orderId) {side : BookSide}
    {price : Price} (stays : orderId ∈ orderIds (result.book.queueAt side price))
    (otherStays : other ∈ orderIds (result.book.queueAt side price)) :
    Precedes (orderIds (result.book.queueAt side price)) other orderId ↔
      Precedes (orderIds (book.queueAt side price)) other orderId := by
  have inside := effect.ids_sublist wellFormed side price
  have distinct := idsAfter_nodup (wellFormed.distinct side price) (book.arriving request)
  cases arrival : book.arriving request with
  | none =>
      rw [arrival] at inside distinct
      exact ⟨fun ahead => ahead.mono inside, Precedes.of_sublist inside distinct otherStays stays⟩
  | some order =>
      have named : order.orderId = request.common.orderId :=
        congrArg Info.OrderCommon.orderId (arriving_common arrival).1
      have unlike : orderId ≠ order.orderId := named ▸ unnamed
      rw [arrival] at inside distinct
      constructor
      · intro ahead
        have among : Precedes (idsAfter (orderIds (book.queueAt side price)) (some order)) other
          orderId := ahead.mono inside
        exact (Precedes.of_concat among distinct unlike).mono List.filter_sublist
      · intro ahead
        have wasThere : other ∈ orderIds (book.queueAt side price) :=
          ahead.mem List.mem_cons_self
        have otherUnlike : other ≠ order.orderId := by
          intro same
          exact effect.arrives_elsewhere wellFormed arrival (same ▸ wasThere) (same ▸ otherStays)
        have kept : Precedes ((orderIds (book.queueAt side price)).filter
            (fun other => decide (other ≠ order.orderId))) other orderId :=
          ahead.filter (decide_eq_true otherUnlike) (decide_eq_true unlike)
        exact Precedes.of_sublist inside distinct otherStays stays
          (kept.mono (List.sublist_append_left _ _))

/-! ### Orders of other users -/

/-- The order is in the id map, and on the list of its side and price. -/
structure Rests (book : OrderBook) (orderId : OrderId) (order : Order) : Prop where
  entry : (book.limitOrders.lookup orderId).map Limit.order = some order
  listed : ∃ side, order.isBuySide = side.flag ∧
    orderId ∈ orderIds (book.queueAt side order.price)

theorem WellFormed.rests (wellFormed : book.WellFormed) {orderId : OrderId} {limit : Limit}
    (found : book.limitOrders.lookup orderId = some limit) : book.Rests orderId limit.order := by
  obtain ⟨side, flag, member, sameId⟩ := wellFormed.flag_of_lookup found
  refine ⟨by rw [found]; rfl, side, flag, ?_⟩
  rw [← sameId]
  exact List.mem_map_of_mem member

theorem WellFormed.rests_of_mem (wellFormed : book.WellFormed) {side : BookSide} {price : Price}
    {order : Order} (member : order ∈ book.queueAt side price) :
    book.Rests order.orderId order := by
  obtain ⟨next, prev, found⟩ := wellFormed.lookup member
  exact wellFormed.rests found

/-- An order is only changed by fills: its quantity goes down by what is executed for it;
it rests unchanged when nothing trades with it, and otherwise rests with another quantity
or not at all; and of the orders on its list afterwards, those ahead of it are the ones
that were ahead of it before. -/
structure ChangedByFillsOnly (book after : OrderBook) (executions : List Execution)
    (orderId : OrderId) (order : Order) : Prop where
  quantity : executedFor executions orderId + remainingIn after.limitOrders orderId =
    orderAmount order
  unfilled : (∀ execution ∈ executions, execution.restingId ≠ orderId) →
    after.Rests orderId order
  remains : ∀ limit, after.limitOrders.lookup orderId = some limit →
    after.Rests orderId limit.order ∧ ∃ left, limit.order = order.withQuantity left
  ahead : ∀ side price other, orderId ∈ orderIds (after.queueAt side price) →
    other ∈ orderIds (after.queueAt side price) →
    (Precedes (orderIds (after.queueAt side price)) other orderId ↔
      Precedes (orderIds (book.queueAt side price)) other orderId)

theorem WellFormed.unchanged (wellFormed : book.WellFormed) {orderId : OrderId} {limit : Limit}
    (found : book.limitOrders.lookup orderId = some limit) :
    ChangedByFillsOnly book book [] orderId limit.order where
  quantity := by
    rw [remainingIn_of_lookup found, executedFor_nil, Nat.zero_add]
  unfilled := fun _ => wellFormed.rests found
  remains := by
    intro stored foundAgain
    rw [found] at foundAgain
    rw [← Option.some.inj foundAgain]
    exact ⟨wellFormed.rests found, limit.order.currentQuantity, rfl⟩
  ahead := fun _side _price _other _stays _otherStays => Iff.rfl

theorem granted_unnamed {orderId : OrderId} (unnamed : orderId ≠ request.common.orderId) :
    book.granted request orderId = remainingIn book.limitOrders orderId := by
  cases request with
  | add clock order =>
      have other : orderId ≠ order.orderId := unnamed
      simp [granted, other]
  | modify clock modify =>
      have other : orderId ≠ modify.orderId := unnamed
      simp [granted, other]
  | cancel clock cancel =>
      have other : orderId ≠ cancel.orderId := unnamed
      simp [granted, other]

/-- A call that is accepted names no order of another user. -/
theorem accepted_unnamed (taken : book.accepted request = true)
    {orderId : OrderId} {limit : Limit} (found : book.limitOrders.lookup orderId = some limit)
    (foreign : limit.order.userId ≠ request.common.userId) :
    orderId ≠ request.common.orderId := by
  intro named
  rw [named] at found
  cases request with
  | add clock order =>
      have present : book.limitOrders.lookup order.orderId = some limit := found
      simp [accepted, present] at taken
  | modify clock modify =>
      have present : book.limitOrders.lookup modify.orderId = some limit := found
      simp only [accepted, present, Bool.and_eq_true, beq_iff_eq] at taken
      exact foreign taken.1.2
  | cancel clock cancel =>
      have present : book.limitOrders.lookup cancel.orderId = some limit := found
      simp only [accepted, present, beq_iff_eq] at taken
      exact foreign taken

/-- A call changes the orders of other users by fills only. -/
theorem Effect.foreign (wellFormed : book.WellFormed) (effect : Effect book request result)
    {orderId : OrderId} {limit : Limit} (found : book.limitOrders.lookup orderId = some limit)
    (foreign : limit.order.userId ≠ request.common.userId) :
    ChangedByFillsOnly book result.book result.executions orderId limit.order := by
  have after := effect.wellFormed wellFormed
  cases taken : book.accepted request with
  | false =>
      obtain ⟨sameBook, noTrade⟩ := effect.unchanged_of_refused taken
      rw [sameBook, noTrade]
      exact wellFormed.unchanged found
  | true =>
      have unnamed := accepted_unnamed taken found foreign
      obtain ⟨side, flag, member, sameId⟩ := wellFormed.flag_of_lookup found
      refine ⟨?_, ?_, ?_, ?_⟩
      · rw [effect.balance wellFormed, granted_unnamed unnamed, remainingIn_of_lookup found]
      · intro idle
        rw [← sameId] at unnamed idle ⊢
        exact after.rests_of_mem (effect.untouched wellFormed member unnamed idle)
      · intro stored storedFound
        refine ⟨after.rests storedFound, ?_⟩
        obtain ⟨_side, _flag, storedMember, storedId⟩ := after.flag_of_lookup storedFound
        rcases effect.origin wellFormed storedMember with
          ⟨old, oldMember, left, same⟩ | ⟨order, left, arrives, same⟩
        · have oldId : old.orderId = limit.order.orderId := by
            rw [sameId, ← storedId, same]
            rfl
          rw [same, (wellFormed.unique oldMember member oldId).2.2]
          exact ⟨left, rfl⟩
        · have named : order.orderId = request.common.orderId :=
            congrArg Info.OrderCommon.orderId (arriving_common arrives).1
          have own : orderId = order.orderId := by
            rw [← storedId, same]
            rfl
          exact absurd (own.trans named) unnamed
      · intro otherSide price other stays otherStays
        exact effect.keeps_ahead wellFormed unnamed stays otherStays

end Origin

end OrderBook

end Engine
end SpotExchange
