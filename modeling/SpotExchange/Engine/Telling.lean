/-
What the market data of a call tells of the orders. An order that comes in is told of by its
fills, all of them under its own id, and by what rests of it; a resting order that is filled is
not told of. Nothing is assumed of the levels and the links.
-/

import SpotExchange.Engine.Fading

namespace SpotExchange
namespace Engine

open Collections Machine Wire

namespace OrderBook

open LimitBook

variable {book : OrderBook} {clock : Nat → Int64}

/-! ### Messages -/

theorem marketDataOf_append (front back : List Emission) :
    marketDataOf (front ++ back) = marketDataOf front ++ marketDataOf back := by
  induction front with
  | nil => rfl
  | cons emission rest ih =>
      cases emission with
      | toClient connection response => exact ih
      | marketData message => exact congrArg (message :: ·) ih

/-- The fills that are told of an order. -/
def fillAcks (result : MatchResult) (order : Order) : List OrderEntryFill :=
  result.fills.map (fun fill => fillAck fill order)

theorem marketDataOf_communicateMatchResults (result : MatchResult) (order : Order) :
    marketDataOf (communicateMatchResults result order) =
      (fillAcks result order).map MarketDataResponse.fill := by
  unfold communicateMatchResults fillAcks
  induction result.fills with
  | nil => rfl
  | cons fill rest ih =>
      rw [List.flatMap_cons, marketDataOf_append, ih]
      rfl

theorem fillAcks_common (result : MatchResult) (order : Order) :
    ∀ fill ∈ fillAcks result order, fill.statusCommon = order.common := by
  intro fill member
  obtain ⟨_performed, _present, same⟩ := List.mem_map.mp member
  rw [← same]
  rfl

/-! ### What is told of an order that comes in -/

/-- Either nothing of the order rests, or what rests of it is announced. No other order comes to
rest, and none has more than it had. Where nothing trades, nothing else changes. -/
inductive ArrivalTold (limits : LimitBook) (order : Order) (after : LimitBook)
    (executions : List Execution) (told : List MarketDataResponse) : Prop
  | used (fills : List OrderEntryFill) (own : ∀ fill ∈ fills, fill.statusCommon = order.common)
      (entries : Inherits Order.Faded limits after)
      (untraded : executions = [] → AgreeBut order.orderId limits after)
      (messages : told = fills.map MarketDataResponse.fill)
  | rests (fills : List OrderEntryFill) (own : ∀ fill ∈ fills, fill.statusCommon = order.common)
      (timestamp : UInt64) (left : Order) (faded : Order.Faded order left)
      (nonzero : left = order ∨ left.currentQuantity ≠ 0)
      (here : ∃ limit, after.lookup order.orderId = some limit ∧ limit.order = left)
      (others : ∀ orderId limit, after.lookup orderId = some limit → orderId ≠ order.orderId →
        ∃ old, limits.lookup orderId = some old ∧ Order.Faded old.order limit.order)
      (untraded : executions = [] → left = order ∧ AgreeBut order.orderId limits after)
      (messages : told = fills.map MarketDataResponse.fill ++
        [.add
          { timestamp := timestamp
            orderId := order.orderId
            ticker := order.ticker
            price := order.price
            quantity := left.currentQuantity
            isBuySide := order.isBuySide != 0 }])

section Arrivals

variable {order left : Order} {result : CallResult}

theorem placeLimitInBookLevel_agrees {ptr : LevelPtr} {after : OrderBook}
    (returned : book.placeLimitInBookLevel ptr order = .ok after) :
    AgreeBut order.orderId book.limitOrders after.limitOrders := by
  have start := AgreeBut.refl order.orderId book.limitOrders
  unfold placeLimitInBookLevel at returned
  split at returned
  · cases returned
  · obtain ⟨level, _read, written⟩ := bind_eq_ok returned
    split at written
    · rw [writeLevel_limitOrders written]
      exact start.insert _
    · obtain ⟨limits, links, writtenTail⟩ := bind_eq_ok written
      rw [writeLevel_limitOrders writtenTail]
      apply AgreeBut.modify (start.insert _) _ links
      intro limit
      rfl

theorem placeOrderInBook_agrees {side : BookSide} {isBuySide : UInt8} {after : OrderBook}
    (returned : book.placeOrderInBook side order isBuySide = .ok after) :
    AgreeBut order.orderId book.limitOrders after.limitOrders := by
  obtain ⟨sidebook, _got, places⟩ := bind_eq_ok returned
  have agrees := placeLimitInBookLevel_agrees places
  rw [limitOrders_setLevels] at agrees
  exact agrees

theorem restOrder_told {addSide : BookSide} {reading : Nat} {executions : List Execution}
    {matched : MatchResult} {after : OrderBook} {limits : LimitBook}
    (entries : Inherits Order.Faded limits after.limitOrders) (faded : Order.Faded order left)
    (nonzero : left = order ∨ left.currentQuantity ≠ 0)
    (untraded : executions = [] → after.limitOrders = limits ∧ left = order)
    (returned : after.restOrder clock addSide left reading executions
      (communicateMatchResults matched left) = .ok (left, result)) :
    ArrivalTold limits order result.book.limitOrders result.executions
      (marketDataOf result.emitted) := by
  obtain ⟨placed, places, done⟩ := bind_eq_ok returned
  cases done
  have placedHere := placeOrderInBook_placed places
  have own := fillAcks_common matched left
  have sameId : left.orderId = order.orderId := faded.kept Order.orderId (fun _ => rfl)
  have sameCommon : left.common = order.common := faded.kept Order.common (fun _ => rfl)
  have sameTicker : left.ticker = order.ticker := faded.kept Order.ticker (fun _ => rfl)
  have samePrice : left.price = order.price := faded.kept Order.price (fun _ => rfl)
  have sameSide : left.isBuySide = order.isBuySide := faded.kept Order.isBuySide (fun _ => rfl)
  rw [sameCommon] at own
  refine ArrivalTold.rests (fillAcks matched left) own (clock reading).toUInt64 left faded nonzero
    ?_ ?_ ?_ ?_
  · rw [← sameId]
    exact placedHere.here
  · intro orderId limit found different
    rw [← sameId] at different
    obtain ⟨middle, stored, same⟩ := placedHere.others orderId limit found different
    rw [same]
    exact entries orderId middle stored
  · intro none
    obtain ⟨sameLimits, sameOrder⟩ := untraded none
    have agrees := placeOrderInBook_agrees places
    rw [sameLimits, sameOrder] at agrees
    exact ⟨sameOrder, agrees⟩
  · rw [marketDataOf_append, marketDataOf_communicateMatchResults, ← sameId, ← sameTicker,
      ← samePrice, ← sameSide]
    rfl

theorem addOrderTo_told {matchSide addSide : BookSide}
    (returned : addOrderTo clock book order matchSide addSide = .ok (left, result)) :
    ArrivalTold book.limitOrders order result.book.limitOrders result.executions
      (marketDataOf result.emitted) := by
  unfold addOrderTo at returned
  split at returned
  · obtain ⟨matched, matching, rest⟩ := bind_eq_ok returned
    obtain ⟨entries, faded⟩ := FifoMatcher.fifoMatch_fades matching
    split at rest
    · cases rest
      have own := fillAcks_common matched.matchResult matched.order
      have sameCommon : matched.order.common = order.common :=
        faded.kept Order.common (fun _ => rfl)
      rw [sameCommon] at own
      refine ArrivalTold.used _ own entries ?_ (marketDataOf_communicateMatchResults _ _)
      intro untraded
      obtain ⟨sameLimits, _sameOrder⟩ := FifoMatcher.fifoMatch_idle matching untraded
      exact sameLimits ▸ AgreeBut.refl _ _
    · rename_i some
      have isLeft : matched.order = left := by
        obtain ⟨placed, _places, done⟩ := bind_eq_ok rest
        cases done
        rfl
      rw [isLeft] at faded some rest
      refine restOrder_told entries faded (Or.inr ?_) ?_ rest
      · rw [beq_iff_eq] at some
        exact some
      · intro untraded
        rw [← isLeft]
        exact FifoMatcher.fifoMatch_idle matching untraded
  · have isLeft : order = left := by
      obtain ⟨placed, _places, done⟩ := bind_eq_ok returned
      cases done
      rfl
    subst isLeft
    exact @restOrder_told clock order order result addSide 0 [] MatchResult.empty book
      book.limitOrders (Inherits.refl Order.Faded.refl _) (Order.Faded.refl order) (Or.inl rfl)
      (fun _none => ⟨rfl, rfl⟩) returned

/-- An order that is not refused for its id. -/
theorem addOrder_told (fresh : book.limitOrders.lookup order.orderId = none)
    (returned : addOrder clock book order = .ok (left, result)) :
    ArrivalTold book.limitOrders order result.book.limitOrders result.executions
      (marketDataOf result.emitted) := by
  unfold addOrder at returned
  rw [fresh, if_neg (by simp)] at returned
  split at returned
  · exact addOrderTo_told returned
  · split at returned
    · exact addOrderTo_told returned
    · cases returned
      refine ArrivalTold.used [] ?_ (Inherits.refl Order.Faded.refl _)
        (fun _none => AgreeBut.refl _ _) rfl
      intro fill member
      cases member

end Arrivals

/-! ### What is told of a call -/

inductive Tells (book : OrderBook) : Request → CallResult → Prop
  | nothing (request : Request) (result : CallResult) (sameBook : result.book = book)
      (silent : marketDataOf result.emitted = []) : Tells book request result
  | arrives (clock : Nat → Int64) (order : Order) (result : CallResult)
      (fresh : book.limitOrders.lookup order.orderId = none)
      (told : ArrivalTold book.limitOrders order result.book.limitOrders result.executions
        (marketDataOf result.emitted)) : Tells book (.add clock order) result
  | cancels (clock : Nat → Int64) (cancel : Info.CancelOrder) (limit : Limit)
      (result : CallResult) (found : book.limitOrders.lookup cancel.orderId = some limit)
      (gone : result.book.limitOrders.lookup cancel.orderId = none)
      (entries : AgreeBut cancel.orderId book.limitOrders result.book.limitOrders)
      (messages : marketDataOf result.emitted =
        [.cancel
          { timestamp := (clock 0).toUInt64
            orderId := cancel.orderId }]) : Tells book (.cancel clock cancel) result
  | changes (clock : Nat → Int64) (modify : Info.ModifyOrder) (limit : Limit) (order : Order)
      (result : CallResult) (found : book.limitOrders.lookup modify.orderId = some limit)
      (samePrice : modify.price = limit.order.price)
      (sameSide : limit.order.isBuySide = modify.isBuySide)
      (changed : modifyInPlace modify limit.order = .ok order)
      (written : result.book.limitOrders =
        book.limitOrders.insert modify.orderId { limit with order := order })
      (messages : marketDataOf result.emitted =
        [.mod
          { timestamp := 0
            orderId := modify.orderId
            quantity := modify.quantity }]) : Tells book (.modify clock modify) result
  | reprices (clock : Nat → Int64) (modify : Info.ModifyOrder) (limit : Limit)
      (result : CallResult) (without : LimitBook) (told : List MarketDataResponse)
      (found : book.limitOrders.lookup modify.orderId = some limit)
      (newPrice : modify.price ≠ limit.order.price)
      (gone : without.lookup modify.orderId = none)
      (entries : AgreeBut modify.orderId book.limitOrders without)
      (arrival : ArrivalTold without (Order.ofModify modify) result.book.limitOrders
        result.executions told)
      (messages : marketDataOf result.emitted =
        .cancel
          { timestamp := (clock 0).toUInt64
            orderId := modify.orderId } :: told) : Tells book (.modify clock modify) result

theorem unlinkLimit_agrees {limit : Limit} {after : OrderBook} (removed : OrderId)
    (returned : book.unlinkLimit limit = .ok after) :
    AgreeBut removed book.limitOrders after.limitOrders := by
  have start := AgreeBut.refl removed book.limitOrders
  unfold unlinkLimit at returned
  split at returned
  · obtain ⟨first, relinksNext, rest⟩ := bind_eq_ok returned
    obtain ⟨second, relinksPrev, done⟩ := bind_eq_ok rest
    cases done
    apply AgreeBut.modify _ _ relinksPrev
    · apply start.modify _ relinksNext
      intro limit
      rfl
    · intro limit
      rfl
  · split at returned
    · obtain ⟨moved, written, rest⟩ := bind_eq_ok returned
      obtain ⟨limits, relinks, done⟩ := bind_eq_ok rest
      cases done
      rw [writeLevel_limitOrders written] at relinks
      apply start.modify _ relinks
      intro limit
      rfl
    · split at returned
      · obtain ⟨moved, written, rest⟩ := bind_eq_ok returned
        obtain ⟨limits, relinks, done⟩ := bind_eq_ok rest
        cases done
        rw [writeLevel_limitOrders written] at relinks
        apply start.modify _ relinks
        intro limit
        rfl
      · split at returned
        · split at returned
          · cases returned
            exact start
          · cases returned
            exact start
        · cases returned
          exact start

/-- A cancel by the owner takes the entry out and changes no other. -/
theorem cancelOrder_takes {cancel : Info.CancelOrder} {limit : Limit} {result : CallResult}
    (found : book.limitOrders.lookup cancel.orderId = some limit)
    (owner : limit.order.userId = cancel.userId)
    (returned : cancelOrder clock book cancel = .ok result) :
    result.book.limitOrders.lookup cancel.orderId = none ∧
      AgreeBut cancel.orderId book.limitOrders result.book.limitOrders ∧
      result.emitted = [sendOrderCancelledToDispatcher clock 0 cancel] := by
  unfold cancelOrder at returned
  simp only [found] at returned
  rw [if_neg (not_not.mpr owner)] at returned
  obtain ⟨unlinked, unlinks, done⟩ := bind_eq_ok returned
  cases done
  exact ⟨AList.lookup_erase _ _, (unlinkLimit_agrees _ unlinks).erase, rfl⟩

/-- The market data of every call that returns. -/
theorem call_tells {request : Request} {result : CallResult}
    (returned : book.call request = .ok result) : Tells book request result := by
  cases request with
  | add clock order =>
      obtain ⟨⟨left, added⟩, adds, same⟩ := map_eq_ok returned
      cases same
      cases found : book.limitOrders.lookup order.orderId with
      | none => exact Tells.arrives clock order added found (addOrder_told found adds)
      | some limit =>
          unfold addOrder at adds
          rw [found, if_pos Option.isSome_some] at adds
          cases adds
          exact Tells.nothing _ _ rfl rfl
  | cancel clock cancel =>
      cases found : book.limitOrders.lookup cancel.orderId with
      | none =>
          simp only [call, cancelOrder, found] at returned
          cases returned
          exact Tells.nothing _ _ rfl rfl
      | some limit =>
          by_cases owner : limit.order.userId = cancel.userId
          · obtain ⟨gone, entries, emitted⟩ := cancelOrder_takes found owner returned
            refine Tells.cancels clock cancel limit result found gone entries ?_
            rw [emitted]
            rfl
          · simp only [call, cancelOrder, found] at returned
            rw [if_pos owner] at returned
            cases returned
            exact Tells.nothing _ _ rfl rfl
  | modify clock modify =>
      simp only [call, modifyOrder] at returned
      split at returned
      · cases returned
        exact Tells.nothing _ _ rfl rfl
      · rename_i limit found
        split at returned
        · cases returned
          exact Tells.nothing _ _ rfl (marketDataOf_processModifyError _ _ _ modify)
        · rename_i accepted
          simp only [Bool.or_eq_true, bne_iff_ne, not_or, not_not] at accepted
          split at returned
          · rename_i samePrice
            obtain ⟨order, changed, done⟩ := bind_eq_ok returned
            cases done
            exact Tells.changes clock modify limit order _ found samePrice accepted.1.1 changed rfl
              rfl
          · rename_i newPrice
            obtain ⟨cancelled, cancels, rest⟩ := bind_eq_ok returned
            obtain ⟨⟨left, added⟩, adds, done⟩ := bind_eq_ok rest
            cases done
            obtain ⟨gone, entries, emitted⟩ :=
              @cancelOrder_takes book clock (Info.CancelOrder.ofModify modify) limit cancelled found
                accepted.1.2 cancels
            have told := @addOrder_told cancelled.book (fun reading => clock (reading + 1))
              (Order.ofModify modify) left added gone adds
            refine Tells.reprices clock modify limit _ cancelled.book.limitOrders
              (marketDataOf added.emitted) found newPrice gone entries told ?_
            rw [marketDataOf_append, emitted]
            rfl

/-! ### No message is empty -/

theorem ArrivalTold.isSet {limits after : LimitBook} {order : Order} {executions : List Execution}
    {told : List MarketDataResponse} (arrival : ArrivalTold limits order after executions told) :
    MarketDataResponse.notSet ∉ told := by
  have fills : ∀ acks : List OrderEntryFill,
      MarketDataResponse.notSet ∉ acks.map MarketDataResponse.fill := by
    intro acks member
    obtain ⟨fill, _present, same⟩ := List.mem_map.mp member
    cases same
  cases arrival with
  | used acks _ _ _ messages =>
      rw [messages]
      exact fills acks
  | rests acks _ _ _ _ _ _ _ _ messages =>
      rw [messages]
      intro member
      rcases List.mem_append.mp member with filled | added
      · exact fills acks filled
      · cases List.mem_singleton.mp added

/-- Something is set in every message that a call tells. -/
theorem Tells.isSet {request : Request} {result : CallResult} (tells : Tells book request result) :
    MarketDataResponse.notSet ∉ marketDataOf result.emitted := by
  cases tells with
  | nothing _ _ _ silent =>
      rw [silent]
      exact List.not_mem_nil
  | arrives _ _ _ _ told => exact told.isSet
  | cancels _ _ _ _ _ _ _ messages =>
      rw [messages]
      intro member
      cases List.mem_singleton.mp member
  | changes _ _ _ _ _ _ _ _ _ _ messages =>
      rw [messages]
      intro member
      cases List.mem_singleton.mp member
  | reprices _ _ _ _ _ _ _ _ _ _ arrival messages =>
      rw [messages]
      intro member
      rcases List.mem_cons.mp member with first | later
      · cases first
      · exact arrival.isSet later

end OrderBook

end Engine
end SpotExchange
