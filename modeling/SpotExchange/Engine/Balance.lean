/-
The quantity of each order across a call: what is executed and what remains add up
to what the order had, or was given, to trade with.
-/

import SpotExchange.Engine.Arrivals

namespace SpotExchange
namespace Engine

open Collections Allocation Machine

/-- The sum executed for an order, while incoming and while resting. -/
def executedFor (executions : List Execution) (orderId : OrderId) : Nat :=
  ((executions.filter (fun execution =>
    decide (execution.restingId = orderId ∨ execution.incomingId = orderId))).map
      (fun execution => execution.quantity.toNat)).sum

theorem executedFor_incoming (incoming : OrderId) {taken : List (Order × Nat)}
    (covered : ∀ entry ∈ taken, entry.2 ≤ orderAmount entry.1) :
    executedFor (taken.map (executionOf incoming)) incoming = total taken := by
  induction taken with
  | nil => rfl
  | cons entry rest ih =>
      have exactly : (UInt32.ofNat entry.2).toNat = entry.2 :=
        ofNat_toNat_of_le (covered entry List.mem_cons_self)
      have later := ih (fun entry member => covered entry (List.mem_cons_of_mem _ member))
      unfold executedFor at later ⊢
      simp only [total, List.map_cons, List.sum_cons] at later ⊢
      rw [List.filter_cons_of_pos (by simp [executionOf]), List.map_cons, List.sum_cons, later]
      simp only [executionOf, exactly]

theorem executedFor_resting {incoming orderId : OrderId} (other : orderId ≠ incoming)
    {taken : List (Order × Nat)} (covered : ∀ entry ∈ taken, entry.2 ≤ orderAmount entry.1) :
    executedFor (taken.map (executionOf incoming)) orderId =
      takenFrom Order.orderId taken orderId := by
  induction taken with
  | nil => rfl
  | cons entry rest ih =>
      obtain ⟨item, part⟩ := entry
      have exactly : (UInt32.ofNat part).toNat = part :=
        ofNat_toNat_of_le (covered (item, part) List.mem_cons_self)
      have later := ih (fun entry member => covered entry (List.mem_cons_of_mem _ member))
      rw [takenFrom_cons, ← later]
      unfold executedFor
      by_cases same : item.orderId = orderId <;>
        simp [executionOf, same, exactly, Ne.symm other]

theorem takenFrom_of_absent {taken : List (Order × Nat)} {orderId : OrderId}
    (absent : ∀ entry ∈ taken, entry.1.orderId ≠ orderId) :
    takenFrom Order.orderId taken orderId = 0 := by
  unfold takenFrom
  rw [List.filter_eq_nil_iff.mpr]
  · rfl
  · intro entry member same
    exact absent entry member (of_decide_eq_true same)

namespace OrderBook

/-! ### What is left of an order -/

section Remaining

variable {book : OrderBook} {view : BookView}

theorem Represents.remainingIn_of_mem (represents : book.Represents view) {side : BookSide}
    {price : Price} {order : Order} (member : order ∈ view side price) :
    remainingIn book.limitOrders order.orderId = orderAmount order := by
  obtain ⟨next, prev, found⟩ := represents.lookup member
  rw [remainingIn_of_lookup found, limitAt_order]

theorem Represents.remainingIn_of_absent (represents : book.Represents view) {orderId : OrderId}
    (absent : ∀ side price, orderId ∉ orderIds (view side price)) :
    remainingIn book.limitOrders orderId = 0 := by
  unfold remainingIn
  cases found : book.limitOrders.lookup orderId with
  | none => rfl
  | some limit =>
      obtain ⟨side, price, member⟩ := represents.resting orderId limit found
      exact absurd member (absent side price)

/-- Two books that have the same order of an id on their lists, or none, have as much
left of it. -/
theorem Represents.remainingIn_congr {other : OrderBook} {otherView : BookView}
    (represents : book.Represents view) (otherRepresents : other.Represents otherView)
    {orderId : OrderId}
    (same : ∀ side price order, order.orderId = orderId →
      (order ∈ otherView side price ↔ order ∈ view side price)) :
    remainingIn other.limitOrders orderId = remainingIn book.limitOrders orderId := by
  by_cases present : ∃ side price order, order ∈ view side price ∧ order.orderId = orderId
  · obtain ⟨side, price, order, member, sameId⟩ := present
    have otherMember := (same side price order sameId).mpr member
    rw [← sameId, represents.remainingIn_of_mem member,
      otherRepresents.remainingIn_of_mem otherMember]
  · have absent : ∀ side price, orderId ∉ orderIds (view side price) := by
      intro side price inside
      obtain ⟨order, member, sameId⟩ := List.mem_map.mp inside
      exact present ⟨side, price, order, member, sameId⟩
    have otherAbsent : ∀ side price, orderId ∉ orderIds (otherView side price) := by
      intro side price inside
      obtain ⟨order, member, sameId⟩ := List.mem_map.mp inside
      exact present ⟨side, price, order, (same side price order sameId).mp member, sameId⟩
    rw [represents.remainingIn_of_absent absent, otherRepresents.remainingIn_of_absent otherAbsent]

theorem mem_drop {orderId : OrderId} {side : BookSide} {price : Price} {order : Order} :
    order ∈ view.drop orderId side price ↔ order ∈ view side price ∧ order.orderId ≠ orderId := by
  unfold BookView.drop
  rw [List.mem_filter, decide_eq_true_iff]

theorem lookup_dropped {without : OrderBook} {orderId : OrderId}
    (dropped : without.Represents (BookView.drop view orderId)) :
    without.limitOrders.lookup orderId = none := by
  cases stored : without.limitOrders.lookup orderId with
  | none => rfl
  | some limit =>
      obtain ⟨side, price, inside⟩ := dropped.resting orderId limit stored
      obtain ⟨order, member, sameId⟩ := List.mem_map.mp inside
      exact absurd sameId (mem_drop.mp member).2

theorem mem_replace_of_ne {changed : Order} {side : BookSide} {price : Price} {order : Order}
    (other : order.orderId ≠ changed.orderId) :
    order ∈ view.replace changed side price ↔ order ∈ view side price := by
  unfold BookView.replace
  rw [List.mem_map]
  constructor
  · rintro ⟨old, member, same⟩
    by_cases replaced : old.orderId = changed.orderId
    · rw [if_pos replaced] at same
      exact absurd (congrArg Order.orderId same).symm other
    · rw [if_neg replaced] at same
      exact same ▸ member
  · intro member
    exact ⟨order, member, if_neg other⟩

theorem mem_append_of_ne {placed : BookSide} {added : Order} {side : BookSide} {price : Price}
    {order : Order} (other : order.orderId ≠ added.orderId) :
    order ∈ view.append placed added side price ↔ order ∈ view side price := by
  unfold BookView.append
  split
  · rw [List.mem_append, List.mem_singleton]
    constructor
    · rintro (old | new)
      · exact old
      · exact absurd (congrArg Order.orderId new) other
    · exact Or.inl
  · exact Iff.rfl

theorem mem_append_self {placed : BookSide} (added : Order) :
    added ∈ view.append placed added placed added.price := by
  unfold BookView.append
  rw [if_pos ⟨rfl, rfl⟩]
  exact List.mem_append_right _ List.mem_cons_self

end Remaining

/-! ### The balance of an arrival -/

section Arrival

variable {book after : OrderBook} {added : BookSide} {order : Order}

theorem mem_arrived_of_ne {view : BookView} {result : SweepResult Price Order} {side : BookSide}
    {price : Price} {other : Order} (different : other.orderId ≠ order.orderId) :
    other ∈ BookView.arrived view added order result side price ↔
      other ∈ BookView.swept view added.opposite result.levels side price := by
  unfold BookView.arrived
  split
  · exact Iff.rfl
  · exact mem_append_of_ne different

theorem swept_absent (wellFormed : book.WellFormed) {swept : BookSide} {orderId : OrderId}
    (absent : ∀ side price, orderId ∉ orderIds (book.queueAt side price)) :
    ∀ side price, orderId ∉ orderIds (BookView.swept book.queueAt swept
      (sweepOrders swept order (book.queuesOf swept)).levels side price) := by
  intro side price inside
  exact absent side price ((swept_ids_sublist wellFormed swept order side price).mem inside)

/-- What the incoming order keeps is what the sweep leaves wanted. -/
theorem arrived_remaining_self (wellFormed : book.WellFormed)
    (fresh : book.limitOrders.lookup order.orderId = none)
    (represents : after.Represents (BookView.arrived book.queueAt added order
      (sweepOrders added.opposite order (book.queuesOf added.opposite)))) :
    remainingIn after.limitOrders order.orderId =
      (sweepOrders added.opposite order (book.queuesOf added.opposite)).left := by
  have conserved := sweepOrders_conserves added.opposite order (book.queuesOf added.opposite)
  cases filled : (sweepOrders added.opposite order (book.queuesOf added.opposite)).filled with
  | true =>
      have nothing : (sweepOrders added.opposite order (book.queuesOf added.opposite)).left = 0 :=
        sweep_left_of_filled filled
      have view : BookView.arrived book.queueAt added order
          (sweepOrders added.opposite order (book.queuesOf added.opposite)) =
            BookView.swept book.queueAt added.opposite
              (sweepOrders added.opposite order (book.queuesOf added.opposite)).levels :=
        if_pos filled
      rw [view] at represents
      rw [nothing]
      exact represents.remainingIn_of_absent
        (swept_absent wellFormed (notMem_of_lookup_none wellFormed fresh))
  | false =>
      have view : BookView.arrived book.queueAt added order
          (sweepOrders added.opposite order (book.queuesOf added.opposite)) =
            (BookView.swept book.queueAt added.opposite
              (sweepOrders added.opposite order (book.queuesOf added.opposite)).levels).append
                added (order.withQuantity (UInt32.ofNat
                  (sweepOrders added.opposite order (book.queuesOf added.opposite)).left)) :=
        if_neg (by rw [filled]; exact Bool.false_ne_true)
      rw [view] at represents
      have rests := represents.remainingIn_of_mem (mem_append_self _)
      rw [Order.withQuantity_orderId, withQuantity_ofNat_amount order (by omega)] at rests
      exact rests

/-- What an order of the swept side gives and keeps is what it had. -/
theorem arrived_balance_swept (wellFormed : book.WellFormed)
    (represents : after.Represents (BookView.arrived book.queueAt added order
      (sweepOrders added.opposite order (book.queuesOf added.opposite))))
    {price : Price} {item : Order} (member : item ∈ book.queueAt added.opposite price)
    (other : item.orderId ≠ order.orderId) :
    takenFrom Order.orderId
          (sweepOrders added.opposite order (book.queuesOf added.opposite)).taken item.orderId +
        remainingIn after.limitOrders item.orderId = orderAmount item := by
  have accounts := sweepOrders_accounts added.opposite order (book.queuesOf added.opposite)
    item.orderId
  have distinct := wellFormed.ids_nodup added.opposite
  have distinctAfter := @allIds_sweepOrders_nodup added.opposite order
    (book.queuesOf added.opposite) distinct
  have pricesNodup : ((sweepOrders added.opposite order
      (book.queuesOf added.opposite)).levels.map Prod.fst).Nodup :=
    (queuesOf_prices_nodup book added.opposite).sublist
      (sweep_prices_sublist _ _ (book.queuesOf added.opposite))
  rw [allIds_eq] at distinct
  have inQueues : item ∈ (book.queuesOf added.opposite).flatMap Prod.snd :=
    (queueAt_sublist wellFormed added.opposite price).mem member
  rw [offeredBy_of_mem distinct inQueues] at accounts
  rw [← accounts]
  congr 1
  by_cases stays : item.orderId ∈
      allIds (sweepOrders added.opposite order (book.queuesOf added.opposite)).levels
  · obtain ⟨queue, present, inside⟩ := mem_allIds.mp stays
    obtain ⟨kept, keptMember, sameId⟩ := List.mem_map.mp inside
    have inView : kept ∈ BookView.arrived book.queueAt added order
        (sweepOrders added.opposite order (book.queuesOf added.opposite)) added.opposite
          queue.1 := by
      refine (mem_arrived_of_ne (by rw [sameId]; exact other)).mpr ?_
      rw [BookView.swept, if_pos rfl, queueIn_of_mem pricesNodup present]
      exact keptMember
    rw [allIds_eq] at distinctAfter
    rw [← sameId, represents.remainingIn_of_mem inView]
    exact (offeredBy_of_mem distinctAfter
      (List.mem_flatMap.mpr ⟨queue, present, keptMember⟩)).symm
  · have absent : ∀ side otherPrice, item.orderId ∉ orderIds (BookView.arrived book.queueAt added
        order (sweepOrders added.opposite order (book.queuesOf added.opposite)) side
          otherPrice) := by
      intro side otherPrice inside
      obtain ⟨kept, keptMember, sameId⟩ := List.mem_map.mp inside
      have inSwept := (mem_arrived_of_ne (by rw [sameId]; exact other)).mp keptMember
      unfold BookView.swept at inSwept
      by_cases same : side = added.opposite
      · rw [if_pos same] at inSwept
        exact stays (sameId ▸ mem_ids_queueIn (List.mem_map_of_mem inSwept))
      · rw [if_neg same] at inSwept
        exact same (wellFormed.unique inSwept member sameId).1
    rw [represents.remainingIn_of_absent absent, offeredBy_of_absent]
    rw [allIds_eq] at stays
    exact stays

/-- An arrival executes for an order what the order has less afterwards. -/
theorem arrived_balance (wellFormed : book.WellFormed)
    (fresh : book.limitOrders.lookup order.orderId = none)
    (represents : after.Represents (BookView.arrived book.queueAt added order
      (sweepOrders added.opposite order (book.queuesOf added.opposite))))
    (orderId : OrderId) :
    executedFor ((sweepOrders added.opposite order (book.queuesOf added.opposite)).taken.map
          (executionOf order.orderId)) orderId + remainingIn after.limitOrders orderId =
      if orderId = order.orderId then orderAmount order
      else remainingIn book.limitOrders orderId := by
  have held := wellFormed.entries_eq added.opposite
  have covered := taken_covered held order
  by_cases own : orderId = order.orderId
  · subst own
    rw [if_pos rfl, executedFor_incoming order.orderId covered,
      arrived_remaining_self wellFormed fresh represents]
    exact sweepOrders_conserves added.opposite order (book.queuesOf added.opposite)
  · rw [if_neg own, executedFor_resting own covered]
    by_cases here : ∃ price, orderId ∈ orderIds (book.queueAt added.opposite price)
    · obtain ⟨price, inside⟩ := here
      obtain ⟨item, member, sameId⟩ := List.mem_map.mp inside
      rw [← sameId, wellFormed.remainingIn_of_mem member]
      exact arrived_balance_swept wellFormed represents member (sameId ▸ own)
    · have untouched : takenFrom Order.orderId
          (sweepOrders added.opposite order (book.queuesOf added.opposite)).taken orderId = 0 := by
        refine takenFrom_of_absent ?_
        intro entry member sameId
        obtain ⟨queue, present, inside⟩ := mem_of_taken held member
        rw [WellFormed.mem_queuesOf present] at inside
        exact here ⟨queue.1, sameId ▸ List.mem_map_of_mem inside⟩
      rw [untouched, Nat.zero_add]
      refine Represents.remainingIn_congr wellFormed represents ?_
      intro side price item sameId
      rw [mem_arrived_of_ne (by rw [sameId]; exact own)]
      by_cases same : side = added.opposite
      · subst same
        constructor
        · intro member
          have inside := (swept_ids_sublist wellFormed added.opposite order added.opposite
            price).mem (List.mem_map_of_mem member)
          exact absurd ⟨price, sameId ▸ inside⟩ here
        · intro member
          exact absurd ⟨price, sameId ▸ List.mem_map_of_mem member⟩ here
      · rw [BookView.swept, if_neg same]

end Arrival

/-! ### The balance of a call -/

section Call

variable {book : OrderBook} {request : Request} {result : CallResult}

/-- What an order has after a change in place. -/
def changedAmount (book : OrderBook) (modify : Info.ModifyOrder) : Nat :=
  match book.limitOrders.lookup modify.orderId with
  | none => 0
  | some limit =>
      match modifyInPlace modify limit.order with
      | .error _ => 0
      | .ok order => orderAmount order

/-- The quantity that an order may trade during a call: what it has, or what the call
gives it. -/
def granted (book : OrderBook) (request : Request) (orderId : OrderId) : Nat :=
  match request with
  | .add clock order =>
      if book.accepted (.add clock order) && orderId == order.orderId then orderAmount order
      else remainingIn book.limitOrders orderId
  | .modify clock modify =>
      if book.accepted (.modify clock modify) && orderId == modify.orderId then
        if book.repricing modify then modify.quantity.toNat
        else book.changedAmount modify
      else remainingIn book.limitOrders orderId
  | .cancel clock cancel =>
      if book.accepted (.cancel clock cancel) && orderId == cancel.orderId then 0
      else remainingIn book.limitOrders orderId

theorem granted_refused (refused : book.accepted request = false) (orderId : OrderId) :
    book.granted request orderId = remainingIn book.limitOrders orderId := by
  cases request <;> simp [granted, refused]

theorem executedFor_nil (orderId : OrderId) : executedFor [] orderId = 0 := rfl

theorem remainingIn_drop (wellFormed : book.WellFormed) {without : OrderBook} {dropped : OrderId}
    (represents : without.Represents (BookView.drop book.queueAt dropped)) (orderId : OrderId) :
    remainingIn without.limitOrders orderId =
      if orderId = dropped then 0 else remainingIn book.limitOrders orderId := by
  by_cases same : orderId = dropped
  · subst same
    rw [if_pos rfl]
    refine represents.remainingIn_of_absent ?_
    intro side price inside
    obtain ⟨order, member, sameId⟩ := List.mem_map.mp inside
    exact (mem_drop.mp member).2 sameId
  · rw [if_neg same]
    refine Represents.remainingIn_congr wellFormed represents ?_
    intro side price order sameId
    rw [mem_drop]
    exact and_iff_left (by rw [sameId]; exact same)

theorem remainingIn_replace (wellFormed : book.WellFormed) {after : OrderBook} {changed : Order}
    (represents : after.Represents (BookView.replace book.queueAt changed))
    {limit : Limit} (found : book.limitOrders.lookup changed.orderId = some limit)
    (orderId : OrderId) :
    remainingIn after.limitOrders orderId =
      if orderId = changed.orderId then orderAmount changed
      else remainingIn book.limitOrders orderId := by
  by_cases same : orderId = changed.orderId
  · subst same
    rw [if_pos rfl]
    obtain ⟨side, _flag, member, sameId⟩ := wellFormed.flag_of_lookup found
    refine represents.remainingIn_of_mem
      (List.mem_map.mpr ⟨limit.order, member, if_pos sameId⟩)
  · rw [if_neg same]
    refine Represents.remainingIn_congr wellFormed represents ?_
    intro side price order sameId
    exact mem_replace_of_ne (by rw [sameId]; exact same)

/-- What a call executes for an order and what it leaves of it are what the order may
trade during the call. -/
theorem Effect.balance (wellFormed : book.WellFormed) (effect : Effect book request result)
    (orderId : OrderId) :
    executedFor result.executions orderId + remainingIn result.book.limitOrders orderId =
      book.granted request orderId := by
  cases effect with
  | ignored _ _ refused sameBook noTrade _ =>
      rw [noTrade, sameBook, granted_refused refused, executedFor_nil, Nat.zero_add]
  | added clock order _ side _ taken fresh _ arrives =>
      rw [arrives.executions, arrived_balance wellFormed fresh arrives.represents]
      simp only [granted, taken, Bool.true_and, beq_iff_eq]
  | cancelled clock cancel _ _ taken _ _ noTrade _ dropped =>
      rw [noTrade, executedFor_nil, Nat.zero_add, remainingIn_drop wellFormed dropped]
      simp only [granted, taken, Bool.true_and, beq_iff_eq]
  | changed clock modify limit order _ taken found owner sameSide samePrice changes noTrade _
      replaced =>
      have stays : book.repricing modify = false := by
        simp [repricing_of_price found owner sameSide, samePrice]
      have sameId : order.orderId = modify.orderId := by
        obtain ⟨quantity, changesTo⟩ := modifyInPlace_eq modify limit.order
        obtain ⟨_side, _flag, _member, own⟩ := wellFormed.flag_of_lookup found
        rw [changesTo] at changes
        rw [← Except.ok.inj changes]
        exact own
      rw [noTrade, executedFor_nil, Nat.zero_add,
        remainingIn_replace wellFormed replaced (sameId ▸ found), sameId]
      simp only [granted, changedAmount, taken, Bool.true_and, beq_iff_eq, stays, found,
        changes]
      rfl
  | repriced clock modify limit side without left arrival _ taken found owner sameSide newPrice _
      dropped _ arrives sameBook executions _ =>
      have moves : book.repricing modify = true := by
        simp [repricing_of_price found owner sameSide, newPrice]
      have fresh : without.limitOrders.lookup (Order.ofModify modify).orderId = none :=
        lookup_dropped dropped
      rw [executions, sameBook, arrives.executions,
        arrived_balance dropped.wellFormed fresh arrives.represents,
        remainingIn_drop wellFormed dropped]
      simp only [granted, taken, Bool.true_and, beq_iff_eq, moves]
      by_cases own : orderId = modify.orderId
      · have incoming : orderId = (Order.ofModify modify).orderId := own
        rw [if_pos incoming, if_pos own]
        rfl
      · have notIncoming : orderId ≠ (Order.ofModify modify).orderId := own
        rw [if_neg notIncoming, if_neg own, if_neg own]

end Call

end OrderBook

end Engine
end SpotExchange
