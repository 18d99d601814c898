/-
Where an order may stop. An order that stops in the best level, or in a later one
before any order of that level is used up, or that uses a level up, leaves every
surviving level with its list. In the other cases the head of the level in which
it stops is not moved, or the level is erased with orders in its list.
-/

import SpotExchange.Engine.Levels

namespace SpotExchange
namespace Engine

open Collections IntrusiveList Allocation

/-- Stopping in a level leaves the level in order: its list is used up, or the
order count of what is kept does not read zero and the head is where the source
leaves it. -/
def cleanIn (best : Bool) (wanted : Nat) (items : List Order) : Bool :=
  (kept orderAmount wanted items).isEmpty ||
    (decide (liveCount (kept orderAmount wanted items) % 65536 ≠ 0) &&
      (best || decide (kept orderAmount wanted items = items)))

/-- The level in which the wanted amount runs out, if there is one, is left in
order. `best` says that the first of the levels is the best one of the side. -/
def stopsCleanly (acceptable : Price → Bool) : Bool → Nat → Queues → Bool
  | _, _, [] => true
  | best, wanted, (price, items) :: rest =>
      if acceptable price then
        if offered orderAmount items < wanted then
          stopsCleanly acceptable false (wanted - offered orderAmount items) rest
        else cleanIn best wanted items
      else true

/-- An order that arrives at a side stops cleanly. -/
def cleanSweep (side : BookSide) (order : Order) (queues : Queues) : Bool :=
  stopsCleanly (accepts side order.price) true (orderAmount order) queues

/-! ### What remains of a queue -/

section Remaining

variable (wanted : Nat) (items : List Order)

theorem orderIds_remaining :
    orderIds (fillQueue orderAmount reduceOrder wanted items).remaining =
      orderIds (kept orderAmount wanted items) := by
  rcases @fillQueue_kept _ orderAmount reduceOrder wanted items with
    same | ⟨item, rest, part, split, _less, reduced⟩
  · rw [same]
  · rw [split, reduced]
    rfl

theorem headOf_eq_head? (orders : List Order) : headOf orders = (orderIds orders).head? := by
  cases orders <;> rfl

theorem liveCount_cons (order : Order) (rest : List Order) :
    liveCount (order :: rest) = liveCount rest + if 0 < orderAmount order then 1 else 0 := by
  unfold liveCount
  rw [List.countP_cons]
  congr 1
  by_cases empty : orderAmount order = 0
  · have zero := (amount_eq_zero_iff order).mp empty
    simp [empty, zero]
  · have live : order.currentQuantity ≠ 0 := fun zero => empty ((amount_eq_zero_iff order).mpr zero)
    simp [live, Nat.pos_of_ne_zero empty]

theorem liveCount_remaining :
    liveCount (fillQueue orderAmount reduceOrder wanted items).remaining =
      liveCount (kept orderAmount wanted items) := by
  rcases @fillQueue_kept _ orderAmount reduceOrder wanted items with
    same | ⟨item, rest, part, split, less, reduced⟩
  · rw [same]
  · have amount := reduceOrder_amount (Nat.le_of_lt less)
    have live : 0 < orderAmount (reduceOrder item part) := by omega
    have wasLive : 0 < orderAmount item := by omega
    rw [split, reduced, liveCount_cons, liveCount_cons, if_pos live, if_pos wasLive]

theorem tailOf_eq_getLast? (orders : List Order) : tailOf orders = (orderIds orders).getLast? := by
  rcases List.eq_nil_or_concat' orders with empty | ⟨front, order, split⟩
  · rw [empty]
    rfl
  · rw [split, tailOf, last_concat, orderIds, List.map_append, List.map_singleton,
      List.getLast?_concat]

theorem tailOf_remaining
    (occupied : (fillQueue orderAmount reduceOrder wanted items).remaining ≠ []) :
    tailOf (fillQueue orderAmount reduceOrder wanted items).remaining = tailOf items := by
  obtain ⟨used, split⟩ := @kept_suffix _ orderAmount wanted items
  have some : orderIds (kept orderAmount wanted items) ≠ [] := by
    rw [← orderIds_remaining]
    intro none
    exact occupied (List.map_eq_nil_iff.mp none)
  have ids : orderIds items = orderIds used ++ orderIds (kept orderAmount wanted items) := by
    unfold orderIds
    rw [← List.map_append, split]
  rw [tailOf_eq_getLast?, tailOf_eq_getLast?, orderIds_remaining, ids,
    List.getLast?_append_of_ne_nil _ some]

theorem belongs_remaining {property : Price → UInt8 → Prop}
    (belongs : ∀ order ∈ items, property order.price order.isBuySide) :
    ∀ order ∈ (fillQueue orderAmount reduceOrder wanted items).remaining,
      property order.price order.isBuySide := by
  have keeps : ∀ order ∈ kept orderAmount wanted items, property order.price order.isBuySide :=
    fun order member => belongs order ((kept_suffix wanted items).mem member)
  rcases @fillQueue_kept _ orderAmount reduceOrder wanted items with
    same | ⟨item, rest, part, split, _less, reduced⟩
  · rw [same]
    exact keeps
  · rw [reduced]
    rw [split] at keeps
    intro order member
    rcases List.mem_cons.mp member with here | later
    · rw [here]
      exact keeps item List.mem_cons_self
    · exact keeps order (List.mem_cons_of_mem _ later)

theorem fillOrders_stops_iff :
    (fillQueue orderAmount reduceOrder wanted items).left = 0 ↔
      ¬offered orderAmount items < wanted := by
  constructor
  · intro stopped short
    have enough := offered_of_filled stopped
    omega
  · intro enough
    exact fillQueue_covers (Nat.le_of_not_lt enough)

theorem fillOrders_left (short : offered orderAmount items < wanted) :
    (fillQueue orderAmount reduceOrder wanted items).left =
      wanted - offered orderAmount items := by
  have passed : (fillQueue orderAmount reduceOrder wanted items).left ≠ 0 :=
    fun stopped => (fillOrders_stops_iff wanted items).mp stopped short
  have conserved := @fillQueue_conserves _ orderAmount reduceOrder wanted items
  have all := (fillQueue_short passed).2.2
  rw [all, total, List.map_map] at conserved
  have same : (items.map (Prod.snd ∘ fun item => (item, orderAmount item))).sum =
      offered orderAmount items := rfl
  omega

end Remaining

theorem allIds_eq (queues : Queues) : allIds queues = orderIds (queues.flatMap Prod.snd) := by
  simp [allIds, orderIds, List.map_flatMap]

/-- A sweep leaves ids of the queues, in their order. -/
theorem allIds_sweep_sublist (acceptable : Price → Bool) (wanted : Nat) (queues : Queues) :
    (allIds (sweep orderAmount reduceOrder acceptable wanted queues).levels).Sublist
      (allIds queues) := by
  induction queues generalizing wanted with
  | nil => exact List.Sublist.refl []
  | cons queue rest ih =>
      obtain ⟨price, items⟩ := queue
      cases accepted : acceptable price with
      | false =>
          rw [sweep_refused rest accepted]
      | true =>
          rw [allIds_cons]
          by_cases stopped : (fillQueue orderAmount reduceOrder wanted items).left = 0
          · rw [sweep_stopped rest accepted stopped, allIds_eq, flatMap_keepLevel, orderIds,
              List.map_append]
            have suffix := (@kept_suffix _ orderAmount wanted items).sublist.map Order.orderId
            have ids := orderIds_remaining wanted items
            unfold orderIds at ids
            rw [ids]
            have restIds : List.map Order.orderId (rest.flatMap Prod.snd) = allIds rest :=
              (allIds_eq rest).symm
            rw [restIds]
            exact suffix.append_right (allIds rest)
          · rw [sweep_passed rest accepted stopped]
            exact (ih _).trans (List.sublist_append_right (orderIds items) (allIds rest))

theorem allIds_sweepOrders_nodup {side : BookSide} {order : Order} {queues : Queues}
    (distinct : (allIds queues).Nodup) : (allIds (sweepOrders side order queues).levels).Nodup :=
  distinct.sublist (allIds_sweep_sublist _ _ queues)

/-! ### Clean stops keep the levels and their lists together -/

section Clean

variable {side : BookSide} {limits changed : LimitBook}

/-- The entry of a level in which an order stops cleanly. -/
theorem closeEntry_holds {bound : Bool} {price : Price} {level : Level} {items : List Order}
    {wanted : Nat} {entries : List (Price × Level)} {rest : Queues}
    (held : LevelHolds side limits price level items)
    (clean : cleanIn bound wanted items = true)
    (later : Holds side changed entries rest)
    (linked : Chain { side := side, price := price } changed none
      (fillQueue orderAmount reduceOrder wanted items).remaining none) :
    Holds side changed
      (closeEntry bound (price, level)
        (fillQueue orderAmount reduceOrder wanted items).remaining entries)
      (keepLevel price (fillQueue orderAmount reduceOrder wanted items).remaining rest) := by
  have ids := orderIds_remaining wanted items
  have live := liveCount_remaining wanted items
  unfold cleanIn at clean
  rcases Bool.or_eq_true_iff.mp clean with usedUp | stays
  · have none : kept orderAmount wanted items = [] := List.isEmpty_iff.mp usedUp
    rw [none] at ids
    have empty : (fillQueue orderAmount reduceOrder wanted items).remaining = [] :=
      List.map_eq_nil_iff.mp ids
    rw [empty]
    exact later
  · obtain ⟨counted, placed⟩ := Bool.and_eq_true_iff.mp stays
    have nonzero := of_decide_eq_true counted
    have occupied : (fillQueue orderAmount reduceOrder wanted items).remaining ≠ [] := by
      intro empty
      rw [← live, empty] at nonzero
      exact nonzero rfl
    have keeps : keepLevel price (fillQueue orderAmount reduceOrder wanted items).remaining rest =
        (price, (fillQueue orderAmount reduceOrder wanted items).remaining) :: rest := by
      cases remaining : (fillQueue orderAmount reduceOrder wanted items).remaining with
      | nil => exact absurd remaining occupied
      | cons item others => rfl
    rw [keeps, closeEntry, live, if_neg nonzero]
    have tail := tailOf_remaining wanted items occupied
    have belongs := @belongs_remaining wanted items
      (fun orderPrice flag => orderPrice = price ∧ flag = side.flag) held.belongs
    refine List.Forall₂.cons ⟨rfl, occupied, ?_, ?_, ?_, ?_, linked, belongs⟩ later
    · cases bound with
      | true => rfl
      | false =>
          have unmoved : kept orderAmount wanted items = items := by
            simpa using placed
          rw [headOf_eq_head?, ids, unmoved, ← headOf_eq_head?]
          exact held.atHead
    · cases bound <;> exact held.atTail.trans tail.symm
    · cases bound <;> exact held.priced
    · cases bound <;> exact held.flagged

/-- Levels whose lists are linked in another id map are held there too. -/
theorem Holds.relink {entries : List (Price × Level)} {queues : Queues}
    (held : Holds side limits entries queues)
    (linked : ∀ queue ∈ queues,
      Chain { side := side, price := queue.1 } changed none queue.2 none) :
    Holds side changed entries queues := by
  induction held with
  | nil => exact List.Forall₂.nil
  | @cons entry queue entries queues here _later ih =>
      refine List.Forall₂.cons ⟨here.1, ?_⟩ (ih ?_)
      · exact { here.2 with linked := linked queue List.mem_cons_self }
      · exact fun other member => linked other (List.mem_cons_of_mem queue member)

/-- After a clean stop the entries hold what the sweep leaves. -/
theorem settled_holds {acceptable : Price → Bool} {bound : Bool} {wanted : Nat}
    {entries : List (Price × Level)} {queues : Queues}
    (held : Holds side limits entries queues)
    (clean : stopsCleanly acceptable bound wanted queues = true)
    (linked : ∀ queue ∈ (sweep orderAmount reduceOrder acceptable wanted queues).levels,
      Chain { side := side, price := queue.1 } changed none queue.2 none) :
    Holds side changed (settled acceptable bound wanted entries queues)
      (sweep orderAmount reduceOrder acceptable wanted queues).levels := by
  induction held generalizing bound wanted with
  | nil => exact List.Forall₂.nil
  | @cons entry queue entries queues here later ih =>
      obtain ⟨entryPrice, level⟩ := entry
      obtain ⟨price, items⟩ := queue
      obtain ⟨same, holds⟩ := here
      have samePrice : entryPrice = price := same
      subst samePrice
      cases accepted : acceptable entryPrice with
      | false =>
          rw [sweep_refused queues accepted] at linked ⊢
          simp only [settled, accepted, Bool.false_eq_true, if_false]
          exact Holds.relink (List.Forall₂.cons ⟨rfl, holds⟩ later) linked
      | true =>
          simp only [stopsCleanly, accepted, if_true] at clean
          simp only [settled, accepted, if_true]
          by_cases short : offered orderAmount items < wanted
          · have passed : (fillQueue orderAmount reduceOrder wanted items).left ≠ 0 :=
              fun stopped => (fillOrders_stops_iff wanted items).mp stopped short
            rw [sweep_passed queues accepted passed] at linked ⊢
            rw [if_pos short] at clean
            rw [if_neg passed]
            rw [← fillOrders_left wanted items short] at clean
            exact ih clean linked
          · have stopped := (fillOrders_stops_iff wanted items).mpr short
            rw [sweep_stopped queues accepted stopped] at linked ⊢
            rw [if_neg short] at clean
            rw [if_pos stopped]
            refine closeEntry_holds holds clean (Holds.relink later ?_) ?_
            · intro queue member
              refine linked queue ?_
              change queue ∈ keepLevel _ _ _
              unfold keepLevel
              split
              · exact member
              · exact List.mem_cons_of_mem _ member
            · cases remaining : (fillQueue orderAmount reduceOrder wanted items).remaining with
              | nil => trivial
              | cons item others =>
                  have first := linked (entryPrice, item :: others)
                  rw [remaining] at first
                  exact first List.mem_cons_self

end Clean

end Engine
end SpotExchange
