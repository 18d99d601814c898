/-
The client never shows less than there is. Fills of resting orders are not told, so that the
client keeps more of such an order than is left; but it knows every order that rests, with no
less than rests, whatever has become of the levels and the links of the books. While nothing
trades it knows exactly what rests.
-/

import Mathlib.Order.Interval.Finset.Nat
import SpotExchange.Client.Acknowledgements
import SpotExchange.Client.OwnBooks
import SpotExchange.Client.Reconstruction
import SpotExchange.Server.Feed

namespace SpotExchange
namespace Client

open Collections Engine Machine Server Wire
open Engine.OrderBook (ArrivalTold Tells)
open ClientFeedHandler (InStep Replays)

/-! ### A handler that has heard a feed -/

/-- The handler has the orders and the sums of `live`, and books of listed tickers only. -/
def Heard (listed : Finset Ticker) (live : LiveOrders) (handler : ClientFeedHandler) : Prop :=
  ∃ announced, announced ⊆ listed ∧ Replays live announced handler

section Heard

variable {listed : Finset Ticker} {live : LiveOrders} {handler : ClientFeedHandler}

theorem fresh_heard (listed : Finset Ticker) : Heard listed ∅ ClientFeedHandler.fresh :=
  ⟨∅, Finset.empty_subset listed, ClientFeedHandler.fresh_replays⟩

/-- A message that the live orders allow is replayed. -/
theorem Heard.receive (heard : Heard listed live handler) (few : listed.card ≤ 65536)
    {message : MarketDataResponse} {inner : FeedMessage}
    (isDecoded : TradingClient.decoded message = some inner) (positive : inner.Positive)
    (allowed : live.Allows inner) (inside : inner.announces ⊆ listed) :
    ∃ next, handler.receive message = .ok next ∧ Heard listed (live.replay inner) next := by
  obtain ⟨announced, within, replays⟩ := heard
  have grown : announced ∪ inner.announces ⊆ listed := Finset.union_subset within inside
  have fewHere := Nat.le_trans (Finset.card_le_card grown) few
  obtain ⟨next, returned, does⟩ := ClientFeedHandler.process_does replays.inStep.indexed inner
  refine ⟨next, ?_, announced ∪ inner.announces, grown, ?_⟩
  · rw [TradingClient.receive_eq_process, isDecoded]
    exact returned
  · exact replays.step positive allowed fewHere does

/-- A fill of an order that is not live does nothing. -/
theorem Heard.receive_fill (heard : Heard listed live handler) {fill : OrderEntryFill}
    (unheard : live.lookup fill.statusCommon.orderId = none) :
    handler.receive (.fill fill) = .ok handler := by
  obtain ⟨_announced, _within, replays⟩ := heard
  exact ClientFeedHandler.fillOrder_unknown (replays.orders.untracked unheard)

theorem Heard.receive_fills (heard : Heard listed live handler) {orderId : OrderId}
    (unheard : live.lookup orderId = none) (fills : List OrderEntryFill)
    (own : ∀ fill ∈ fills, fill.statusCommon.orderId = orderId) :
    run ClientFeedHandler.receive handler (fills.map MarketDataResponse.fill) = .ok handler := by
  induction fills with
  | nil => rfl
  | cons fill rest ih =>
      have unknown : live.lookup fill.statusCommon.orderId = none := by
        rw [own fill List.mem_cons_self]
        exact unheard
      simp only [List.map_cons, run, heard.receive_fill unknown]
      exact ih (fun other member => own other (List.mem_cons_of_mem fill member))

theorem Heard.remaining (heard : Heard listed live handler) {orderId : OrderId}
    {order : LiveOrder} (found : live.lookup orderId = some order) :
    1 ≤ order.remaining ∧ order.remaining ≤ 2147483647 := by
  obtain ⟨_announced, _within, replays⟩ := heard
  have isKnown := replays.orders orderId
  rw [found] at isKnown
  obtain ⟨data, known, same⟩ := Option.map_eq_some_iff.mp isKnown
  have positive := replays.inStep.positive orderId data known
  have bounded := data.quantity.toInt_lt
  have isQuantity : order.remaining = data.quantity.toInt := by
    rw [← same]
    rfl
  omega

/-- Four thousand million orders do not add up to 2^63. -/
theorem Heard.total_le (heard : Heard listed live handler)
    (short : live.entries.length ≤ 4294967296) (ticker : Ticker) (side : BookSide)
    (price : Price) : live.total ticker side price ≤ 4294967296 * 2147483647 := by
  have bounded : ∀ orderId order, live.lookup orderId = some order →
      LiveOrder.amount ticker side price order ≤ 2147483647 := by
    intro orderId order found
    have bounds := heard.remaining found
    unfold LiveOrder.amount
    split <;> omega
  have total := tally_le_length bounded
  rw [nsmul_eq_mul] at total
  have length : ((live.entries.length : Nat) : Int) ≤ 4294967296 := by omega
  have product : ((live.entries.length : Nat) : Int) * 2147483647 ≤ 4294967296 * 2147483647 :=
    Int.mul_le_mul_of_nonneg_right length (by decide)
  exact Int.le_trans total product

/-- What is displayed is what is live. -/
theorem Heard.displayed (heard : Heard listed live handler) (ticker : Ticker) (side : BookSide)
    (price : Price) :
    sizeOf (handler.displayed ticker side price) = live.total ticker side price := by
  obtain ⟨_announced, _within, replays⟩ := heard
  cases found : handler.tickers.lookup ticker with
  | some index =>
      rw [ClientFeedHandler.displayed_listed found, replays.total_eq found]
      exact replays.inStep.displays.sums _
  | none =>
      rw [ClientFeedHandler.displayed_unlisted found]
      symm
      apply tally_eq_zero
      intro orderId order lives
      have isKnown := replays.orders orderId
      rw [lives] at isKnown
      obtain ⟨data, known, same⟩ := Option.map_eq_some_iff.mp isKnown
      have home := replays.homes orderId data known
      unfold LiveOrder.amount
      rw [if_neg]
      rintro ⟨sameTicker, -, -⟩
      have isTicker : data.ticker = ticker := by
        rw [← same] at sameTicker
        exact sameTicker
      rw [isTicker, found] at home
      cases home

end Heard

/-! ### Orders that are known with no less than they have -/

/-- The order is live at its place, with no less than it has. -/
def Covered (live : LiveOrders) (ticker : Ticker) (orderId : OrderId) (order : Order) : Prop :=
  ∃ known, live.lookup orderId = some known ∧ known.ticker = ticker ∧
    known.side = ClientOrderBook.sideOf order.isBuySide ∧ known.price = order.price ∧
    (orderAmount order : Int) ≤ known.remaining

def Covers (live : LiveOrders) (ticker : Ticker) (limits : LimitBook) : Prop :=
  ∀ orderId limit, limits.lookup orderId = some limit → Covered live ticker orderId limit.order

section Covered

variable {live after : LiveOrders} {ticker : Ticker} {orderId : OrderId} {old new : Order}

theorem Covered.faded (covered : Covered live ticker orderId old) (faded : Order.Faded old new) :
    Covered live ticker orderId new := by
  obtain ⟨known, found, sameTicker, sameSide, samePrice, enough⟩ := covered
  have side := faded.kept Order.isBuySide (fun _ => rfl)
  have price := faded.kept Order.price (fun _ => rfl)
  have less : orderAmount new ≤ orderAmount old := UInt32.le_iff_toNat_le.mp faded.less
  refine ⟨known, found, sameTicker, ?_, ?_, by omega⟩
  · rw [side]
    exact sameSide
  · rw [price]
    exact samePrice

theorem Covered.kept (covered : Covered live ticker orderId old)
    (same : after.lookup orderId = live.lookup orderId) : Covered after ticker orderId old := by
  obtain ⟨known, found, rest⟩ := covered
  exact ⟨known, same.trans found, rest⟩

theorem Covered.isKnown (covered : Covered live ticker orderId old) :
    live.lookup orderId ≠ none := by
  obtain ⟨known, found, -⟩ := covered
  rw [found]
  exact Option.some_ne_none known

/-- An order is covered under one ticker only. -/
theorem Covered.one_ticker (covered : Covered live ticker orderId old) {other : Ticker}
    (coveredOther : Covered live other orderId new) : other = ticker := by
  obtain ⟨known, found, isTicker, -⟩ := covered
  obtain ⟨knownOther, foundOther, isOther, -⟩ := coveredOther
  rw [found] at foundOther
  cases foundOther
  exact isOther.symm.trans isTicker

end Covered

/-- Each order that is live under the ticker rests, with no less than is live. -/
def Backs (limits : LimitBook) (ticker : Ticker) (live : LiveOrders) : Prop :=
  ∀ orderId known, live.lookup orderId = some known → known.ticker = ticker →
    ∃ limit, limits.lookup orderId = some limit ∧ known.remaining ≤ orderAmount limit.order

section Backs

variable {limits middle : LimitBook} {ticker : Ticker} {live after : LiveOrders}
  {orderId : OrderId}

/-- What backs the other orders backs all of them, when it backs this one. -/
theorem Backs.but (backs : Backs limits ticker live)
    (same : ∀ other, other ≠ orderId → after.lookup other = live.lookup other)
    (agrees : LimitBook.AgreeBut orderId limits middle)
    (here : ∀ known, after.lookup orderId = some known →
      ∃ limit, middle.lookup orderId = some limit ∧ known.remaining ≤ orderAmount limit.order) :
    Backs middle ticker after := by
  intro other known lives isTicker
  by_cases isChanged : other = orderId
  · rw [isChanged] at lives ⊢
    exact here known lives
  · rw [same other isChanged] at lives
    obtain ⟨limit, stored, enough⟩ := backs other known lives isTicker
    obtain ⟨left, there, sameOrder⟩ := agrees.kept isChanged stored
    refine ⟨left, there, ?_⟩
    rw [sameOrder]
    exact enough

end Backs

/-! ### One call -/

/-- The order adds between one and 2^31 - 1, and no order is raised where it rests. -/
def modest (book : OrderBook) : Request → Bool
  | .add _ order =>
      decide (0 < order.currentQuantity) && decide (order.currentQuantity < 2147483648)
  | .modify _ modify =>
      decide (modify.quantity < 2147483648) &&
        match book.limitOrders.lookup modify.orderId with
        | none => true
        | some limit =>
            modify.price != limit.order.price ||
              decide (modify.quantity ≤ limit.order.currentQuantity)
  | .cancel _ _ => true

/-- What the messages of one call do: the handler hears them, the book is covered, and so is
every other book that was; no other order comes or goes. Where nothing trades, a book that backs
what is live backs it after the call. -/
structure Follows (listed : Finset Ticker) (live : LiveOrders) (handler : ClientFeedHandler)
    (ticker : Ticker) (orderId : OrderId) (before limits : LimitBook) (untraded : Prop)
    (told : List MarketDataResponse) (after : LiveOrders) (next : ClientFeedHandler) : Prop where
  received : run ClientFeedHandler.receive handler told = .ok next
  heard : Heard listed after next
  covers : Covers after ticker limits
  elsewhere : ∀ other, other ≠ ticker → ∀ otherId order, Covered live other otherId order →
    Covered after other otherId order
  others : ∀ otherId, otherId ≠ orderId → after.lookup otherId = live.lookup otherId
  own : ∀ known, after.lookup orderId = some known →
    known.ticker = ticker ∨ live.lookup orderId = some known
  backs : untraded → Backs before ticker live → Backs limits ticker after

section Calls

variable {listed : Finset Ticker} {live : LiveOrders} {handler : ClientFeedHandler}
  {book : OrderBook} {result : CallResult}

/-- An order that comes in under an id that is not live. -/
theorem Heard.arrival (heard : Heard listed live handler) (few : listed.card ≤ 65536)
    (short : live.entries.length ≤ 4294967296) {order : Order} {limits after : LimitBook}
    {executions : List Execution} {told : List MarketDataResponse}
    (inside : order.ticker ∈ listed)
    (unheard : live.lookup order.orderId = none) (positive : 0 < order.currentQuantity)
    (small : order.currentQuantity < 2147483648) (covers : Covers live order.ticker limits)
    (arrival : ArrivalTold limits order after executions told) :
    ∃ grown next, Follows listed live handler order.ticker order.orderId limits after
      (executions = []) told grown next := by
  cases arrival with
  | used fills own entries untraded messages =>
      refine ⟨live, handler, ?_⟩
      refine
        { received := ?_
          heard := heard
          covers := ?_
          elsewhere := fun _ _ _ _ covered => covered
          others := fun _ _ => rfl
          own := ?_
          backs := ?_ }
      · rw [messages]
        exact heard.receive_fills unheard fills
          (fun fill member => congrArg Info.OrderCommon.orderId (own fill member))
      · intro orderId limit found
        obtain ⟨old, stored, faded⟩ := entries orderId limit found
        exact (covers orderId old stored).faded faded
      · intro known lives
        exact Or.inr lives
      · intro none backs
        apply backs.but (fun _ _ => rfl) (untraded none)
        intro known lives
        rw [unheard] at lives
        cases lives
  | rests fills own timestamp left faded nonzero here others untraded messages =>
      have less := UInt32.le_iff_toNat_le.mp faded.less
      have smallNat := UInt32.lt_iff_toNat_lt.mp small
      have limitNat : (2147483648 : UInt32).toNat = 2147483648 := rfl
      have quantity : left.currentQuantity.toInt32.toInt = orderAmount left :=
        (Bytes.toInt32_toInt_iff _).mpr (by omega)
      have some : 1 ≤ orderAmount left := by
        rcases nonzero with same | nonzero
        · rw [same]
          exact UInt32.lt_iff_toNat_lt.mp positive
        · have notNone : left.currentQuantity.toNat ≠ 0 :=
            fun zero => nonzero (UInt32.toNat_inj.mp zero)
          exact Nat.pos_of_ne_zero notNone
      let data : AddOrderData :=
        { timestamp := timestamp.toInt64
          orderId := order.orderId
          ticker := order.ticker
          price := order.price
          quantity := left.currentQuantity.toInt32
          isBuySide := (order.isBuySide != 0).toUInt8
          bookIndex := 0 }
      have remaining : data.liveOrder.remaining = orderAmount left := quantity
      have positiveMessage : (FeedMessage.add data).Positive := by
        change 1 ≤ left.currentQuantity.toInt32.toInt
        omega
      have allowed : live.Allows (.add data) := by
        refine ⟨unheard, ?_⟩
        have total := heard.total_le short data.ticker data.liveOrder.side data.price
        have sum := @totalAt_added live order.orderId data.liveOrder unheard
        change LiveOrders.totalAt (live.insert order.orderId data.liveOrder) data.liveOrder < _
        have atPlace : live.totalAt data.liveOrder =
            live.total data.ticker data.liveOrder.side data.price := rfl
        have amount : orderAmount left < 2147483648 := by
          unfold orderAmount
          omega
        omega
      obtain ⟨next, received, heardNext⟩ := @Heard.receive listed live handler heard few
        (.add
          { timestamp := timestamp
            orderId := order.orderId
            ticker := order.ticker
            price := order.price
            quantity := left.currentQuantity
            isBuySide := order.isBuySide != 0 }) (.add data) rfl positiveMessage allowed
        (Finset.singleton_subset_iff.mpr inside)
      refine ⟨live.insert order.orderId data.liveOrder, next, ?_⟩
      refine
        { received := ?_
          heard := heardNext
          covers := ?_
          elsewhere := ?_
          others := fun _ different => AList.lookup_insert_ne different
          own := ?_
          backs := ?_ }
      · have first := heard.receive_fills unheard fills
          (fun fill member => congrArg Info.OrderCommon.orderId (own fill member))
        rw [messages, run_append first]
        simp only [run, received]
      · intro orderId limit found
        by_cases same : orderId = order.orderId
        · obtain ⟨stored, foundHere, isLeft⟩ := here
          rw [same] at found ⊢
          rw [found] at foundHere
          cases foundHere
          rw [isLeft]
          have side := faded.kept Order.isBuySide (fun _ => rfl)
          have price := faded.kept Order.price (fun _ => rfl)
          refine ⟨data.liveOrder, AList.lookup_insert live, rfl, ?_, price.symm, by omega⟩
          rw [side]
          change ClientOrderBook.sideOf (order.isBuySide != 0).toUInt8 = _
          unfold ClientOrderBook.sideOf
          by_cases zero : order.isBuySide = 0
          · rw [zero]
            rfl
          · have flagged : (order.isBuySide != 0) = true := bne_iff_ne.mpr zero
            rw [flagged, if_pos zero]
            rfl
        · obtain ⟨old, stored, fadedOld⟩ := others orderId limit found same
          exact ((covers orderId old stored).faded fadedOld).kept (AList.lookup_insert_ne same)
      · intro other _different otherId item covered
        apply covered.kept
        apply AList.lookup_insert_ne
        intro same
        rw [same] at covered
        exact covered.isKnown unheard
      · intro known lives
        rw [AList.lookup_insert] at lives
        cases lives
        exact Or.inl rfl
      · intro none backs
        apply backs.but (fun _ different => AList.lookup_insert_ne different) (untraded none).2
        intro known lives
        rw [AList.lookup_insert] at lives
        cases lives
        obtain ⟨limit, stored, isLeft⟩ := here
        refine ⟨limit, stored, ?_⟩
        rw [isLeft]
        omega

/-- An order that is taken out. -/
theorem Heard.removal (heard : Heard listed live handler) (few : listed.card ≤ 65536)
    {ticker : Ticker} {orderId : OrderId} {order : Order} {limits after : LimitBook}
    (covers : Covers live ticker limits) (covered : Covered live ticker orderId order)
    (gone : after.lookup orderId = none) (entries : LimitBook.AgreeBut orderId limits after)
    (untraded : Prop) (timestamp : UInt64) :
    ∃ next, Follows listed live handler ticker orderId limits after untraded
      [.cancel
        { timestamp := timestamp
          orderId := orderId }] (live.erase orderId) next := by
  have allowed : live.Allows (.cancel
      { timestamp := timestamp.toInt64
        orderId := orderId }) := covered.isKnown
  obtain ⟨next, received, heardNext⟩ := @Heard.receive listed live handler heard few
    (.cancel
      { timestamp := timestamp
        orderId := orderId })
    (.cancel
      { timestamp := timestamp.toInt64
        orderId := orderId }) rfl trivial allowed (Finset.empty_subset listed)
  refine ⟨next, ?_⟩
  refine
    { received := run_single received
      heard := heardNext
      covers := ?_
      elsewhere := ?_
      others := fun _ different => AList.lookup_erase_ne different
      own := ?_
      backs := ?_ }
  · intro other limit there
    have different : other ≠ orderId := by
      intro same
      rw [same, gone] at there
      cases there
    obtain ⟨old, stored, same⟩ := entries.found different there
    rw [← same]
    exact (covers other old stored).kept (AList.lookup_erase_ne different)
  · intro other different otherId item coveredOther
    apply coveredOther.kept
    apply AList.lookup_erase_ne
    intro same
    rw [same] at coveredOther
    exact different (covered.one_ticker coveredOther)
  · intro known lives
    rw [AList.lookup_erase] at lives
    cases lives
  · intro _untraded backs
    apply backs.but (fun _ different => AList.lookup_erase_ne different) entries
    intro known lives
    rw [AList.lookup_erase] at lives
    cases lives

/-- An order that gets another quantity where it rests. -/
theorem Heard.change (heard : Heard listed live handler) (few : listed.card ≤ 65536)
    (short : live.entries.length ≤ 4294967296) {ticker : Ticker} {orderId : OrderId}
    {limit : Limit} {quantity : UInt32} {limits : LimitBook} (covers : Covers live ticker limits)
    (found : limits.lookup orderId = some limit) (positive : quantity ≠ 0)
    (small : quantity < 2147483648) (untraded : Prop) (timestamp : UInt64) :
    ∃ after next, Follows listed live handler ticker orderId limits
      (limits.insert orderId { limit with order := limit.order.withQuantity quantity }) untraded
      [.mod
        { timestamp := timestamp
          orderId := orderId
          quantity := quantity }] after next := by
  have covered := covers orderId limit found
  obtain ⟨known, lives, sameTicker, sameSide, samePrice, _enough⟩ := covered
  have smallNat := UInt32.lt_iff_toNat_lt.mp small
  have limitNat : (2147483648 : UInt32).toNat = 2147483648 := rfl
  have amount : quantity.toInt32.toInt = quantity.toNat :=
    (Bytes.toInt32_toInt_iff _).mpr (by omega)
  have notNone : quantity.toNat ≠ 0 := fun zero => positive (UInt32.toNat_inj.mp zero)
  let data : ModOrderData :=
    { timestamp := timestamp.toInt64
      orderId := orderId
      quantity := quantity.toInt32 }
  let changed : LiveOrder := { known with remaining := quantity.toInt32.toInt }
  have replayed : live.replay (.modify data) = live.insert orderId changed := by
    simp only [LiveOrders.replay, data, lives]
    rfl
  have positiveMessage : (FeedMessage.modify data).Positive := by
    change 1 ≤ quantity.toInt32.toInt
    omega
  have allowed : live.Allows (.modify data) := by
    refine ⟨known, lives, ?_⟩
    have total := heard.total_le short known.ticker known.side known.price
    have sum := totalAt_changed lives quantity.toInt32.toInt
    have bounds := heard.remaining lives
    have atPlace : live.totalAt known = live.total known.ticker known.side known.price := rfl
    rw [replayed]
    change LiveOrders.totalAt (live.insert orderId changed) known < _
    change LiveOrders.totalAt (live.insert orderId changed) known = _ at sum
    omega
  obtain ⟨next, received, heardNext⟩ := @Heard.receive listed live handler heard few
    (.mod
      { timestamp := timestamp
        orderId := orderId
        quantity := quantity }) (.modify data) rfl positiveMessage allowed
    (Finset.empty_subset listed)
  rw [replayed] at heardNext
  refine ⟨live.insert orderId changed, next, ?_⟩
  refine
    { received := run_single received
      heard := heardNext
      covers := ?_
      elsewhere := ?_
      others := fun _ different => AList.lookup_insert_ne different
      own := ?_
      backs := ?_ }
  · intro other stored there
    rw [LimitBook.lookup_insert_if] at there
    split at there
    · rename_i same
      cases there
      rw [same]
      refine ⟨changed, AList.lookup_insert live, sameTicker, sameSide, samePrice, ?_⟩
      change ((quantity.toNat : Nat) : Int) ≤ quantity.toInt32.toInt
      omega
    · rename_i different
      exact (covers other stored there).kept (AList.lookup_insert_ne different)
  · intro other different otherId item coveredOther
    apply coveredOther.kept
    apply AList.lookup_insert_ne
    intro same
    rw [same] at coveredOther
    exact different ((covers orderId limit found).one_ticker coveredOther)
  · intro other there
    rw [AList.lookup_insert] at there
    cases there
    exact Or.inl sameTicker
  · intro _untraded backs
    apply backs.but (fun _ different => AList.lookup_insert_ne different)
      ((LimitBook.AgreeBut.refl orderId limits).insert _)
    intro other there
    rw [AList.lookup_insert] at there
    cases there
    refine ⟨_, AList.lookup_insert limits, ?_⟩
    change quantity.toInt32.toInt ≤ ((quantity.toNat : Nat) : Int)
    omega

theorem Follows.trans {ticker : Ticker} {orderId : OrderId} {before limits middle : LimitBook}
    {untraded : Prop} {told later : List MarketDataResponse} {between after : LiveOrders}
    {halfway next : ClientFeedHandler}
    (first : Follows listed live handler ticker orderId before middle untraded told between
      halfway)
    (second : Follows listed between halfway ticker orderId middle limits untraded later after
      next) :
    Follows listed live handler ticker orderId before limits untraded (told ++ later) after
      next where
  received := (run_append first.received later).trans second.received
  heard := second.heard
  covers := second.covers
  elsewhere := fun other different otherId order covered =>
    second.elsewhere other different otherId order
      (first.elsewhere other different otherId order covered)
  others := fun otherId different =>
    (second.others otherId different).trans (first.others otherId different)
  own := by
    intro known lives
    rcases second.own known lives with isTicker | halfway
    · exact Or.inl isTicker
    · exact first.own known halfway
  backs := fun none backed => second.backs none (first.backs none backed)

/-- A call that names a live order brings no other one to life. -/
theorem Follows.brings_none {ticker : Ticker} {orderId : OrderId} {before limits : LimitBook}
    {untraded : Prop} {told : List MarketDataResponse} {after : LiveOrders}
    {next : ClientFeedHandler}
    (follows : Follows listed live handler ticker orderId before limits untraded told after next)
    (known : live.lookup orderId ≠ none) :
    ∀ other, after.lookup other ≠ none → live.lookup other ≠ none := by
  intro other there
  by_cases same : other = orderId
  · rw [same]
    exact known
  · rw [follows.others other same] at there
    exact there

/-- What one call tells is heard. Only an add brings an order to life. -/
theorem Heard.call (heard : Heard listed live handler) (few : listed.card ≤ 65536)
    (short : live.entries.length ≤ 4294967296) {request : Request}
    (inside : request.common.ticker ∈ listed)
    (wanted : OrderBookManager.refusedAtOnce request = false)
    (unheard : ∀ clock order, request = .add clock order →
      live.lookup order.orderId = none)
    (small : modest book request = true)
    (covers : Covers live request.common.ticker book.limitOrders)
    (tells : Tells book request result) :
    ∃ after next, Follows listed live handler request.common.ticker request.common.orderId
      book.limitOrders result.book.limitOrders (result.executions = [])
      (marketDataOf result.emitted) after next ∧
      ((∃ clock order, request = .add clock order) ∨
        ∀ orderId, after.lookup orderId ≠ none → live.lookup orderId ≠ none) := by
  cases tells with
  | nothing _ _ sameBook silent =>
      refine ⟨live, handler, ?_, Or.inr (fun _ known => known)⟩
      rw [sameBook, silent]
      exact
        { received := rfl
          heard := heard
          covers := covers
          elsewhere := fun _ _ _ _ covered => covered
          others := fun _ _ => rfl
          own := fun _ lives => Or.inr lives
          backs := fun _ backs => backs }
  | arrives clock order _ fresh told =>
      simp only [modest, Bool.and_eq_true, decide_eq_true_iff] at small
      obtain ⟨after, next, follows⟩ := heard.arrival few short inside (unheard clock order rfl)
        small.1 small.2 covers told
      exact ⟨after, next, follows, Or.inl ⟨clock, order, rfl⟩⟩
  | cancels clock cancel limit _ found gone entries messages =>
      have covered := covers cancel.orderId limit found
      obtain ⟨next, follows⟩ := heard.removal few covers covered gone entries _ (clock 0).toUInt64
      rw [messages]
      exact ⟨_, next, follows, Or.inr (follows.brings_none covered.isKnown)⟩
  | changes clock modify limit order _ found samePrice sameSide changed written messages =>
      have positive : modify.quantity ≠ 0 := beq_eq_false_iff_ne.mp wanted
      simp only [modest, found, samePrice, bne_self_eq_false, Bool.false_or, Bool.and_eq_true,
        decide_eq_true_iff] at small
      have exactly := @modifyInPlace_exact modify limit.order
        (Or.inl (UInt32.le_iff_toNat_le.mp small.2))
      rw [exactly] at changed
      cases changed
      obtain ⟨after, next, follows⟩ := heard.change few short covers found positive small.1 _ 0
      rw [messages, written]
      exact ⟨after, next, follows,
        Or.inr (follows.brings_none (covers modify.orderId limit found).isKnown)⟩
  | reprices clock modify limit _ without told found newPrice gone entries arrival messages =>
      have positive : modify.quantity ≠ 0 := beq_eq_false_iff_ne.mp wanted
      have covered := covers modify.orderId limit found
      simp only [modest, Bool.and_eq_true, decide_eq_true_iff] at small
      obtain ⟨halfway, removed⟩ :=
        heard.removal few covers covered gone entries _ (clock 0).toUInt64
      have fewer : (live.erase modify.orderId).entries.length ≤ 4294967296 :=
        Nat.le_trans (List.Sublist.length_le (List.kerase_sublist _ _)) short
      obtain ⟨after, next, arrived⟩ := @Heard.arrival listed (live.erase modify.orderId) halfway
        removed.heard few fewer (Order.ofModify modify) without result.book.limitOrders _ told inside
        (AList.lookup_erase _ _) (UInt32.pos_iff_ne_zero.mpr positive) small.1 removed.covers arrival
      have follows := removed.trans arrived
      rw [messages]
      exact ⟨after, next, follows, Or.inr (follows.brings_none covered.isKnown)⟩

end Calls

/-! ### Sessions -/

/-- The quantities of the orders of the id map at a side and price, together. -/
def resting (book : OrderBook) (side : BookSide) (price : Price) : Int :=
  tally (fun limit : Limit =>
    if ClientOrderBook.sideOf limit.order.isBuySide = side ∧ limit.order.price = price then
      (orderAmount limit.order : Int)
    else 0) book.limitOrders

section Resting

variable {listed : Finset Ticker} {live : LiveOrders} {handler : ClientFeedHandler}
  {ticker : Ticker} {book : OrderBook}

/-- Where the orders of the book are covered, as much is live as rests. -/
theorem Covers.resting_le (covers : Covers live ticker book.limitOrders)
    (heard : Heard listed live handler) (side : BookSide) (price : Price) :
    resting book side price ≤ live.total ticker side price := by
  have nonneg : ∀ orderId order, live.lookup orderId = some order →
      0 ≤ LiveOrder.amount ticker side price order := by
    intro orderId order found
    have bounds := heard.remaining found
    unfold LiveOrder.amount
    split <;> omega
  apply tally_le_tally _ nonneg
  intro orderId limit found
  obtain ⟨known, lives, sameTicker, sameSide, samePrice, enough⟩ := covers orderId limit found
  refine Or.inr ⟨known, lives, ?_⟩
  by_cases here : ClientOrderBook.sideOf limit.order.isBuySide = side ∧ limit.order.price = price
  · have isHere : known.isAt ticker side price :=
      ⟨sameTicker, sameSide.trans here.1, samePrice.trans here.2⟩
    rw [if_pos here, LiveOrder.amount, if_pos isHere]
    exact enough
  · rw [if_neg here]
    exact nonneg orderId known lives

/-- Where the book backs what is live as well, no more is live than rests. -/
theorem Backs.le_resting (backs : Backs book.limitOrders ticker live)
    (covers : Covers live ticker book.limitOrders) (side : BookSide) (price : Price) :
    live.total ticker side price ≤ resting book side price := by
  apply tally_le_tally
  · intro orderId known lives
    by_cases here : known.isAt ticker side price
    · obtain ⟨limit, stored, enough⟩ := backs orderId known lives here.1
      obtain ⟨again, livesAgain, -, sameSide, samePrice, -⟩ := covers orderId limit stored
      rw [lives] at livesAgain
      cases livesAgain
      refine Or.inr ⟨limit, stored, ?_⟩
      rw [LiveOrder.amount, if_pos here,
        if_pos ⟨sameSide.symm.trans here.2.1, samePrice.symm.trans here.2.2⟩]
      exact enough
    · rw [LiveOrder.amount, if_neg here]
      exact Or.inl (Int.le_refl 0)
  · intro orderId limit _stored
    split <;> omega

/-- Nothing is live under a ticker without a book. -/
theorem total_eq_zero (away : ∀ orderId known, live.lookup orderId = some known →
    known.ticker ≠ ticker) (side : BookSide) (price : Price) :
    live.total ticker side price = 0 := by
  apply tally_eq_zero
  intro orderId known lives
  rw [LiveOrder.amount, if_neg]
  intro here
  exact away orderId known lives here.1

end Resting

/-- The request that the event makes of a book is a modest one. -/
def modestEvent (session : Session) (event : Event) : Bool :=
  match session.exchange.issues event with
  | none => true
  | some request =>
      match session.exchange.orderbooks.lookup request.common.ticker with
      | none => true
      | some book => OrderBookManager.refusedAtOnce request || modest book request

/-- A session of which that many orders have been counted, and what a client has heard of it. -/
structure Overseen (listed : Finset Ticker) (counted : Nat) (session : Session) (live : LiveOrders)
    (handler : ClientFeedHandler) : Prop where
  started : 1 ≤ session.exchange.orderidGenerator.toNat
  generated : session.exchange.orderidGenerator.toNat ≤ counted + 1
  inside : ∀ ticker book, session.exchange.orderbooks.lookup ticker = some book → ticker ∈ listed
  received : run ClientFeedHandler.receive ClientFeedHandler.fresh session.feed = .ok handler
  heard : Heard listed live handler
  covers : ∀ ticker book, session.exchange.orderbooks.lookup ticker = some book →
    Covers live ticker book.limitOrders
  numbered : ∀ orderId, live.lookup orderId ≠ none →
    1 < orderId.toNat ∧ orderId.toNat ≤ session.exchange.orderidGenerator.toNat
  atHome : ∀ orderId known, live.lookup orderId = some known →
    known.ticker ∈ session.exchange.orderbooks
  backs : session.executions = [] → ∀ ticker book,
    session.exchange.orderbooks.lookup ticker = some book → Backs book.limitOrders ticker live

theorem start_overseen (tickers : List Ticker) :
    Overseen tickers.toFinset 0 (Session.start tickers) ∅ ClientFeedHandler.fresh where
  started := Nat.le_refl 1
  generated := Nat.le_refl 1
  inside := by
    intro ticker book found
    apply List.mem_toFinset.mpr
    apply (OrderBookManager.mem_created tickers ticker).mp
    exact AList.lookup_isSome.mp (Option.isSome_of_mem found)
  received := rfl
  heard := fresh_heard _
  covers := by
    intro ticker book found orderId limit stored
    rw [OrderBookManager.created_allEmpty tickers ticker book found] at stored
    cases stored
  numbered := by
    intro orderId known
    exact absurd rfl known
  atHome := by
    intro orderId known lives
    cases lives
  backs := by
    intro _untraded ticker book _found orderId known lives
    cases lives

namespace Overseen

variable {listed : Finset Ticker} {counted : Nat} {session next : Session} {event : Event}
  {live : LiveOrders} {handler : ClientFeedHandler}

/-- There are no more live orders than have been counted. -/
theorem length_le (overseen : Overseen listed counted session live handler) :
    live.entries.length ≤ counted := by
  have inRange : (live.entries.keys.map UInt64.toNat).toFinset ⊆
      Finset.Icc 2 (counted + 1) := by
    intro number member
    obtain ⟨orderId, present, same⟩ := List.mem_map.mp (List.mem_toFinset.mp member)
    have known : live.lookup orderId ≠ none := by
      intro absent
      exact AList.lookup_eq_none.mp absent present
    have range := overseen.numbered orderId known
    have generated := overseen.generated
    rw [Finset.mem_Icc, ← same]
    omega
  have distinct : (live.entries.keys.map UInt64.toNat).Nodup :=
    List.Nodup.map (fun _ _ => UInt64.toNat_inj.mp) live.nodupKeys
  have bounded := Finset.card_le_card inRange
  rw [List.toFinset_card_of_nodup distinct, List.length_map, Nat.card_Icc] at bounded
  have keys : live.entries.keys.length = live.entries.length := List.length_map _
  omega

/-- The generator moves by what is counted. -/
theorem moves (overseen : Overseen listed counted session live handler)
    (short : counted + (Exchange.isNewOrder event).toNat ≤ 4294967296)
    (moved : next.exchange.orderidGenerator = session.exchange.orderidGenerator ∨
      Exchange.isNewOrder event = true ∧
        next.exchange.orderidGenerator = session.exchange.orderidGenerator + 1) :
    next.exchange.orderidGenerator.toNat ≤
        counted + (Exchange.isNewOrder event).toNat + 1 ∧
      session.exchange.orderidGenerator.toNat ≤ next.exchange.orderidGenerator.toNat := by
  have generated := overseen.generated
  rcases moved with kept | ⟨isNew, up⟩
  · rw [kept]
    omega
  · rw [isNew] at short ⊢
    rw [up, UInt64.toNat_add, UInt64.toNat_one]
    simp only [Bool.toNat_true] at short ⊢
    omega

/-- An event keeps the client above the books. -/
theorem step (overseen : Overseen listed counted session live handler) (few : listed.card ≤ 65536)
    (short : counted + (Exchange.isNewOrder event).toNat ≤ 4294967296)
    (small : modestEvent session event = true) (returned : session.step event = .ok next) :
    ∃ after grown, Overseen listed (counted + (Exchange.isNewOrder event).toNat) next after
      grown := by
  have started := overseen.started
  have generated := overseen.generated
  cases Session.step_feeds returned with
  | apart sameBooks sameExecutions sameFeed moved =>
      have moves := overseen.moves short moved
      refine ⟨live, handler, ?_⟩
      constructor
      · exact Nat.le_trans started moves.2
      · exact moves.1
      · rw [sameBooks]
        exact overseen.inside
      · rw [sameFeed]
        exact overseen.received
      · exact overseen.heard
      · rw [sameBooks]
        exact overseen.covers
      · intro orderId known
        have range := overseen.numbered orderId known
        omega
      · rw [sameBooks]
        exact overseen.atHome
      · rw [sameBooks, sameExecutions]
        exact overseen.backs
  | called request book result issued found wanted calls written executions fed moved =>
      have moves := overseen.moves short (by
        rcases moved with ⟨_, _, _, _, isNew, up⟩ | ⟨_, kept⟩
        · exact Or.inr ⟨isNew, up⟩
        · exact Or.inl kept)
      have added : ∀ clock order, request = .add clock order →
          order.orderId.toNat = session.exchange.orderidGenerator.toNat + 1 ∧
            next.exchange.orderidGenerator = order.orderId := by
        intro clock order named
        rcases moved with ⟨_, other, same, isNext, isNew, up⟩ | ⟨noAdd, _⟩
        · rw [named] at same
          cases same
          rw [isNew] at short
          simp only [Bool.toNat_true] at short
          refine ⟨?_, up.trans isNext.symm⟩
          rw [isNext, UInt64.toNat_add, UInt64.toNat_one]
          omega
        · exact absurd named (noAdd clock order)
      have unheard : ∀ clock order, request = .add clock order →
          live.lookup order.orderId = none := by
        intro clock order named
        by_contra known
        have range := overseen.numbered order.orderId known
        have isNext := (added clock order named).1
        omega
      simp only [modestEvent, issued, found, wanted, Bool.false_or] at small
      have fewer : live.entries.length ≤ 4294967296 := by
        have length := overseen.length_le
        omega
      obtain ⟨after, grown, follows, lives⟩ := overseen.heard.call few fewer
        (overseen.inside _ book found) wanted unheard small (overseen.covers _ book found)
        (OrderBook.call_tells calls)
      refine ⟨after, grown, ?_⟩
      constructor
      · exact Nat.le_trans started moves.2
      · exact moves.1
      · intro ticker other there
        rw [written] at there
        by_cases same : ticker = request.common.ticker
        · rw [same]
          exact overseen.inside _ book found
        · rw [AList.lookup_insert_ne same] at there
          exact overseen.inside ticker other there
      · rw [fed, run_append overseen.received]
        exact follows.received
      · exact follows.heard
      · intro ticker other there
        rw [written] at there
        by_cases same : ticker = request.common.ticker
        · rw [same, AList.lookup_insert] at there
          cases there
          rw [same]
          exact follows.covers
        · rw [AList.lookup_insert_ne same] at there
          intro orderId limit stored
          exact follows.elsewhere ticker same orderId limit.order
            (overseen.covers ticker other there orderId limit stored)
      · intro orderId known
        rcases lives with ⟨clock, order, named⟩ | older
        · obtain ⟨isNext, generator⟩ := added clock order named
          by_cases same : orderId = order.orderId
          · rw [generator, same]
            omega
          · have isOrder : request.common.orderId = order.orderId := by
              rw [named]
              rfl
            rw [follows.others orderId (isOrder.symm ▸ same)] at known
            have range := overseen.numbered orderId known
            omega
        · have range := overseen.numbered orderId (older orderId known)
          omega
      · intro orderId known lives
        rw [written]
        apply (AList.mem_insert _).mpr
        by_cases same : orderId = request.common.orderId
        · rw [same] at lives
          rcases follows.own known lives with isTicker | older
          · exact Or.inl isTicker
          · exact Or.inr (overseen.atHome _ known older)
        · rw [follows.others orderId same] at lives
          exact Or.inr (overseen.atHome orderId known lives)
      · intro untraded ticker other there
        rw [executions] at untraded
        obtain ⟨earlier, now⟩ := List.append_eq_nil_iff.mp untraded
        have backs := overseen.backs earlier
        rw [written] at there
        by_cases same : ticker = request.common.ticker
        · rw [same, AList.lookup_insert] at there
          cases there
          rw [same]
          exact follows.backs (List.map_eq_nil_iff.mp now) (backs _ book found)
        · rw [AList.lookup_insert_ne same] at there
          intro orderId known lives isTicker
          by_cases named : orderId = request.common.orderId
          · rw [named] at lives ⊢
            rcases follows.own known lives with isRequest | older
            · exact absurd (isTicker.symm.trans isRequest) same
            · exact backs ticker other there _ known older isTicker
          · rw [follows.others orderId named] at lives
            exact backs ticker other there orderId known lives isTicker

/-- Every modest run keeps the client above the books. -/
theorem run {events : List Event} {finish : Session}
    (overseen : Overseen listed counted session live handler) (few : listed.card ≤ 65536)
    (short : counted + Exchange.newOrders events ≤ 4294967296)
    (small : Guarded Session.step (fun session event => modestEvent session event = true) session
      events)
    (reached : Machine.run Session.step session events = .ok finish) :
    ∃ total after grown, Overseen listed total finish after grown := by
  induction events generalizing session counted live handler with
  | nil =>
      cases reached
      exact ⟨counted, live, handler, overseen⟩
  | cons event rest ih =>
      have split : Exchange.newOrders (event :: rest) =
          Exchange.newOrders rest + (Exchange.isNewOrder event).toNat := by
        unfold Exchange.newOrders
        rw [List.countP_cons]
        cases Exchange.isNewOrder event <;> rfl
      unfold Machine.run at reached
      cases taken : session.step event with
      | error problem =>
          rw [taken] at reached
          cases reached
      | ok next =>
          rw [taken] at reached
          obtain ⟨after, grown, further⟩ := overseen.step few (by omega) small.1 taken
          exact ih further (by omega) (small.2 next taken) reached

/-- What the handler tracks is live. -/
theorem lives (overseen : Overseen listed counted session live handler) {orderId : OrderId}
    {data : AddOrderData} (got : handler.getOrder orderId = some data) :
    live.lookup orderId = some data.liveOrder := by
  obtain ⟨_announced, _within, replays⟩ := overseen.heard
  have isKnown := replays.orders orderId
  have tracked : handler.orders.lookup orderId = some data := got
  rw [tracked] at isKnown
  exact isKnown.symm

/-- An order that rests is known with no less than rests. -/
theorem known (overseen : Overseen listed counted session live handler) {ticker : Ticker}
    {book : OrderBook} {orderId : OrderId} {limit : Limit}
    (found : session.exchange.orderbooks.lookup ticker = some book)
    (stored : book.limitOrders.lookup orderId = some limit) :
    ∃ data, handler.getOrder orderId = some data ∧ data.ticker = ticker ∧
      ClientOrderBook.sideOf data.isBuySide = ClientOrderBook.sideOf limit.order.isBuySide ∧
      data.price = limit.order.price ∧ (orderAmount limit.order : Int) ≤ data.quantity.toInt := by
  obtain ⟨known, lives, sameTicker, sameSide, samePrice, enough⟩ :=
    overseen.covers ticker book found orderId limit stored
  obtain ⟨_announced, _within, replays⟩ := overseen.heard
  have isKnown := replays.orders orderId
  rw [lives] at isKnown
  obtain ⟨data, got, same⟩ := Option.map_eq_some_iff.mp isKnown
  rw [← same] at sameTicker sameSide samePrice enough
  exact ⟨data, got, sameTicker, sameSide, samePrice, enough⟩

end Overseen

/-- The client knows each order that rests, and displays at least what rests. -/
structure ShowsEnough (session : Session) (handler : ClientFeedHandler) : Prop where
  known : ∀ ticker book orderId limit,
    session.exchange.orderbooks.lookup ticker = some book →
      book.limitOrders.lookup orderId = some limit →
        ∃ data, handler.getOrder orderId = some data ∧ data.ticker = ticker ∧
          ClientOrderBook.sideOf data.isBuySide = ClientOrderBook.sideOf limit.order.isBuySide ∧
          data.price = limit.order.price ∧
          (orderAmount limit.order : Int) ≤ data.quantity.toInt
  displayed : ∀ ticker book side price,
    session.exchange.orderbooks.lookup ticker = some book →
      resting book side price ≤ sizeOf (handler.displayed ticker side price)

theorem Overseen.showsEnough {listed : Finset Ticker} {counted : Nat} {session : Session}
    {live : LiveOrders} {handler : ClientFeedHandler}
    (overseen : Overseen listed counted session live handler) : ShowsEnough session handler where
  known := fun _ticker _book _orderId _limit found stored => overseen.known found stored
  displayed := by
    intro ticker book side price found
    rw [overseen.heard.displayed]
    exact (overseen.covers ticker book found).resting_le overseen.heard side price

/-- Along every run in which no order is raised where it rests, a client that receives the
market data receives all of it, and never shows less than there is, in any book. -/
theorem never_shows_less (tickers : List Ticker) (events : List Event) (finish : Session)
    (fewTickers : tickers.toFinset.card ≤ 65536)
    (fewOrders : Exchange.newOrders events ≤ 4294967296)
    (small : Guarded Session.step (fun session event => modestEvent session event = true)
      (Session.start tickers) events)
    (reached : run Session.step (Session.start tickers) events = .ok finish) :
    ∃ handler, run ClientFeedHandler.receive ClientFeedHandler.fresh finish.feed = .ok handler ∧
      ShowsEnough finish handler := by
  obtain ⟨total, live, handler, overseen⟩ :=
    (start_overseen tickers).run fewTickers (by omega) small reached
  exact ⟨handler, overseen.received, overseen.showsEnough⟩

/-- Two sells of which a buy takes one and a part of the other, and a sell that a second client
cuts down. -/
def soldInPart : List Event :=
  [.verifyID (fun _ => 0) 1 (orderOn 7 1 false 5),
    .readOrderEntry (fun _ => 0) 1 (orderOn 7 1 false 4),
    .verifyID (fun _ => 0) 2 (orderOn 7 2 true 6),
    .readOrderEntry (fun _ => 0) 2 (orderOn 8 2 false 9),
    .readOrderEntry (fun _ => 0) 2
      (.modifyOrder
        { orderCommon := { orderId := 5, userId := 2, ticker := 8 }
          quantity := 2
          isBuySide := false
          price := 100 })]

theorem soldInPart_shows_more :
    ∃ finish, run Session.step (Session.start [7, 8]) soldInPart = .ok finish ∧
      ([7, 8].map (fun ticker => (finish.exchange.orderbooks.lookup ticker).map
        (fun book => resting book .asks 100))) = [some 3, some 2] ∧
      ∃ handler, run ClientFeedHandler.receive ClientFeedHandler.fresh finish.feed = .ok handler ∧
        ShowsEnough finish handler := by
  have evaluated : (run Session.step (Session.start [7, 8]) soldInPart).toOption.map
      (fun finish => [7, 8].map (fun ticker => (finish.exchange.orderbooks.lookup ticker).map
        (fun book => resting book .asks 100))) = some [some 3, some 2] := by decide +kernel
  obtain ⟨finish, reached, rests⟩ := returns_of_view evaluated
  exact ⟨finish, reached, rests,
    never_shows_less [7, 8] soldInPart finish (by decide) (by decide) (by decide +kernel) reached⟩

/-- The client knows the orders that rest, and no other, and displays what rests. -/
structure ShowsExactly (session : Session) (handler : ClientFeedHandler) : Prop where
  known : ∀ ticker book orderId limit,
    session.exchange.orderbooks.lookup ticker = some book →
      book.limitOrders.lookup orderId = some limit →
        ∃ data, handler.getOrder orderId = some data ∧ data.ticker = ticker ∧
          ClientOrderBook.sideOf data.isBuySide = ClientOrderBook.sideOf limit.order.isBuySide ∧
          data.price = limit.order.price ∧
          data.quantity.toInt = (orderAmount limit.order : Int)
  rests : ∀ orderId data, handler.getOrder orderId = some data →
    ∃ book limit, session.exchange.orderbooks.lookup data.ticker = some book ∧
      book.limitOrders.lookup orderId = some limit
  displayed : ∀ ticker book side price,
    session.exchange.orderbooks.lookup ticker = some book →
      sizeOf (handler.displayed ticker side price) = resting book side price
  nothing : ∀ ticker side price, session.exchange.orderbooks.lookup ticker = none →
    sizeOf (handler.displayed ticker side price) = 0

theorem Overseen.showsExactly {listed : Finset Ticker} {counted : Nat} {session : Session}
    {live : LiveOrders} {handler : ClientFeedHandler}
    (overseen : Overseen listed counted session live handler) (untraded : session.executions = []) :
    ShowsExactly session handler := by
  have backs := overseen.backs untraded
  constructor
  · intro ticker book orderId limit found stored
    obtain ⟨data, got, sameTicker, sameSide, samePrice, enough⟩ :=
      overseen.known found stored
    have lives := overseen.lives got
    obtain ⟨again, storedAgain, most⟩ := backs ticker book found orderId _ lives sameTicker
    rw [stored] at storedAgain
    cases storedAgain
    exact ⟨data, got, sameTicker, sameSide, samePrice, Int.le_antisymm most enough⟩
  · intro orderId data got
    have lives := overseen.lives got
    obtain ⟨book, found⟩ := Option.isSome_iff_exists.mp
      (AList.lookup_isSome.mpr (overseen.atHome orderId _ lives))
    obtain ⟨limit, stored, _most⟩ := backs _ book found orderId _ lives rfl
    exact ⟨book, limit, found, stored⟩
  · intro ticker book side price found
    have covers := overseen.covers ticker book found
    rw [overseen.heard.displayed]
    exact Int.le_antisymm ((backs ticker book found).le_resting covers side price)
      (covers.resting_le overseen.heard side price)
  · intro ticker side price none
    rw [overseen.heard.displayed]
    apply total_eq_zero
    intro orderId known lives isTicker
    have listed := overseen.atHome orderId known lives
    rw [isTicker] at listed
    exact AList.lookup_eq_none.mp none listed

/-- Along every such run in which nothing trades, a client that receives the market data knows
and shows exactly what rests, in every book at once. -/
theorem untraded_shows_exactly (tickers : List Ticker) (events : List Event) (finish : Session)
    (fewTickers : tickers.toFinset.card ≤ 65536)
    (fewOrders : Exchange.newOrders events ≤ 4294967296)
    (small : Guarded Session.step (fun session event => modestEvent session event = true)
      (Session.start tickers) events)
    (reached : run Session.step (Session.start tickers) events = .ok finish)
    (untraded : finish.executions = []) :
    ∃ handler, run ClientFeedHandler.receive ClientFeedHandler.fresh finish.feed = .ok handler ∧
      ShowsExactly finish handler := by
  obtain ⟨total, live, handler, overseen⟩ :=
    (start_overseen tickers).run fewTickers (by omega) small reached
  exact ⟨handler, overseen.received, overseen.showsExactly untraded⟩

/-- Two sells in one book, of which the first is withdrawn, and a sell in another book that is
cut down and then moved to another price. -/
def offersOnly : List Event :=
  [.verifyID (fun _ => 0) 1 (orderOn 7 1 false 5),
    .readOrderEntry (fun _ => 0) 1 (orderOn 7 1 false 4),
    .readOrderEntry (fun _ => 0) 1
      (.cancelOrder { orderCommon := { orderId := 2, userId := 1, ticker := 7 } }),
    .verifyID (fun _ => 0) 2 (orderOn 8 2 false 9),
    .readOrderEntry (fun _ => 0) 2
      (.modifyOrder
        { orderCommon := { orderId := 4, userId := 2, ticker := 8 }
          quantity := 2
          isBuySide := false
          price := 100 }),
    .readOrderEntry (fun _ => 0) 2
      (.modifyOrder
        { orderCommon := { orderId := 4, userId := 2, ticker := 8 }
          quantity := 6
          isBuySide := false
          price := 90 })]

theorem offersOnly_shows_exactly :
    ∃ finish, run Session.step (Session.start [7, 8]) offersOnly = .ok finish ∧
      (finish.exchange.orderbooks.lookup 7).map (fun book => resting book .asks 100) = some 4 ∧
      (finish.exchange.orderbooks.lookup 8).map (fun book => resting book .asks 90) = some 6 ∧
      ∃ handler, run ClientFeedHandler.receive ClientFeedHandler.fresh finish.feed = .ok handler ∧
        ShowsExactly finish handler := by
  have evaluated : (run Session.step (Session.start [7, 8]) offersOnly).toOption.map
      (fun finish =>
        (finish.executions,
          (finish.exchange.orderbooks.lookup 7).map (fun book => resting book .asks 100),
          (finish.exchange.orderbooks.lookup 8).map (fun book => resting book .asks 90))) =
      some ([], some 4, some 6) := by decide +kernel
  obtain ⟨finish, reached, seen⟩ := returns_of_view evaluated
  obtain ⟨untraded, rests⟩ := Prod.mk.inj seen
  obtain ⟨seven, eight⟩ := Prod.mk.inj rests
  exact ⟨finish, reached, seven, eight,
    untraded_shows_exactly [7, 8] offersOnly finish (by decide) (by decide) (by decide +kernel)
      reached untraded⟩

end Client
end SpotExchange
