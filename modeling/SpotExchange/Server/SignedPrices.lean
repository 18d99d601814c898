/-
Prices as the clients send them. A signed price is read as an unsigned one, and only
unsigned prices are compared; the two orders agree on prices of one sign.
-/

import SpotExchange.Bytes.LittleEndian
import SpotExchange.Engine.TimePriority
import SpotExchange.Server.Ownership

namespace SpotExchange
namespace Server

open Collections Engine Machine Wire OrderBook OrderBookManager

/-! ### Signed and unsigned prices -/

def isNegative (price : Price) : Bool := decide (9223372036854775808 ≤ price.toNat)

theorem toInt_toInt64 (price : Price) :
    price.toInt64.toInt =
      if isNegative price then (price.toNat : Int) - 18446744073709551616 else price.toNat := by
  have signed := Bytes.toInt64_toInt price
  by_cases small : price.toNat < 2 ^ 63
  · rw [if_pos small] at signed
    have positive : isNegative price = false := decide_eq_false (by omega)
    rw [signed, positive]
    rfl
  · rw [if_neg small] at signed
    have negative : isNegative price = true := decide_eq_true (by omega)
    rw [signed, negative]
    rfl

/-- The order reaches nothing, or its price and all prices of the opposite side have one
sign. -/
def signsAgree (book : OrderBook) (order : Order) : Bool :=
  !book.reaches order ||
    if order.isBuySide = 1 then
      book.asks.keys.all (fun price => isNegative price == isNegative order.price)
    else book.bids.keys.all (fun price => isNegative price == isNegative order.price)

/-- A message with the connection on which it is read and the readings of the clock. -/
structure Entry where
  clock : Nat → Int64
  connection : ConnectionRef
  message : OrderEntryRequest

namespace Entry

/-- The request that a message is made into. -/
def request (entry : Entry) : Option Request :=
  match entry.message with
  | .newOrder order => some (.add entry.clock (Exchange.newOrderOf entry.connection order))
  | .modifyOrder changes =>
      some (.modify entry.clock (Exchange.modifyOrderOf entry.connection changes))
  | .cancelOrder cancels =>
      some (.cancel entry.clock (Exchange.cancelOrderOf entry.connection cancels))
  | .notSet => none

/-- The side and the price of a message, as the client sent them. -/
def offer (entry : Entry) : Option (Bool × Int64) :=
  match entry.message with
  | .newOrder order => some (order.isBuySide, order.price)
  | .modifyOrder changes => some (changes.isBuySide, changes.price)
  | .cancelOrder _ => none
  | .notSet => none

end Entry

/-- The order that a request brings to the book of its ticker. -/
def arrivingAt (books : OrderBooks) (request : Request) : Option Order :=
  match books.lookup request.common.ticker with
  | none => none
  | some book => if refusedAtOnce request then none else book.arriving request

/-- The books, and the price that was last sent for each order that a message brought. -/
structure Market where
  books : OrderBooks
  sent : Ticker → OrderId → Int64

namespace Market

def start (tickers : List Ticker) : Market :=
  { books := OrderBookManager.created tickers
    sent := fun _ _ => 0 }

def handle (market : Market) (entry : Entry) : Except Fault Handled :=
  match entry.request with
  | none =>
      .ok { books := market.books
            executions := []
            emitted := [] }
  | some request => OrderBookManager.handle market.books request

/-- The order that a message brings, with its ticker and the price sent. -/
def brought (market : Market) (entry : Entry) : Option (Ticker × OrderId × Int64) :=
  match entry.request, entry.offer with
  | some request, some (_, price) =>
      (arrivingAt market.books request).map
        (fun order => (request.common.ticker, order.orderId, price))
  | _, _ => none

def after (market : Market) (entry : Entry) (books : OrderBooks) : Market :=
  { books := books
    sent := fun ticker orderId =>
      match market.brought entry with
      | none => market.sent ticker orderId
      | some (there, arrived, price) =>
          if ticker = there ∧ orderId = arrived then price else market.sent ticker orderId }

def step (market : Market) (entry : Entry) : Except Fault Market :=
  (market.handle entry).map (fun handled => market.after entry handled.books)

/-- The order of the message stops cleanly, and its price has the sign of those it meets. -/
def agrees (market : Market) (entry : Entry) : Bool :=
  match entry.request with
  | none => true
  | some request =>
      match market.books.lookup request.common.ticker with
      | none => true
      | some book =>
          refusedAtOnce request ||
            (book.cleanRequest request &&
              match book.arriving request with
              | none => true
              | some order => signsAgree book order)

/-- The books are well formed, and each resting order has the price last sent for it. -/
structure Sound (market : Market) : Prop where
  wellFormed : BooksWellFormed market.books
  priced : ∀ ticker book orderId limit, market.books.lookup ticker = some book →
    book.limitOrders.lookup orderId = some limit →
    limit.order.price = (market.sent ticker orderId).toUInt64

theorem start_sound (tickers : List Ticker) : Sound (start tickers) where
  wellFormed := by
    intro ticker book found
    rw [created_allEmpty tickers ticker book found]
    exact empty_wellFormed 0
  priced := by
    intro ticker book orderId limit found stored
    rw [created_allEmpty tickers ticker book found] at stored
    cases stored

/-- A message leaves the books alone and brings nothing, or is one call of one of them. -/
inductive Handling (market : Market) (entry : Entry) (handled : Handled) : Prop
  | idle (sameBooks : handled.books = market.books) (noTrade : handled.executions = [])
      (nothing : market.brought entry = none)
  | called (request : Request) (book : OrderBook) (result : CallResult)
      (made : entry.request = some request)
      (found : market.books.lookup request.common.ticker = some book)
      (passed : refusedAtOnce request = false)
      (effect : Effect book request result)
      (agree : ∀ order, book.arriving request = some order → signsAgree book order = true)
      (written : handled.books = market.books.insert request.common.ticker result.book)
      (executed : handled.executions =
        result.executions.map (fun execution => (request.common.ticker, execution)))

theorem brought_none {market : Market} {entry : Entry} {request : Request}
    (made : entry.request = some request) (nothing : arrivingAt market.books request = none) :
    market.brought entry = none := by
  unfold brought
  rw [made]
  cases entry.offer with
  | none => rfl
  | some offer => simp only [nothing, Option.map_none]

theorem arriving_price {book : OrderBook} {entry : Entry} {request : Request} {order : Order}
    (made : entry.request = some request) (arrives : book.arriving request = some order) :
    ∃ isBuySide price, entry.offer = some (isBuySide, price) ∧ order.price = price.toUInt64 ∧
      order.isBuySide = isBuySide.toUInt8 := by
  unfold Entry.request at made
  unfold Entry.offer
  cases message : entry.message with
  | newOrder new =>
      rw [message] at made
      cases made
      simp only [arriving] at arrives
      split at arrives
      · cases arrives
        exact ⟨_, _, rfl, rfl, rfl⟩
      · cases arrives
  | modifyOrder changes =>
      rw [message] at made
      cases made
      simp only [arriving] at arrives
      split at arrives
      · cases arrives
        exact ⟨_, _, rfl, rfl, rfl⟩
      · cases arrives
  | cancelOrder cancels =>
      rw [message] at made
      cases made
      cases arrives
  | notSet =>
      rw [message] at made
      cases made

theorem brought_arriving {market : Market} {entry : Entry} {request : Request} {book : OrderBook}
    (made : entry.request = some request)
    (found : market.books.lookup request.common.ticker = some book)
    (passed : refusedAtOnce request = false) {order : Order}
    (arrives : book.arriving request = some order) :
    ∃ isBuySide price, entry.offer = some (isBuySide, price) ∧ order.price = price.toUInt64 ∧
      order.isBuySide = isBuySide.toUInt8 ∧
      market.brought entry = some (request.common.ticker, order.orderId, price) := by
  obtain ⟨isBuySide, price, offered, samePrice, sameSide⟩ := arriving_price made arrives
  refine ⟨isBuySide, price, offered, samePrice, sameSide, ?_⟩
  simp only [brought, made, offered, arrivingAt, found, passed, Bool.false_eq_true, if_false,
    arrives, Option.map_some]

theorem brought_other {market : Market} {entry : Entry} {request : Request} {book : OrderBook}
    (made : entry.request = some request)
    (found : market.books.lookup request.common.ticker = some book)
    (nothing : book.arriving request = none) : market.brought entry = none := by
  apply brought_none made
  unfold arrivingAt
  rw [found]
  simp only
  split
  · rfl
  · exact nothing

/-- What rests after a call has the price of the order that the call brought, when it is
that order, and else the price it had. -/
theorem price_origin {book : OrderBook} {request : Request} {result : CallResult}
    (wellFormed : book.WellFormed) (effect : Effect book request result) {orderId : OrderId}
    {limit : Limit} (stored : result.book.limitOrders.lookup orderId = some limit) :
    (∃ order, book.arriving request = some order ∧ order.orderId = orderId ∧
        limit.order.price = order.price) ∨
      ((book.arriving request).map Order.orderId ≠ some orderId ∧
        ∃ old, book.limitOrders.lookup orderId = some old ∧
          old.order.price = limit.order.price) := by
  by_cases named : (book.arriving request).map Order.orderId = some orderId
  · obtain ⟨order, arrival, sameId⟩ := Option.map_eq_some_iff.mp named
    refine Or.inl ⟨order, arrival, sameId, ?_⟩
    obtain ⟨side, _flag, member, ownId⟩ :=
      (effect.wellFormed wellFormed).flag_of_lookup stored
    rcases effect.origin wellFormed member with ⟨old, oldMember, quantity, same⟩ | new
    · have before : order.orderId ∈ orderIds (book.queueAt side limit.order.price) := by
        rw [sameId, ← ownId, same, Order.withQuantity_orderId]
        rw [same, Order.withQuantity_price] at oldMember
        exact List.mem_map_of_mem oldMember
      have gone := effect.arrives_elsewhere wellFormed arrival before
      rw [sameId, ← ownId] at gone
      exact absurd (List.mem_map_of_mem member) gone
    · obtain ⟨brings, quantity, arrives, same⟩ := new
      rw [arrival] at arrives
      cases arrives
      rw [same, Order.withQuantity_price]
  · obtain ⟨old, storedOld, _side, samePrice⟩ := effect.keeps_place wellFormed stored named
    exact Or.inr ⟨named, old, storedOld, samePrice⟩

/-- The price sent for an order stays unless the message brings that order. -/
theorem sent_after {market : Market} {entry : Entry} {request : Request} {book : OrderBook}
    (made : entry.request = some request)
    (found : market.books.lookup request.common.ticker = some book)
    (passed : refusedAtOnce request = false) (books : OrderBooks) {ticker : Ticker}
    {orderId : OrderId}
    (others : ¬(ticker = request.common.ticker ∧
      (book.arriving request).map Order.orderId = some orderId)) :
    (market.after entry books).sent ticker orderId = market.sent ticker orderId := by
  cases arrival : book.arriving request with
  | none => simp only [after, brought_other made found arrival]
  | some order =>
      obtain ⟨_isBuySide, price, _offered, _orderPrice, _sameSide, brings⟩ :=
        brought_arriving made found passed arrival
      rw [arrival, Option.map_some, Option.some.injEq] at others
      simp only [after, brings]
      rw [if_neg (fun both => others ⟨both.1, both.2.symm⟩)]

/-- Handling a message keeps the prices of the resting orders those that were sent. -/
theorem Handling.sound {market : Market} {entry : Entry} {handled : Handled} (sound : market.Sound)
    (handling : Handling market entry handled) : (market.after entry handled.books).Sound := by
  cases handling with
  | idle sameBooks _noTrade nothing =>
      constructor
      · change BooksWellFormed handled.books
        rw [sameBooks]
        exact sound.wellFormed
      · intro ticker book orderId limit found stored
        change handled.books.lookup ticker = some book at found
        rw [sameBooks] at found
        simp only [after, nothing]
        exact sound.priced ticker book orderId limit found stored
  | called request book result made found passed effect _agree written _executed =>
      have wellFormed := sound.wellFormed _ book found
      constructor
      · intro ticker other there
        change handled.books.lookup ticker = some other at there
        rw [written] at there
        by_cases same : ticker = request.common.ticker
        · rw [same, AList.lookup_insert] at there
          cases there
          exact effect.wellFormed wellFormed
        · rw [AList.lookup_insert_ne same] at there
          exact sound.wellFormed ticker other there
      · intro ticker other orderId limit there stored
        change handled.books.lookup ticker = some other at there
        rw [written] at there
        by_cases same : ticker = request.common.ticker
        · subst same
          rw [AList.lookup_insert] at there
          cases there
          rcases price_origin wellFormed effect stored with
            ⟨order, arrival, sameId, samePrice⟩ | ⟨others, old, storedOld, samePrice⟩
          · obtain ⟨_isBuySide, price, _offered, orderPrice, _sameSide, brings⟩ :=
              brought_arriving made found passed arrival
            simp only [after, brings, true_and]
            rw [if_pos sameId.symm, samePrice, orderPrice]
          · rw [sent_after made found passed _ (fun both => others both.2), ← samePrice]
            exact sound.priced _ book orderId old found storedOld
        · rw [AList.lookup_insert_ne same] at there
          rw [sent_after made found passed _ (fun both => same both.1)]
          exact sound.priced ticker other orderId limit there stored

end Market

end Server
end SpotExchange
