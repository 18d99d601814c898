/-
The displayed sizes beside the orders that the handler itself tracks. No assumption is
made on the feed: messages may be lost, repeated and reordered.
-/

import SpotExchange.Client.Mirror
import SpotExchange.Collections.Tally
import SpotExchange.Machine.Run

namespace SpotExchange
namespace Client

open Collections Engine Machine

/-! ### Quantities -/

namespace FeedMessage

/-- A message that names a quantity names a positive one. -/
def Positive : FeedMessage → Prop
  | .add newOrder => 1 ≤ newOrder.quantity.toInt
  | .modify modifyOrder => 1 ≤ modifyOrder.quantity.toInt
  | .cancel _ => True
  | .fill filled => 1 ≤ filled.quantity.toInt

instance : DecidablePred Positive := by
  intro message
  cases message <;> unfold Positive <;> infer_instance

end FeedMessage

/-- A message with a quantity between 1 and 2^31 - 1, if any. -/
structure SizedMessage where
  message : FeedMessage
  positive : message.Positive

theorem sizeOf_lt (entry : Option Int64) : sizeOf entry < 9223372036854775808 := by
  cases entry with
  | none => exact Int.lt_of_sub_pos (by decide)
  | some size => exact size.toInt_lt

/-- What is left of a size is never negative, however much is removed. -/
theorem sizeOf_remove_eq_max {entry : Option Int64} {shares : Int32}
    (sizeNonneg : 0 ≤ sizeOf entry) (sharesNonneg : 0 ≤ shares.toInt) :
    sizeOf (entry.bind (fun size =>
        if size - shares.toInt64 ≤ 0 then none else some (size - shares.toInt64))) =
      max (sizeOf entry - shares.toInt) 0 := by
  by_cases covered : shares.toInt ≤ sizeOf entry
  · rw [sizeOf_remove sharesNonneg covered]
    omega
  · cases entry with
    | none =>
        have nothing : sizeOf none = 0 := rfl
        rw [Option.bind_none]
        omega
    | some size =>
        have same : sizeOf (some size) = size.toInt := rfl
        have sharesBound := shares.toInt_lt
        rw [Option.bind_some, if_pos (sub_toInt64_emptied (by omega) (by omega))]
        have nothing : sizeOf none = 0 := rfl
        omega

/-- A size changes when a positive number of shares is added, even where it wraps. -/
theorem sizeOf_add_ne {entry : Option Int64} {shares : Int32} (positive : 1 ≤ shares.toInt) :
    sizeOf (some (entry.getD 0 + shares.toInt64)) ≠ sizeOf entry := by
  have bound := shares.toInt_lt
  have sizeBound := sizeOf_lt entry
  have sum : sizeOf (some (entry.getD 0 + shares.toInt64)) =
      (entry.getD 0 + shares.toInt64).toInt := rfl
  rw [sum, Int64.toInt_add, getD_toInt, Int32.toInt_toInt64, Int.bmod_def]
  split <;> omega

theorem remaining_pos {entry : Option Int64} {shares : Int32} {size : Int64}
    (left : entry.bind (fun size =>
      if size - shares.toInt64 ≤ 0 then none else some (size - shares.toInt64)) = some size) :
    0 < size.toInt := by
  obtain ⟨old, _found, kept⟩ := Option.bind_eq_some_iff.mp left
  split at kept
  · cases kept
  · rename_i more
    cases kept
    have above := Int64.lt_iff_toInt_lt.mp (Int64.not_le.mp more)
    exact above

/-! ### Places -/

/-- A price on a side of the book under an index. -/
structure Place where
  index : Nat
  side : BookSide
  price : Price
  deriving DecidableEq

def AddOrderData.place (data : AddOrderData) : Place :=
  { index := data.bookIndex.toNat
    side := ClientOrderBook.sideOf data.isBuySide
    price := data.price }

/-- What an order contributes to a place. -/
def amountAt (place : Place) (data : AddOrderData) : Int :=
  if data.place = place then data.quantity.toInt else 0

theorem amountAt_place (data : AddOrderData) : amountAt data.place data = data.quantity.toInt :=
  if_pos rfl

theorem amountAt_away {data : AddOrderData} {place : Place} (away : place ≠ data.place) :
    amountAt place data = 0 :=
  if_neg away.symm

namespace ClientFeedHandler

/-- The entry of a place, if there is one. -/
def entry (handler : ClientFeedHandler) (place : Place) : Option Int64 :=
  match handler.orderbooks[place.index]? with
  | none => none
  | some book => (book.sizes place.side).lookup place.price

/-- The sum of the quantities of the orders that the handler tracks at a place. -/
def tracked (handler : ClientFeedHandler) (place : Place) : Int :=
  tally (amountAt place) handler.orders

/-- The place at which an add message arrives. -/
def placeOf (handler : ClientFeedHandler) (newOrder : AddOrderData) : Place :=
  { index := (handler.openBook newOrder.ticker).2.toNat
    side := ClientOrderBook.sideOf newOrder.isBuySide
    price := newOrder.price }

/-- Every book displays what the handler tracks. -/
def SelfConsistent (handler : ClientFeedHandler) : Prop :=
  ∀ index book, handler.orderbooks[index]? = some book → ∀ side price,
    sizeOf ((book.sizes side).lookup price) =
      handler.tracked
        { index := index
          side := side
          price := price }

/-- An add names an id that is not tracked, a fill takes no more than its order has where
others are tracked at its place, and no sum outgrows a size. -/
def StaysInStep (handler : ClientFeedHandler) : FeedMessage → Prop
  | .add newOrder =>
      handler.orders.lookup newOrder.orderId = none ∧
        handler.tracked (handler.placeOf newOrder) + newOrder.quantity.toInt <
          9223372036854775808
  | .modify modifyOrder =>
      ∀ data, handler.orders.lookup modifyOrder.orderId = some data →
        handler.tracked data.place - data.quantity.toInt + modifyOrder.quantity.toInt <
          9223372036854775808
  | .cancel _ => True
  | .fill fill =>
      ∀ data, handler.orders.lookup fill.orderId = some data →
        fill.quantity.toInt ≤ data.quantity.toInt ∨
          handler.tracked data.place = data.quantity.toInt

/-! ### What the handlers do -/

/-- Shares are added at a place, and no other place changes. -/
structure Grows (handler : ClientFeedHandler) (place : Place) (shares : Int32)
    (next : ClientFeedHandler) : Prop where
  here : next.entry place = some ((handler.entry place).getD 0 + shares.toInt64)
  away : ∀ other, other ≠ place → next.entry other = handler.entry other

structure Shrinks (handler : ClientFeedHandler) (place : Place) (shares : Int32)
    (next : ClientFeedHandler) : Prop where
  here : next.entry place = (handler.entry place).bind (fun size =>
    if size - shares.toInt64 ≤ 0 then none else some (size - shares.toInt64))
  away : ∀ other, other ≠ place → next.entry other = handler.entry other

/-- Every index that the handler keeps is that of a book. -/
structure Indexed (handler : ClientFeedHandler) : Prop where
  tickers : ∀ ticker index, handler.tickers.lookup ticker = some index →
    index.toNat < handler.orderbooks.length
  orders : ∀ orderId data, handler.orders.lookup orderId = some data →
    data.bookIndex.toNat < handler.orderbooks.length

section Changes

variable {handler next : ClientFeedHandler} {index : Nat} {book : ClientOrderBook}
  {isBuySide : UInt8} {shares : Int32} {price : Price}

theorem entry_of_book (found : handler.orderbooks[index]? = some book) (side : BookSide)
    (price : Price) :
    handler.entry
        { index := index
          side := side
          price := price } = (book.sizes side).lookup price := by
  unfold entry
  rw [found]

theorem entry_of_same {place : Place}
    (same : next.orderbooks[place.index]? = handler.orderbooks[place.index]?) :
    next.entry place = handler.entry place := by
  unfold entry
  rw [same]

theorem written_here {after : ClientOrderBook} (found : handler.orderbooks[index]? = some book)
    (written : next.orderbooks = handler.orderbooks.set index after) :
    next.orderbooks[index]? = some after := by
  obtain ⟨inside, _same⟩ := List.getElem?_eq_some_iff.mp found
  rw [written]
  exact List.getElem?_set_self inside

theorem written_elsewhere {after : ClientOrderBook} {other : Nat}
    (written : next.orderbooks = handler.orderbooks.set index after) (different : other ≠ index) :
    next.orderbooks[other]? = handler.orderbooks[other]? := by
  rw [written]
  exact List.getElem?_set_ne different.symm

theorem Grows.of_added (found : handler.orderbooks[index]? = some book)
    (written : next.orderbooks =
      handler.orderbooks.set index (book.addToBook isBuySide shares price)) :
    Grows handler
      { index := index
        side := ClientOrderBook.sideOf isBuySide
        price := price } shares next where
  here := by
    rw [entry_of_book found, entry_of_book (written_here found written),
      ClientOrderBook.lookup_addToBook]
    exact if_pos ⟨rfl, rfl⟩
  away := by
    rintro ⟨other, side, otherPrice⟩ different
    by_cases same : other = index
    · subst same
      rw [entry_of_book found, entry_of_book (written_here found written),
        ClientOrderBook.lookup_addToBook]
      apply if_neg
      rintro ⟨sameSide, samePrice⟩
      exact different (by rw [sameSide, samePrice])
    · exact entry_of_same (written_elsewhere written same)

theorem Grows.of_entries {opened : ClientFeedHandler} {place : Place}
    (same : ∀ place, opened.entry place = handler.entry place)
    (grows : Grows opened place shares next) : Grows handler place shares next where
  here := by
    rw [grows.here, same place]
  away := by
    intro other different
    rw [grows.away other different, same other]

theorem Shrinks.of_removed (found : handler.orderbooks[index]? = some book)
    (written : next.orderbooks =
      handler.orderbooks.set index (book.removeFromBook isBuySide shares price)) :
    Shrinks handler
      { index := index
        side := ClientOrderBook.sideOf isBuySide
        price := price } shares next where
  here := by
    rw [entry_of_book found, entry_of_book (written_here found written),
      ClientOrderBook.lookup_removeFromBook]
    exact if_pos ⟨rfl, rfl⟩
  away := by
    rintro ⟨other, side, otherPrice⟩ different
    by_cases same : other = index
    · subst same
      rw [entry_of_book found, entry_of_book (written_here found written),
        ClientOrderBook.lookup_removeFromBook]
      apply if_neg
      rintro ⟨sameSide, samePrice⟩
      exact different (by rw [sameSide, samePrice])
    · exact entry_of_same (written_elsewhere written same)

theorem changeBook_found {bookId : UInt16}
    (found : handler.orderbooks[bookId.toNat]? = some book)
    (change : ClientOrderBook → ClientOrderBook) :
    handler.changeBook bookId change =
      .ok { handler with orderbooks := handler.orderbooks.set bookId.toNat (change book) } := by
  unfold changeBook
  rw [found]

/-- The book under an index that the handler keeps. -/
theorem Indexed.bookOf {data : AddOrderData} {orderId : OrderId} (indexed : Indexed handler)
    (found : handler.orders.lookup orderId = some data) :
    ∃ book, handler.orderbooks[data.bookIndex.toNat]? = some book :=
  ⟨_, List.getElem?_eq_getElem (indexed.orders orderId data found)⟩

end Changes

/-! ### Opening a book -/

/-- What opening a book for a ticker leaves. -/
structure Opens (handler : ClientFeedHandler) (ticker : Ticker) (opened : ClientFeedHandler)
    (bookId : UInt16) : Prop where
  listed : opened.tickers.lookup ticker = some bookId
  others : ∀ other, other ≠ ticker → opened.tickers.lookup other = handler.tickers.lookup other
  inside : bookId.toNat < opened.orderbooks.length
  grown : handler.orderbooks.length ≤ opened.orderbooks.length
  orders : opened.orders = handler.orders
  entries : ∀ place, opened.entry place = handler.entry place

theorem entry_ofTicker (ticker : Ticker) (side : BookSide) (price : Price) :
    ((ClientOrderBook.ofTicker ticker).sizes side).lookup price = none := by
  cases side <;> rfl

theorem openBook_opens {handler : ClientFeedHandler} (indexed : Indexed handler)
    (ticker : Ticker) :
    Opens handler ticker (handler.openBook ticker).1 (handler.openBook ticker).2 := by
  unfold openBook
  cases found : handler.tickers.lookup ticker with
  | some bookId =>
      exact
        { listed := found
          others := fun _ _ => rfl
          inside := indexed.tickers ticker bookId found
          grown := Nat.le_refl _
          orders := rfl
          entries := fun _ => rfl }
  | none =>
      exact
        { listed := AList.lookup_insert _
          others := fun _ different => AList.lookup_insert_ne different
          inside := by
            rw [UInt16.toNat_ofNat', List.length_append, List.length_singleton]
            exact Nat.lt_succ_of_le (Nat.mod_le _ _)
          grown := by
            rw [List.length_append]
            exact Nat.le_add_right _ _
          orders := rfl
          entries := by
            rintro ⟨index, side, price⟩
            unfold entry
            rcases Nat.lt_trichotomy index handler.orderbooks.length with before | last | beyond
            · rw [List.getElem?_append_left before]
            · subst last
              rw [List.getElem?_concat_length, List.getElem?_eq_none (Nat.le_refl _)]
              exact entry_ofTicker ticker side price
            · rw [List.getElem?_eq_none (Nat.le_of_lt beyond), List.getElem?_eq_none]
              rw [List.length_append, List.length_singleton]
              exact beyond }

/-! ### One message -/

/-- What stays of the handler beside the sizes, where a message writes these orders. -/
structure Rewrites (handler : ClientFeedHandler)
    (orders : AList (fun _ : OrderId => AddOrderData)) (next : ClientFeedHandler) : Prop where
  tickers : next.tickers = handler.tickers
  titles : next.orderbooks.map ClientOrderBook.ticker =
    handler.orderbooks.map ClientOrderBook.ticker
  orders : next.orders = orders

section Steps

variable {handler : ClientFeedHandler}

@[simp]
theorem setSizes_ticker (book : ClientOrderBook) (side : BookSide) (sizes : Sizes) :
    (book.setSizes side sizes).ticker = book.ticker := by
  cases side <;> rfl

theorem addToBook_ticker (book : ClientOrderBook) (isBuySide : UInt8) (shares : Int32)
    (price : Price) : (book.addToBook isBuySide shares price).ticker = book.ticker :=
  setSizes_ticker _ _ _

theorem removeFromBook_ticker (book : ClientOrderBook) (isBuySide : UInt8) (shares : Int32)
    (price : Price) : (book.removeFromBook isBuySide shares price).ticker = book.ticker := by
  unfold ClientOrderBook.removeFromBook
  simp only
  split
  · rfl
  · split <;> exact setSizes_ticker _ _ _

theorem titles_set {books : List ClientOrderBook} {index : Nat} {book after : ClientOrderBook}
    (found : books[index]? = some book) (same : after.ticker = book.ticker) :
    (books.set index after).map ClientOrderBook.ticker = books.map ClientOrderBook.ticker := by
  obtain ⟨inside, _isBook⟩ := List.getElem?_eq_some_iff.mp found
  apply List.ext_getElem?
  intro other
  rw [List.getElem?_map, List.getElem?_map]
  by_cases here : other = index
  · rw [here, List.getElem?_set_self inside, found, Option.map_some, Option.map_some, same]
  · rw [List.getElem?_set_ne (Ne.symm here)]

/-- A new order is put down unless its id is tracked already. -/
theorem addOrder_adds (indexed : Indexed handler) (newOrder : AddOrderData) :
    ∃ next, handler.addOrder newOrder = .ok next ∧
      Grows handler (handler.placeOf newOrder) newOrder.quantity next ∧
      Rewrites (handler.openBook newOrder.ticker).1
        (if (handler.orders.lookup newOrder.orderId).isSome then handler.orders
          else handler.orders.insert newOrder.orderId
            { newOrder with bookIndex := (handler.openBook newOrder.ticker).2 }) next := by
  have opens := openBook_opens indexed newOrder.ticker
  obtain ⟨book, found⟩ : ∃ book, (handler.openBook newOrder.ticker).1.orderbooks[
      (handler.openBook newOrder.ticker).2.toNat]? = some book :=
    ⟨_, List.getElem?_eq_getElem opens.inside⟩
  unfold addOrder
  simp only [changeBook_found found, ok_bind, opens.orders]
  refine ⟨_, rfl, ?_, ?_⟩
  · apply Grows.of_entries opens.entries
    exact Grows.of_added found rfl
  · exact
      { tickers := rfl
        titles := titles_set found (addToBook_ticker book _ _ _)
        orders := rfl }

section Known

variable {data : AddOrderData} {orderId : OrderId}

theorem cancelOrder_unknown {cancelOrder : CancelOrderData}
    (unknown : handler.orders.lookup cancelOrder.orderId = none) :
    handler.cancelOrder cancelOrder = .ok handler := by
  unfold ClientFeedHandler.cancelOrder
  rw [unknown]

theorem modifyOrder_unknown {modifyOrder : ModOrderData}
    (unknown : handler.orders.lookup modifyOrder.orderId = none) :
    handler.modifyOrder modifyOrder = .ok handler := by
  unfold ClientFeedHandler.modifyOrder
  rw [unknown]

theorem fillOrder_unknown {fill : FillOrderData}
    (unknown : handler.orders.lookup fill.orderId = none) :
    handler.fillOrder fill = .ok handler := by
  unfold ClientFeedHandler.fillOrder
  rw [unknown]

theorem cancelOrder_known (indexed : Indexed handler) {cancelOrder : CancelOrderData}
    (found : handler.orders.lookup cancelOrder.orderId = some data) :
    ∃ next, handler.cancelOrder cancelOrder = .ok next ∧
      Shrinks handler data.place data.quantity next ∧
      Rewrites handler (handler.orders.erase cancelOrder.orderId) next := by
  obtain ⟨book, there⟩ := indexed.bookOf found
  unfold ClientFeedHandler.cancelOrder
  simp only [found, changeBook_found there, ok_bind]
  refine ⟨_, rfl, Shrinks.of_removed there rfl, ?_⟩
  exact
    { tickers := rfl
      titles := titles_set there (removeFromBook_ticker book _ _ _)
      orders := rfl }

theorem modifyOrder_grows (indexed : Indexed handler) {modifyOrder : ModOrderData}
    (found : handler.orders.lookup modifyOrder.orderId = some data)
    (more : modifyOrder.quantity > data.quantity) :
    ∃ next, handler.modifyOrder modifyOrder = .ok next ∧
      Grows handler data.place (modifyOrder.quantity - data.quantity) next ∧
      Rewrites handler (handler.orders.insert modifyOrder.orderId
        { data with quantity := modifyOrder.quantity }) next := by
  obtain ⟨book, there⟩ := indexed.bookOf found
  unfold ClientFeedHandler.modifyOrder
  simp only [found, changeBook_found there, ok_bind, if_pos more]
  refine ⟨_, rfl, Grows.of_added there rfl, ?_⟩
  exact
    { tickers := rfl
      titles := titles_set there (addToBook_ticker book _ _ _)
      orders := rfl }

theorem modifyOrder_shrinks (indexed : Indexed handler) {modifyOrder : ModOrderData}
    (found : handler.orders.lookup modifyOrder.orderId = some data)
    (noMore : ¬modifyOrder.quantity > data.quantity) :
    ∃ next, handler.modifyOrder modifyOrder = .ok next ∧
      Shrinks handler data.place (data.quantity - modifyOrder.quantity) next ∧
      Rewrites handler (handler.orders.insert modifyOrder.orderId
        { data with quantity := modifyOrder.quantity }) next := by
  obtain ⟨book, there⟩ := indexed.bookOf found
  unfold ClientFeedHandler.modifyOrder
  simp only [found, changeBook_found there, ok_bind, if_neg noMore]
  refine ⟨_, rfl, Shrinks.of_removed there rfl, ?_⟩
  exact
    { tickers := rfl
      titles := titles_set there (removeFromBook_ticker book _ _ _)
      orders := rfl }

theorem fillOrder_known (indexed : Indexed handler) {fill : FillOrderData}
    (found : handler.orders.lookup fill.orderId = some data) :
    ∃ next, handler.fillOrder fill = .ok next ∧
      Shrinks handler data.place fill.quantity next ∧
      Rewrites handler
        (if data.quantity - fill.quantity ≤ 0 then handler.orders.erase fill.orderId
          else handler.orders.insert fill.orderId
            { data with quantity := data.quantity - fill.quantity }) next := by
  obtain ⟨book, there⟩ := indexed.bookOf found
  unfold ClientFeedHandler.fillOrder
  simp only [found, changeBook_found there, ok_bind]
  refine ⟨_, rfl, Shrinks.of_removed there rfl, ?_⟩
  exact
    { tickers := rfl
      titles := titles_set there (removeFromBook_ticker book _ _ _)
      orders := rfl }

end Known

end Steps

/-- What a message does to a handler. -/
inductive Does (handler : ClientFeedHandler) : FeedMessage → ClientFeedHandler → Prop
  | adds (newOrder : AddOrderData) (next : ClientFeedHandler)
      (grows : Grows handler (handler.placeOf newOrder) newOrder.quantity next)
      (rewrites : Rewrites (handler.openBook newOrder.ticker).1
        (if (handler.orders.lookup newOrder.orderId).isSome then handler.orders
          else handler.orders.insert newOrder.orderId
            { newOrder with bookIndex := (handler.openBook newOrder.ticker).2 }) next) :
      Does handler (.add newOrder) next
  | modifiesUnknown (modifyOrder : ModOrderData)
      (unknown : handler.orders.lookup modifyOrder.orderId = none) :
      Does handler (.modify modifyOrder) handler
  | increases (modifyOrder : ModOrderData) (data : AddOrderData) (next : ClientFeedHandler)
      (found : handler.orders.lookup modifyOrder.orderId = some data)
      (more : modifyOrder.quantity > data.quantity)
      (grows : Grows handler data.place (modifyOrder.quantity - data.quantity) next)
      (rewrites : Rewrites handler (handler.orders.insert modifyOrder.orderId
        { data with quantity := modifyOrder.quantity }) next) :
      Does handler (.modify modifyOrder) next
  | decreases (modifyOrder : ModOrderData) (data : AddOrderData) (next : ClientFeedHandler)
      (found : handler.orders.lookup modifyOrder.orderId = some data)
      (noMore : ¬modifyOrder.quantity > data.quantity)
      (shrinks : Shrinks handler data.place (data.quantity - modifyOrder.quantity) next)
      (rewrites : Rewrites handler (handler.orders.insert modifyOrder.orderId
        { data with quantity := modifyOrder.quantity }) next) :
      Does handler (.modify modifyOrder) next
  | cancelsUnknown (cancelOrder : CancelOrderData)
      (unknown : handler.orders.lookup cancelOrder.orderId = none) :
      Does handler (.cancel cancelOrder) handler
  | cancels (cancelOrder : CancelOrderData) (data : AddOrderData) (next : ClientFeedHandler)
      (found : handler.orders.lookup cancelOrder.orderId = some data)
      (shrinks : Shrinks handler data.place data.quantity next)
      (rewrites : Rewrites handler (handler.orders.erase cancelOrder.orderId) next) :
      Does handler (.cancel cancelOrder) next
  | fillsUnknown (fill : FillOrderData)
      (unknown : handler.orders.lookup fill.orderId = none) :
      Does handler (.fill fill) handler
  | fills (fill : FillOrderData) (data : AddOrderData) (next : ClientFeedHandler)
      (found : handler.orders.lookup fill.orderId = some data)
      (shrinks : Shrinks handler data.place fill.quantity next)
      (rewrites : Rewrites handler
        (if data.quantity - fill.quantity ≤ 0 then handler.orders.erase fill.orderId
          else handler.orders.insert fill.orderId
            { data with quantity := data.quantity - fill.quantity }) next) :
      Does handler (.fill fill) next

/-- A handler whose indices are those of books takes every message. -/
theorem process_does {handler : ClientFeedHandler} (indexed : Indexed handler)
    (message : FeedMessage) :
    ∃ next, handler.process message = .ok next ∧ Does handler message next := by
  cases message with
  | add newOrder =>
      obtain ⟨next, returned, grows, rewrites⟩ := addOrder_adds indexed newOrder
      exact ⟨next, returned, Does.adds newOrder next grows rewrites⟩
  | modify modifyOrder =>
      cases found : handler.orders.lookup modifyOrder.orderId with
      | none => exact ⟨handler, modifyOrder_unknown found, Does.modifiesUnknown modifyOrder found⟩
      | some data =>
          by_cases more : modifyOrder.quantity > data.quantity
          · obtain ⟨next, returned, grows, rewrites⟩ := modifyOrder_grows indexed found more
            exact ⟨next, returned, Does.increases modifyOrder data next found more grows rewrites⟩
          · obtain ⟨next, returned, shrinks, rewrites⟩ := modifyOrder_shrinks indexed found more
            exact ⟨next, returned,
              Does.decreases modifyOrder data next found more shrinks rewrites⟩
  | cancel cancelOrder =>
      cases found : handler.orders.lookup cancelOrder.orderId with
      | none => exact ⟨handler, cancelOrder_unknown found, Does.cancelsUnknown cancelOrder found⟩
      | some data =>
          obtain ⟨next, returned, shrinks, rewrites⟩ := cancelOrder_known indexed found
          exact ⟨next, returned, Does.cancels cancelOrder data next found shrinks rewrites⟩
  | fill filled =>
      cases found : handler.orders.lookup filled.orderId with
      | none => exact ⟨handler, fillOrder_unknown found, Does.fillsUnknown filled found⟩
      | some data =>
          obtain ⟨next, returned, shrinks, rewrites⟩ := fillOrder_known indexed found
          exact ⟨next, returned, Does.fills filled data next found shrinks rewrites⟩

theorem does_of_process {handler next : ClientFeedHandler} {message : FeedMessage}
    (indexed : Indexed handler) (returned : handler.process message = .ok next) :
    Does handler message next := by
  obtain ⟨after, same, does⟩ := process_does indexed message
  rw [returned] at same
  cases same
  exact does

/-! ### The indices -/

section Indices

variable {handler next : ClientFeedHandler} {orders : AList (fun _ : OrderId => AddOrderData)}

theorem Rewrites.length (rewrites : Rewrites handler orders next) :
    next.orderbooks.length = handler.orderbooks.length := by
  have same := congrArg List.length rewrites.titles
  rw [List.length_map, List.length_map] at same
  exact same

theorem Indexed.rewrite (indexed : Indexed handler) (rewrites : Rewrites handler orders next)
    (kept : ∀ orderId data, orders.lookup orderId = some data →
      data.bookIndex.toNat < handler.orderbooks.length) : Indexed next where
  tickers := by
    intro ticker index listed
    rw [rewrites.tickers] at listed
    rw [rewrites.length]
    exact indexed.tickers ticker index listed
  orders := by
    intro orderId data found
    rw [rewrites.orders] at found
    rw [rewrites.length]
    exact kept orderId data found

theorem Indexed.opened (indexed : Indexed handler) (ticker : Ticker) :
    Indexed (handler.openBook ticker).1 := by
  have opens := openBook_opens indexed ticker
  constructor
  · intro other index listed
    by_cases same : other = ticker
    · rw [same, opens.listed] at listed
      cases listed
      exact opens.inside
    · rw [opens.others other same] at listed
      exact Nat.lt_of_lt_of_le (indexed.tickers other index listed) opens.grown
  · intro orderId data found
    rw [opens.orders] at found
    exact Nat.lt_of_lt_of_le (indexed.orders orderId data found) opens.grown

/-- Where an entry stands after an insertion. -/
theorem of_inserted {orderId other : OrderId} {inserted data : AddOrderData}
    (found : (orders.insert orderId inserted).lookup other = some data) :
    other = orderId ∧ data = inserted ∨ orders.lookup other = some data := by
  by_cases same : other = orderId
  · rw [same, AList.lookup_insert] at found
    exact Or.inl ⟨same, (Option.some.inj found).symm⟩
  · rw [AList.lookup_insert_ne same] at found
    exact Or.inr found

theorem of_erased {orderId other : OrderId} {data : AddOrderData}
    (found : (orders.erase orderId).lookup other = some data) :
    orders.lookup other = some data := by
  by_cases same : other = orderId
  · rw [same, AList.lookup_erase] at found
    cases found
  · rw [AList.lookup_erase_ne same] at found
    exact found

theorem Does.indexed {message : FeedMessage} (indexed : Indexed handler)
    (does : Does handler message next) : Indexed next := by
  have rewritten : ∀ {orderId data} {quantity : Int32},
      handler.orders.lookup orderId = some data →
        ∀ other item, (handler.orders.insert orderId
          { data with quantity := quantity }).lookup other = some item →
            item.bookIndex.toNat < handler.orderbooks.length := by
    intro orderId data quantity found other item there
    rcases of_inserted there with ⟨_same, isNew⟩ | old
    · rw [isNew]
      exact indexed.orders orderId data found
    · exact indexed.orders other item old
  cases does with
  | adds newOrder next grows rewrites =>
      have opens := openBook_opens indexed newOrder.ticker
      apply (indexed.opened newOrder.ticker).rewrite rewrites
      intro other item there
      have old : handler.orders.lookup other = some item →
          item.bookIndex.toNat < (handler.openBook newOrder.ticker).1.orderbooks.length :=
        fun found => Nat.lt_of_lt_of_le (indexed.orders other item found) opens.grown
      split at there
      · exact old there
      · rcases of_inserted there with ⟨_same, isNew⟩ | found
        · rw [isNew]
          exact opens.inside
        · exact old found
  | modifiesUnknown modifyOrder unknown => exact indexed
  | increases modifyOrder data next found more grows rewrites =>
      exact indexed.rewrite rewrites (rewritten found)
  | decreases modifyOrder data next found noMore shrinks rewrites =>
      exact indexed.rewrite rewrites (rewritten found)
  | cancelsUnknown cancelOrder unknown => exact indexed
  | cancels cancelOrder data next found shrinks rewrites =>
      apply indexed.rewrite rewrites
      intro other item there
      exact indexed.orders other item (of_erased there)
  | fillsUnknown fill unknown => exact indexed
  | fills fill data next found shrinks rewrites =>
      apply indexed.rewrite rewrites
      intro other item there
      split at there
      · exact indexed.orders other item (of_erased there)
      · exact rewritten found other item there

theorem fresh_indexed : Indexed fresh where
  tickers := by
    intro ticker index listed
    cases listed
  orders := by
    intro orderId data found
    cases found

end Indices

/-! ### The sums -/

section Sums

variable {handler next : ClientFeedHandler} {place : Place} {shares : Int32}

/-- No tracked order is without quantity. -/
def AllPositive (handler : ClientFeedHandler) : Prop :=
  ∀ orderId data, handler.orders.lookup orderId = some data → 1 ≤ data.quantity.toInt

theorem amountAt_nonneg {data : AddOrderData} (positive : 1 ≤ data.quantity.toInt)
    (place : Place) : 0 ≤ amountAt place data := by
  unfold amountAt
  split <;> omega

/-- What the other orders contribute to a place. -/
def besides (handler : ClientFeedHandler) (orderId : OrderId) (place : Place) : Int :=
  tally (amountAt place) (handler.orders.erase orderId)

theorem tracked_nonneg (positive : AllPositive handler) (place : Place) :
    0 ≤ handler.tracked place := by
  apply tally_nonneg
  intro orderId data found
  exact amountAt_nonneg (positive orderId data found) place

theorem besides_nonneg (positive : AllPositive handler) (orderId : OrderId) (place : Place) :
    0 ≤ handler.besides orderId place := by
  apply tally_nonneg
  intro other data found
  exact amountAt_nonneg (positive other data (of_erased found)) place

theorem tracked_split {orderId : OrderId} {data : AddOrderData}
    (found : handler.orders.lookup orderId = some data) (place : Place) :
    handler.tracked place = amountAt place data + handler.besides orderId place :=
  tally_erase (amountAt place) found

theorem tracked_inserted {orderId : OrderId} {data : AddOrderData}
    (written : next.orders = handler.orders.insert orderId data) (place : Place) :
    next.tracked place = amountAt place data + handler.besides orderId place := by
  unfold tracked
  rw [written]
  exact tally_insert (amountAt place) handler.orders orderId data

theorem tracked_erased {orderId : OrderId} (written : next.orders = handler.orders.erase orderId)
    (place : Place) : next.tracked place = handler.besides orderId place := by
  unfold tracked
  rw [written]
  rfl

theorem tracked_added {orderId : OrderId} {data : AddOrderData}
    (absent : handler.orders.lookup orderId = none)
    (written : next.orders = handler.orders.insert orderId data) (place : Place) :
    next.tracked place = amountAt place data + handler.tracked place := by
  unfold tracked
  rw [written]
  exact tally_insert_absent (amountAt place) absent data

theorem selfConsistent_iff (indexed : Indexed handler) :
    handler.SelfConsistent ↔ ∀ place, sizeOf (handler.entry place) = handler.tracked place := by
  constructor
  · rintro consistent ⟨index, side, price⟩
    cases found : handler.orderbooks[index]? with
    | some book =>
        rw [entry_of_book found]
        exact consistent index book found side price
    | none =>
        have nothing : handler.entry ⟨index, side, price⟩ = none := by
          unfold entry
          rw [found]
        rw [nothing]
        symm
        apply tally_eq_zero
        intro orderId data known
        apply amountAt_away
        intro same
        have inside := indexed.orders orderId data known
        have outside := List.getElem?_eq_none_iff.mp found
        have sameIndex : index = data.bookIndex.toNat := congrArg Place.index same
        omega
  · intro displays index book found side price
    rw [← entry_of_book found]
    exact displays _

/-- The sizes are the sums, and no entry is empty. -/
structure Displays (handler : ClientFeedHandler) : Prop where
  sums : ∀ place, sizeOf (handler.entry place) = handler.tracked place
  occupied : ∀ place size, handler.entry place = some size → 0 < size.toInt

theorem Displays.grow (displays : Displays handler) (positive : AllPositive handler)
    (grows : Grows handler place shares next) (sharesPositive : 1 ≤ shares.toInt)
    (here : next.tracked place = handler.tracked place + shares.toInt)
    (away : ∀ other, other ≠ place → next.tracked other = handler.tracked other)
    (room : handler.tracked place + shares.toInt < 9223372036854775808) : Displays next := by
  have nonneg := tracked_nonneg positive place
  have sum : sizeOf (next.entry place) = next.tracked place := by
    rw [grows.here, sizeOf_add, displays.sums place, here]
    · rw [displays.sums place]
      exact nonneg
    · omega
    · rw [displays.sums place]
      exact room
  constructor
  · intro other
    by_cases same : other = place
    · rw [same]
      exact sum
    · rw [grows.away other same, away other same]
      exact displays.sums other
  · intro other size found
    by_cases same : other = place
    · subst same
      rw [found] at sum
      have isSize : sizeOf (some size) = size.toInt := rfl
      omega
    · rw [grows.away other same] at found
      exact displays.occupied other size found

theorem Displays.shrink (displays : Displays handler) (positive : AllPositive handler)
    (shrinks : Shrinks handler place shares next) (sharesNonneg : 0 ≤ shares.toInt)
    (here : next.tracked place = max (handler.tracked place - shares.toInt) 0)
    (away : ∀ other, other ≠ place → next.tracked other = handler.tracked other) :
    Displays next := by
  have nonneg := tracked_nonneg positive place
  constructor
  · intro other
    by_cases same : other = place
    · rw [same, shrinks.here, sizeOf_remove_eq_max _ sharesNonneg, displays.sums place, here]
      rw [displays.sums place]
      exact nonneg
    · rw [shrinks.away other same, away other same]
      exact displays.sums other
  · intro other size found
    by_cases same : other = place
    · subst same
      rw [shrinks.here] at found
      exact remaining_pos found
    · rw [shrinks.away other same] at found
      exact displays.occupied other size found

end Sums

/-! ### Staying in step -/

/-- The invariant of a handler whose sizes are the sums of what it tracks. -/
structure InStep (handler : ClientFeedHandler) : Prop where
  indexed : Indexed handler
  positive : AllPositive handler
  displays : Displays handler

theorem fresh_inStep : InStep fresh where
  indexed := fresh_indexed
  positive := by
    intro orderId data found
    cases found
  displays :=
    { sums := fun _ => rfl
      occupied := by
        intro place size found
        cases found }

section Preservation

variable {handler next : ClientFeedHandler} {message : FeedMessage}

theorem AllPositive.inserted (allPositive : AllPositive handler) {orderId other : OrderId}
    {inserted data : AddOrderData} (positive : 1 ≤ inserted.quantity.toInt)
    (found : (handler.orders.insert orderId inserted).lookup other = some data) :
    1 ≤ data.quantity.toInt := by
  rcases of_inserted found with ⟨_same, isNew⟩ | old
  · rw [isNew]
    exact positive
  · exact allPositive other data old

theorem Does.allPositive (allPositive : AllPositive handler) (positive : message.Positive)
    (does : Does handler message next) : AllPositive next := by
  intro orderId data found
  cases does with
  | adds newOrder next grows rewrites =>
      rw [rewrites.orders] at found
      split at found
      · exact allPositive orderId data found
      · refine allPositive.inserted ?_ found
        exact positive
  | modifiesUnknown modifyOrder unknown => exact allPositive orderId data found
  | increases modifyOrder old next known more grows rewrites =>
      rw [rewrites.orders] at found
      refine allPositive.inserted ?_ found
      exact positive
  | decreases modifyOrder old next known noMore shrinks rewrites =>
      rw [rewrites.orders] at found
      refine allPositive.inserted ?_ found
      exact positive
  | cancelsUnknown cancelOrder unknown => exact allPositive orderId data found
  | cancels cancelOrder old next known shrinks rewrites =>
      rw [rewrites.orders] at found
      exact allPositive orderId data (of_erased found)
  | fillsUnknown fill unknown => exact allPositive orderId data found
  | fills fill old next known shrinks rewrites =>
      rw [rewrites.orders] at found
      split at found
      · exact allPositive orderId data (of_erased found)
      · rename_i left
        have above := Int32.lt_iff_toInt_lt.mp (Int32.not_le.mp left)
        refine allPositive.inserted ?_ found
        exact above

theorem remaining_toInt {quantity filled : Int32} (positive : 1 ≤ quantity.toInt)
    (filledPositive : 1 ≤ filled.toInt) :
    (quantity - filled).toInt = quantity.toInt - filled.toInt := by
  have bound := quantity.toInt_lt
  have filledBound := filled.toInt_lt
  rw [Int32.toInt_sub]
  exact Int.bmod_eq_of_le (by omega) (by omega)

/-- A fill leaves less than nothing of an order exactly where it takes more than that. -/
theorem used_up_iff {quantity filled : Int32} (positive : 1 ≤ quantity.toInt)
    (filledPositive : 1 ≤ filled.toInt) :
    quantity - filled ≤ 0 ↔ quantity.toInt ≤ filled.toInt := by
  have zero : (0 : Int32).toInt = 0 := rfl
  rw [Int32.le_iff_toInt_le, remaining_toInt positive filledPositive, zero]
  omega

/-- What a place sums to after a fill. -/
theorem fills_tracked (inStep : InStep handler) {fill : FillOrderData} {data : AddOrderData}
    (filledPositive : 1 ≤ fill.quantity.toInt)
    (found : handler.orders.lookup fill.orderId = some data)
    (rewrites : Rewrites handler
      (if data.quantity - fill.quantity ≤ 0 then handler.orders.erase fill.orderId
        else handler.orders.insert fill.orderId
          { data with quantity := data.quantity - fill.quantity }) next) :
    next.tracked data.place =
        max (data.quantity.toInt - fill.quantity.toInt) 0 +
          handler.besides fill.orderId data.place ∧
      ∀ other, other ≠ data.place → next.tracked other = handler.tracked other := by
  have positive := inStep.positive fill.orderId data found
  have written := rewrites.orders
  by_cases used : data.quantity - fill.quantity ≤ 0
  · have all := (used_up_iff positive filledPositive).mp used
    rw [if_pos used] at written
    constructor
    · rw [tracked_erased written]
      omega
    · intro other away
      rw [tracked_erased written, tracked_split found, amountAt_away away]
      omega
  · have some := (used_up_iff positive filledPositive).not.mp used
    have left := remaining_toInt positive filledPositive
    rw [if_neg used] at written
    constructor
    · have here := tracked_inserted written data.place
      have amount : amountAt data.place
          { data with quantity := data.quantity - fill.quantity } =
            (data.quantity - fill.quantity).toInt := amountAt_place _
      rw [here, amount]
      omega
    · intro other away
      rw [tracked_inserted written, tracked_split found, amountAt_away away]
      have nothing : amountAt other
          { data with quantity := data.quantity - fill.quantity } = 0 := amountAt_away away
      rw [nothing]

/-- What a place sums to after a modification. -/
theorem modifies_tracked {modifyOrder : ModOrderData} {data : AddOrderData}
    (found : handler.orders.lookup modifyOrder.orderId = some data)
    (rewrites : Rewrites handler (handler.orders.insert modifyOrder.orderId
      { data with quantity := modifyOrder.quantity }) next) :
    next.tracked data.place =
        handler.tracked data.place - data.quantity.toInt + modifyOrder.quantity.toInt ∧
      ∀ other, other ≠ data.place → next.tracked other = handler.tracked other := by
  constructor
  · have here := tracked_inserted rewrites.orders data.place
    have before := tracked_split found data.place
    have amount : amountAt data.place { data with quantity := modifyOrder.quantity } =
        modifyOrder.quantity.toInt := amountAt_place _
    rw [amountAt_place] at before
    omega
  · intro other away
    have nothing : amountAt other { data with quantity := modifyOrder.quantity } = 0 :=
      amountAt_away away
    rw [tracked_inserted rewrites.orders, tracked_split found, amountAt_away away, nothing]

/-- What a place sums to after an order that was not tracked is added. -/
theorem adds_tracked {newOrder : AddOrderData}
    (absent : handler.orders.lookup newOrder.orderId = none)
    (rewrites : Rewrites (handler.openBook newOrder.ticker).1
      (if (handler.orders.lookup newOrder.orderId).isSome then handler.orders
        else handler.orders.insert newOrder.orderId
          { newOrder with bookIndex := (handler.openBook newOrder.ticker).2 }) next) :
    next.tracked (handler.placeOf newOrder) =
        handler.tracked (handler.placeOf newOrder) + newOrder.quantity.toInt ∧
      ∀ other, other ≠ handler.placeOf newOrder →
        next.tracked other = handler.tracked other := by
  have written := rewrites.orders
  rw [absent, Option.isSome_none, if_neg Bool.false_ne_true] at written
  constructor
  · have amount : amountAt (handler.placeOf newOrder)
        { newOrder with bookIndex := (handler.openBook newOrder.ticker).2 } =
          newOrder.quantity.toInt := amountAt_place _
    rw [tracked_added absent written, amount]
    omega
  · intro other away
    have nothing : amountAt other
        { newOrder with bookIndex := (handler.openBook newOrder.ticker).2 } = 0 :=
      amountAt_away away
    rw [tracked_added absent written, nothing]
    omega

/-- A message that stays in step keeps the sizes equal to the sums. -/
theorem Does.inStep (inStep : InStep handler) (positive : message.Positive)
    (stays : handler.StaysInStep message) (does : Does handler message next) : InStep next := by
  refine
    { indexed := does.indexed inStep.indexed
      positive := does.allPositive inStep.positive positive
      displays := ?_ }
  cases does with
  | adds newOrder next grows rewrites =>
      obtain ⟨absent, room⟩ := stays
      obtain ⟨here, away⟩ := adds_tracked absent rewrites
      exact inStep.displays.grow inStep.positive grows positive here away room
  | modifiesUnknown modifyOrder unknown => exact inStep.displays
  | increases modifyOrder data next found more grows rewrites =>
      obtain ⟨here, away⟩ := modifies_tracked found rewrites
      have room := stays data found
      have old := inStep.positive modifyOrder.orderId data found
      have above := Int32.lt_iff_toInt_lt.mp more
      have difference := sub_toInt (by omega) (Int.le_of_lt above)
      apply inStep.displays.grow inStep.positive grows _ _ away
      · omega
      · omega
      · omega
  | decreases modifyOrder data next found noMore shrinks rewrites =>
      obtain ⟨here, away⟩ := modifies_tracked found rewrites
      have new : 1 ≤ modifyOrder.quantity.toInt := positive
      have below := Int32.le_iff_toInt_le.mp (Int32.not_lt.mp noMore)
      have difference := sub_toInt (by omega) below
      have rest := besides_nonneg inStep.positive modifyOrder.orderId data.place
      have split := tracked_split found data.place
      rw [amountAt_place] at split
      apply inStep.displays.shrink inStep.positive shrinks _ _ away
      · omega
      · omega
  | cancelsUnknown cancelOrder unknown => exact inStep.displays
  | cancels cancelOrder data next found shrinks rewrites =>
      have old := inStep.positive cancelOrder.orderId data found
      have rest := besides_nonneg inStep.positive cancelOrder.orderId data.place
      have split := tracked_split found data.place
      rw [amountAt_place] at split
      apply inStep.displays.shrink inStep.positive shrinks
      · omega
      · rw [tracked_erased rewrites.orders]
        omega
      · intro other away
        rw [tracked_erased rewrites.orders, tracked_split found, amountAt_away away]
        omega
  | fillsUnknown fill unknown => exact inStep.displays
  | fills filled data next found shrinks rewrites =>
      obtain ⟨here, away⟩ := fills_tracked inStep positive found rewrites
      have filledPositive : 1 ≤ filled.quantity.toInt := positive
      have rest := besides_nonneg inStep.positive filled.orderId data.place
      have split := tracked_split found data.place
      rw [amountAt_place] at split
      apply inStep.displays.shrink inStep.positive shrinks _ _ away
      · omega
      · rcases stays data found with atMost | alone <;> omega

/-- Every other message leaves a size that is not the sum. -/
theorem Does.outOfStep (inStep : InStep handler) (positive : message.Positive)
    (leaves : ¬handler.StaysInStep message) (does : Does handler message next) :
    ¬next.SelfConsistent := by
  intro consistent
  have sums := (selfConsistent_iff (does.indexed inStep.indexed)).mp consistent
  cases does with
  | adds newOrder next grows rewrites =>
      have sum := sums (handler.placeOf newOrder)
      have bound := sizeOf_lt (next.entry (handler.placeOf newOrder))
      cases known : handler.orders.lookup newOrder.orderId with
      | none =>
          obtain ⟨here, _away⟩ := adds_tracked known rewrites
          apply leaves
          refine ⟨known, ?_⟩
          omega
      | some data =>
          have kept : next.orders = handler.orders := by
            rw [rewrites.orders, known]
            rfl
          have same : next.tracked (handler.placeOf newOrder) =
              handler.tracked (handler.placeOf newOrder) := by
            unfold tracked
            rw [kept]
          rw [same, ← inStep.displays.sums, grows.here] at sum
          exact sizeOf_add_ne positive sum
  | modifiesUnknown modifyOrder unknown =>
      apply leaves
      intro data found
      rw [unknown] at found
      cases found
  | increases modifyOrder data next found more grows rewrites =>
      obtain ⟨here, _away⟩ := modifies_tracked found rewrites
      have sum := sums data.place
      have bound := sizeOf_lt (next.entry data.place)
      apply leaves
      intro other foundOther
      rw [found] at foundOther
      cases foundOther
      omega
  | decreases modifyOrder data next found noMore shrinks rewrites =>
      obtain ⟨here, _away⟩ := modifies_tracked found rewrites
      have sum := sums data.place
      have bound := sizeOf_lt (next.entry data.place)
      apply leaves
      intro other foundOther
      rw [found] at foundOther
      cases foundOther
      omega
  | cancelsUnknown cancelOrder unknown => exact leaves trivial
  | cancels cancelOrder data next found shrinks rewrites => exact leaves trivial
  | fillsUnknown fill unknown =>
      apply leaves
      intro data found
      rw [unknown] at found
      cases found
  | fills filled data next found shrinks rewrites =>
      obtain ⟨here, _away⟩ := fills_tracked inStep positive found rewrites
      have filledPositive : 1 ≤ filled.quantity.toInt := positive
      have before := inStep.displays.sums data.place
      have nonneg := tracked_nonneg inStep.positive data.place
      have rest := besides_nonneg inStep.positive filled.orderId data.place
      have split := tracked_split found data.place
      rw [amountAt_place] at split
      have sum := sums data.place
      rw [shrinks.here, sizeOf_remove_eq_max (by omega) (by omega), before, here] at sum
      apply leaves
      intro other foundOther
      rw [found] at foundOther
      cases foundOther
      omega

end Preservation

/-! ### Every feed -/

def processSized (handler : ClientFeedHandler) (sized : SizedMessage) :
    Except Fault ClientFeedHandler :=
  handler.process sized.message

theorem processSized_returns (messages : List SizedMessage) :
    ∃ finish, run processSized fresh messages = .ok finish := by
  have total : ∀ (handler : ClientFeedHandler) (sized : SizedMessage), Indexed handler →
      ∃ next, processSized handler sized = .ok next ∧ Indexed next := by
    intro handler sized indexed
    obtain ⟨next, returned, does⟩ := process_does indexed sized.message
    exact ⟨next, returned, does.indexed indexed⟩
  obtain ⟨finish, reached, _indexed⟩ := run_returns total fresh_indexed messages
  exact ⟨finish, reached⟩

/-- Every feed is taken to its end, and the sizes are the sums of what is tracked in each
state on the way exactly where each message stays in step. -/
theorem tracked_sums_iff (messages : List SizedMessage) :
    (∃ finish, run processSized fresh messages = .ok finish) ∧
      (Guarded processSized (fun handler sized => handler.StaysInStep sized.message) fresh
          messages ↔
        Always processSized SelfConsistent fresh messages) := by
  obtain ⟨finish, reached⟩ := processSized_returns messages
  refine ⟨⟨finish, reached⟩, guarded_iff_always ?_ ?_ ?_ fresh_inStep reached⟩
  · intro handler inStep
    exact (selfConsistent_iff inStep.indexed).mpr inStep.displays.sums
  · intro handler sized next inStep stays returned
    exact (does_of_process inStep.indexed returned).inStep inStep sized.positive stays
  · intro handler sized next inStep leaves returned
    exact (does_of_process inStep.indexed returned).outOfStep inStep sized.positive leaves

/-- The cancel half of a modification that moves an order from 100 to 101 is lost, and its
add is received. -/
def repricedWithoutCancel : List SizedMessage :=
  let order : AddOrderData :=
    { timestamp := 0
      orderId := 2
      ticker := 1
      price := 100
      quantity := 5
      isBuySide := 1
      bookIndex := 0 }
  [{ message := .add order
     positive := by decide },
    { message := .add { order with price := 101 }
      positive := by decide }]

theorem repriced_size_is_not_tracked :
    ¬Always processSized SelfConsistent fresh repricedWithoutCancel := by
  intro always
  have evaluated : (run processSized fresh repricedWithoutCancel).toOption.map (fun handler =>
      (handler.orderbooks[0]?.map (fun book => (book.sizes .bids).lookup 101),
        handler.tracked
          { index := 0
            side := .bids
            price := 101 })) = some (some (some 5), 0) := by decide +kernel
  obtain ⟨handler, reached, seen⟩ := returns_of_view evaluated
  obtain ⟨displayed, sum⟩ := Prod.mk.inj seen
  obtain ⟨book, there, size⟩ := Option.map_eq_some_iff.mp displayed
  have consistent := always repricedWithoutCancel [] handler (List.append_nil _).symm reached
  have same := consistent 0 book there .bids 101
  rw [size, sum] at same
  exact absurd same (by decide)

end ClientFeedHandler
end Client
end SpotExchange
