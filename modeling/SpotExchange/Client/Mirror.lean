/-
A handler that mirrors the lists of a book: it displays the sum of each list, and it
knows each order on a list, and no other.
-/

import SpotExchange.Bytes.LittleEndian
import SpotExchange.Client.FeedHandler
import SpotExchange.Engine.Balance

namespace SpotExchange
namespace Client

open Engine Wire Allocation Machine
open Engine.OrderBook (drop_around drop_absent replace_around replace_absent mem_drop
  mem_append_of_ne mem_replace_of_ne)

/-! ### Displayed sizes as integers -/

/-- A price without an entry displays nothing. -/
def sizeOf (entry : Option Int64) : Int := entry.elim 0 Int64.toInt

theorem getD_toInt (entry : Option Int64) : (entry.getD 0).toInt = sizeOf entry := by
  cases entry <;> rfl

theorem sizeOf_add {entry : Option Int64} {shares : Int32} (sizeNonneg : 0 ≤ sizeOf entry)
    (sharesNonneg : 0 ≤ shares.toInt)
    (room : sizeOf entry + shares.toInt < 9223372036854775808) :
    sizeOf (some (entry.getD 0 + shares.toInt64)) = sizeOf entry + shares.toInt := by
  have sum : sizeOf (some (entry.getD 0 + shares.toInt64)) =
      (entry.getD 0 + shares.toInt64).toInt := rfl
  rw [sum, Int64.toInt_add, getD_toInt, Int32.toInt_toInt64]
  exact Int.bmod_eq_of_le (by omega) (by omega)

/-- A difference that a size can be does not wrap. -/
theorem sub_toInt64_toInt {size : Int64} {shares : Int32}
    (least : -9223372036854775808 ≤ size.toInt - shares.toInt)
    (most : size.toInt - shares.toInt < 9223372036854775808) :
    (size - shares.toInt64).toInt = size.toInt - shares.toInt := by
  rw [Int64.toInt_sub, Int32.toInt_toInt64]
  exact Int.bmod_eq_of_le (by omega) (by omega)

/-- Nothing is left of a size that is removed. -/
theorem sub_toInt64_emptied {size : Int64} {shares : Int32}
    (least : -9223372036854775808 ≤ size.toInt - shares.toInt)
    (covers : size.toInt ≤ shares.toInt) : size - shares.toInt64 ≤ 0 := by
  rw [Int64.le_iff_toInt_le, sub_toInt64_toInt least (by omega)]
  have zero : (0 : Int64).toInt = 0 := rfl
  omega

theorem sizeOf_remove {entry : Option Int64} {shares : Int32} (sharesNonneg : 0 ≤ shares.toInt)
    (covered : shares.toInt ≤ sizeOf entry) :
    sizeOf (entry.bind (fun size =>
        if size - shares.toInt64 ≤ 0 then none else some (size - shares.toInt64))) =
      sizeOf entry - shares.toInt := by
  cases entry with
  | none =>
      have nothing : sizeOf none = 0 := rfl
      rw [Option.bind_none]
      omega
  | some size =>
      have same : sizeOf (some size) = size.toInt := rfl
      have bound := size.toInt_lt
      have left := @sub_toInt64_toInt size shares (by omega) (by omega)
      rw [Option.bind_some]
      split
      · rename_i emptied
        have atMost : (size - shares.toInt64).toInt ≤ (0 : Int64).toInt :=
          Int64.le_iff_toInt_le.mp emptied
        have zero : (0 : Int64).toInt = 0 := rfl
        have nothing : sizeOf none = 0 := rfl
        omega
      · have kept : sizeOf (some (size - shares.toInt64)) = (size - shares.toInt64).toInt := rfl
        omega

/-- Where all of the size is removed, no entry stays. -/
theorem entry_removed {entry : Option Int64} {shares : Int32}
    (all : shares.toInt = sizeOf entry) :
    entry.bind (fun size =>
      if size - shares.toInt64 ≤ 0 then none else some (size - shares.toInt64)) = none := by
  cases entry with
  | none => rfl
  | some size =>
      have same : sizeOf (some size) = size.toInt := rfl
      rw [Option.bind_some, if_pos (sub_toInt64_emptied (by omega) (by omega))]

theorem sub_toInt {larger smaller : Int32} (smallerNonneg : 0 ≤ smaller.toInt)
    (below : smaller.toInt ≤ larger.toInt) :
    (larger - smaller).toInt = larger.toInt - smaller.toInt := by
  have bound := larger.toInt_lt
  rw [Int32.toInt_sub]
  exact Int.bmod_eq_of_le (by omega) (by omega)

theorem sideOf_flag (side : BookSide) :
    ClientOrderBook.sideOf (side.flag != 0).toUInt8 = side := by
  cases side <;> decide

/-! ### What a handler mirrors -/

/-- The client's book displays the sum of each list, and nothing where there is none. -/
def Shows (book : ClientOrderBook) (view : BookView) : Prop :=
  ∀ side price,
    sizeOf ((book.sizes side).lookup price) = (offered orderAmount (view side price) : Int) ∧
      (view side price = [] → (book.sizes side).lookup price = none)

/-- The client's data of an order on a list. -/
structure Describes (data : AddOrderData) (side : BookSide) (order : Order) : Prop where
  price : data.price = order.price
  side : ClientOrderBook.sideOf data.isBuySide = side
  quantity : data.quantity.toInt = orderAmount order
  book : data.bookIndex = 0

structure Knows (orders : AList (fun _ : OrderId => AddOrderData)) (view : BookView) : Prop where
  known : ∀ side price order, order ∈ view side price →
    ∃ data, orders.lookup order.orderId = some data ∧ Describes data side order
  unknown : ∀ orderId, (∀ side price, orderId ∉ orderIds (view side price)) →
    orders.lookup orderId = none

/-- The handler has one book, for the ticker. -/
structure Copies (ticker : Ticker) (view : BookView) (handler : ClientFeedHandler)
    (book : ClientOrderBook) : Prop where
  listed : handler.tickers.lookup ticker = some 0
  single : handler.orderbooks = [book]
  shows : Shows book view
  knows : Knows handler.orders view

/-- The handler has a copy of the lists, or has heard nothing while there are none. -/
def Mirrors (ticker : Ticker) (view : BookView) (handler : ClientFeedHandler) : Prop :=
  (handler = ClientFeedHandler.fresh ∧ ∀ side price, view side price = []) ∨
    ∃ book, Copies ticker view handler book

theorem offered_append (front back : List Order) :
    offered orderAmount (front ++ back) =
      offered orderAmount front + offered orderAmount back := by
  simp [offered]

theorem offered_cons (order : Order) (rest : List Order) :
    offered orderAmount (order :: rest) = orderAmount order + offered orderAmount rest := by
  simp [offered]

theorem shows_nothing (ticker : Ticker) {view : BookView}
    (none : ∀ side price, view side price = []) : Shows (ClientOrderBook.ofTicker ticker) view := by
  intro side price
  rw [none side price]
  cases side <;> exact ⟨rfl, fun _ => rfl⟩

/-- Once a book is opened for the ticker, the handler has a copy. -/
theorem Mirrors.openBook {ticker : Ticker} {view : BookView} {handler : ClientFeedHandler}
    (mirrors : Mirrors ticker view handler) :
    ∃ opened book, handler.openBook ticker = (opened, 0) ∧ Copies ticker view opened book := by
  rcases mirrors with ⟨unheard, none⟩ | ⟨book, copies⟩
  · subst unheard
    refine ⟨_, ClientOrderBook.ofTicker ticker, rfl, ?_⟩
    exact
      { listed := AList.lookup_insert _
        single := rfl
        shows := shows_nothing ticker none
        knows :=
          { known := by
              intro side price order member
              rw [none side price] at member
              cases member
            unknown := fun _ _ => rfl } }
  · refine ⟨handler, book, ?_, copies⟩
    unfold ClientFeedHandler.openBook
    rw [copies.listed]

theorem Copies.changeBook {ticker : Ticker} {view : BookView} {handler : ClientFeedHandler}
    {book : ClientOrderBook} (copies : Copies ticker view handler book)
    (change : ClientOrderBook → ClientOrderBook) :
    handler.changeBook 0 change = .ok { handler with orderbooks := [change book] } := by
  unfold ClientFeedHandler.changeBook
  rw [copies.single]
  rfl

theorem Copies.displayed {ticker : Ticker} {view : BookView} {handler : ClientFeedHandler}
    {book : ClientOrderBook} (copies : Copies ticker view handler book) (side : BookSide)
    (price : Price) : handler.displayed ticker side price = (book.sizes side).lookup price := by
  have subscribed : handler.subscribe ticker = some book := by
    unfold ClientFeedHandler.subscribe
    rw [copies.listed, copies.single]
    rfl
  unfold ClientFeedHandler.displayed
  rw [subscribed]

/-- What a mirroring handler displays. -/
theorem Mirrors.displayed {ticker : Ticker} {view : BookView} {handler : ClientFeedHandler}
    (mirrors : Mirrors ticker view handler) (side : BookSide) (price : Price) :
    sizeOf (handler.displayed ticker side price) =
        (offered orderAmount (view side price) : Int) ∧
      (view side price = [] → handler.displayed ticker side price = none) := by
  rcases mirrors with ⟨unheard, none⟩ | ⟨book, copies⟩
  · subst unheard
    rw [none side price]
    exact ⟨rfl, fun _ => rfl⟩
  · rw [copies.displayed]
    exact copies.shows side price

/-! ### One change of one list -/

section Changes

variable {book : ClientOrderBook} {view changed : BookView} {placed : BookSide} {price : Price}
  {isBuySide : UInt8} {shares : Int32}

theorem Shows.grow (shows : Shows book view) (onSide : ClientOrderBook.sideOf isBuySide = placed)
    (sharesNonneg : 0 ≤ shares.toInt)
    (others : ∀ side other, ¬(side = placed ∧ other = price) →
      changed side other = view side other)
    (occupied : changed placed price ≠ [])
    (sum : (offered orderAmount (changed placed price) : Int) =
      offered orderAmount (view placed price) + shares.toInt)
    (room : (offered orderAmount (view placed price) : Int) + shares.toInt <
      9223372036854775808) :
    Shows (book.addToBook isBuySide shares price) changed := by
  intro side other
  rw [ClientOrderBook.lookup_addToBook, onSide]
  by_cases here : side = placed ∧ other = price
  · obtain ⟨sameSide, samePrice⟩ := here
    subst sameSide samePrice
    have displays := (shows side other).1
    have both : side = side ∧ other = other := ⟨rfl, rfl⟩
    rw [if_pos both, sizeOf_add (by omega) sharesNonneg (by omega)]
    exact ⟨by omega, fun none => absurd none occupied⟩
  · rw [if_neg here, others side other here]
    exact shows side other

theorem Shows.shrink (shows : Shows book view) (onSide : ClientOrderBook.sideOf isBuySide = placed)
    (sharesNonneg : 0 ≤ shares.toInt)
    (others : ∀ side other, ¬(side = placed ∧ other = price) →
      changed side other = view side other)
    (sum : (offered orderAmount (changed placed price) : Int) + shares.toInt =
      offered orderAmount (view placed price)) :
    Shows (book.removeFromBook isBuySide shares price) changed := by
  intro side other
  rw [ClientOrderBook.lookup_removeFromBook, onSide]
  by_cases here : side = placed ∧ other = price
  · obtain ⟨sameSide, samePrice⟩ := here
    subst sameSide samePrice
    have displays := (shows side other).1
    have both : side = side ∧ other = other := ⟨rfl, rfl⟩
    rw [if_pos both, sizeOf_remove sharesNonneg (by omega)]
    refine ⟨by omega, ?_⟩
    intro none
    have nothing : offered orderAmount (changed side other) = 0 := by
      rw [none]
      rfl
    exact entry_removed (by omega)
  · rw [if_neg here, others side other here]
    exact shows side other

end Changes

/-! ### What the client knows of the orders -/

section Orders

variable {server : OrderBook} {view : BookView} {side : BookSide} {order : Order}
  {orders : AList (fun _ : OrderId => AddOrderData)} {data : AddOrderData}

/-- Only the list an order is on has it. -/
theorem absent_away (represents : server.Represents view) (member : order ∈ view side order.price)
    {other : BookSide} {price : Price} (away : ¬(other = side ∧ price = order.price)) :
    order.orderId ∉ orderIds (view other price) := by
  intro inside
  obtain ⟨twin, twinMember, twinSame⟩ := List.mem_map.mp inside
  have place := represents.unique twinMember member twinSame
  exact away ⟨place.1, place.2.1⟩

theorem Knows.append (knows : Knows orders view)
    (absent : ∀ side price, order.orderId ∉ orderIds (view side price))
    (describes : Describes data side order) :
    Knows (orders.insert order.orderId data) (view.append side order) where
  known := by
    intro other price item member
    by_cases same : item.orderId = order.orderId
    · have isNew : item = order ∧ other = side := by
        by_cases here : other = side ∧ price = order.price
        · have inside : item ∈ view other price ++ [order] :=
            (if_pos here : view.append side order other price = _) ▸ member
          rcases List.mem_append.mp inside with old | new
          · exact absurd (List.mem_map_of_mem old) (same ▸ absent other price)
          · exact ⟨List.mem_singleton.mp new, here.1⟩
        · have inside : item ∈ view other price :=
            (if_neg here : view.append side order other price = _) ▸ member
          exact absurd (List.mem_map_of_mem inside) (same ▸ absent other price)
      rw [isNew.1, isNew.2]
      exact ⟨data, AList.lookup_insert orders, describes⟩
    · obtain ⟨old, found, describesOld⟩ :=
        knows.known other price item ((mem_append_of_ne same).mp member)
      exact ⟨old, (AList.lookup_insert_ne same).trans found, describesOld⟩
  unknown := by
    intro orderId outside
    have different : orderId ≠ order.orderId := by
      intro same
      refine outside side order.price ?_
      have appended : view.append side order side order.price = view side order.price ++ [order] :=
        if_pos ⟨rfl, rfl⟩
      rw [appended, same]
      exact List.mem_map_of_mem (List.mem_append_right _ List.mem_cons_self)
    refine (AList.lookup_insert_ne different).trans (knows.unknown orderId ?_)
    intro other price inside
    obtain ⟨item, member, sameId⟩ := List.mem_map.mp inside
    refine outside other price (List.mem_map.mpr ⟨item, ?_, sameId⟩)
    exact (mem_append_of_ne (by rw [sameId]; exact different)).mpr member

theorem Knows.drop (knows : Knows orders view) (orderId : OrderId) :
    Knows (orders.erase orderId) (view.drop orderId) where
  known := by
    intro other price item inside
    obtain ⟨old, different⟩ := mem_drop.mp inside
    obtain ⟨data, found, describes⟩ := knows.known other price item old
    exact ⟨data, (AList.lookup_erase_ne different).trans found, describes⟩
  unknown := by
    intro another outside
    by_cases same : another = orderId
    · rw [same]
      exact AList.lookup_erase _ _
    · refine (AList.lookup_erase_ne same).trans (knows.unknown another ?_)
      intro other price inside
      obtain ⟨item, old, sameId⟩ := List.mem_map.mp inside
      refine outside other price (List.mem_map.mpr ⟨item, mem_drop.mpr ⟨old, ?_⟩, sameId⟩)
      rw [sameId]
      exact same

theorem Knows.replace (knows : Knows orders view) (represents : server.Represents view)
    (member : order ∈ view side order.price) {quantity : UInt32}
    (describes : Describes data side (order.withQuantity quantity)) :
    Knows (orders.insert order.orderId data) (view.replace (order.withQuantity quantity)) where
  known := by
    intro other price item inside
    by_cases same : item.orderId = order.orderId
    · obtain ⟨oldItem, oldMember, becomes⟩ := List.mem_map.mp inside
      have oldSame : oldItem.orderId = order.orderId := by
        by_cases changes : oldItem.orderId = (order.withQuantity quantity).orderId
        · exact changes
        · rw [if_neg changes] at becomes
          rw [becomes]
          exact same
      have place := represents.unique oldMember member oldSame
      have isNew : item = order.withQuantity quantity := by
        have changes : oldItem.orderId = (order.withQuantity quantity).orderId := oldSame
        rw [if_pos changes] at becomes
        exact becomes.symm
      rw [isNew, place.1]
      exact ⟨data, AList.lookup_insert orders, describes⟩
    · have unchanged : item.orderId ≠ (order.withQuantity quantity).orderId := same
      obtain ⟨old, found, describesOld⟩ :=
        knows.known other price item ((mem_replace_of_ne unchanged).mp inside)
      exact ⟨old, (AList.lookup_insert_ne same).trans found, describesOld⟩
  unknown := by
    intro orderId outside
    have different : orderId ≠ order.orderId := by
      intro same
      refine outside side order.price ?_
      rw [BookView.orderIds_replace, same]
      exact List.mem_map_of_mem member
    refine (AList.lookup_insert_ne different).trans (knows.unknown orderId ?_)
    intro other price inside
    refine outside other price ?_
    rw [BookView.orderIds_replace]
    exact inside

end Orders

/-! ### The messages of the book -/

section Messages

variable {ticker : Ticker} {server : OrderBook} {view : BookView} {handler : ClientFeedHandler}
  {side : BookSide} {order : Order}

/-- The add message of an order that goes to the end of its list. -/
theorem Mirrors.add (mirrors : Mirrors ticker view handler)
    (absent : ∀ side price, order.orderId ∉ orderIds (view side price))
    (flagged : order.isBuySide = side.flag) (sameTicker : order.ticker = ticker)
    (small : orderAmount order < 2147483648)
    (room : offered orderAmount (view side order.price) + orderAmount order <
      9223372036854775808) (timestamp : UInt64) :
    ∃ next, handler.receive (.add
        { timestamp := timestamp
          orderId := order.orderId
          ticker := order.ticker
          price := order.price
          quantity := order.currentQuantity
          isBuySide := order.isBuySide != 0 }) = .ok next ∧
      Mirrors ticker (view.append side order) next := by
  obtain ⟨opened, book, opens, copies⟩ := mirrors.openBook
  have quantity : order.currentQuantity.toInt32.toInt = orderAmount order :=
    (Bytes.toInt32_toInt_iff _).mpr small
  have new : opened.orders.lookup order.orderId = none := copies.knows.unknown _ absent
  have onSide : ClientOrderBook.sideOf (order.isBuySide != 0).toUInt8 = side := by
    rw [flagged]
    exact sideOf_flag side
  have appended : view.append side order side order.price = view side order.price ++ [order] :=
    if_pos ⟨rfl, rfl⟩
  refine ⟨
    { opened with
      orderbooks :=
        [book.addToBook (order.isBuySide != 0).toUInt8 order.currentQuantity.toInt32 order.price]
      orders := opened.orders.insert order.orderId
        { timestamp := timestamp.toInt64
          orderId := order.orderId
          ticker := ticker
          price := order.price
          quantity := order.currentQuantity.toInt32
          isBuySide := (order.isBuySide != 0).toUInt8
          bookIndex := 0 } }, ?_, Or.inr ?_⟩
  · simp only [ClientFeedHandler.receive, ClientFeedHandler.addOrder, sameTicker, opens]
    rw [copies.changeBook]
    simp only [ok_bind, new, Option.isSome_none, Bool.false_eq_true, if_false]
    rfl
  · refine ⟨book.addToBook (order.isBuySide != 0).toUInt8 order.currentQuantity.toInt32 order.price,
      { listed := copies.listed
        single := rfl
        shows := ?_
        knows := copies.knows.append absent ⟨rfl, onSide, quantity, rfl⟩ }⟩
    refine copies.shows.grow onSide (by omega) ?_ ?_ ?_ (by omega)
    · intro other price away
      exact if_neg away
    · rw [appended]
      exact List.append_ne_nil_of_right_ne_nil _ (List.cons_ne_nil _ _)
    · rw [appended, offered_append, offered_cons]
      have nothing : offered orderAmount [] = 0 := rfl
      omega

theorem Mirrors.copies (mirrors : Mirrors ticker view handler) {price : Price}
    (member : order ∈ view side price) : ∃ book, Copies ticker view handler book := by
  rcases mirrors with ⟨_unheard, none⟩ | copies
  · rw [none side price] at member
    cases member
  · exact copies

/-- The cancel message of an order that leaves its list. -/
theorem Mirrors.cancel (mirrors : Mirrors ticker view handler)
    (represents : server.Represents view) (member : order ∈ view side order.price)
    (timestamp : UInt64) :
    ∃ next, handler.receive (.cancel
        { timestamp := timestamp
          orderId := order.orderId }) = .ok next ∧
      Mirrors ticker (view.drop order.orderId) next := by
  obtain ⟨book, copies⟩ := mirrors.copies member
  obtain ⟨data, found, describes⟩ := copies.knows.known side order.price order member
  obtain ⟨front, back, split⟩ := List.append_of_mem member
  have distinct := represents.distinct side order.price
  rw [split] at distinct
  have dropped : view.drop order.orderId side order.price = front ++ back := by
    unfold BookView.drop
    rw [split]
    exact drop_around distinct
  refine ⟨
    { handler with
      orderbooks := [book.removeFromBook data.isBuySide data.quantity data.price]
      orders := handler.orders.erase order.orderId }, ?_, Or.inr ?_⟩
  · simp only [ClientFeedHandler.receive, ClientFeedHandler.cancelOrder, found, describes.book]
    rw [copies.changeBook]
    rfl
  · refine ⟨book.removeFromBook data.isBuySide data.quantity data.price,
      { listed := copies.listed
        single := rfl
        shows := ?_
        knows := copies.knows.drop order.orderId }⟩
    rw [describes.price]
    have quantity := describes.quantity
    refine copies.shows.shrink describes.side (by omega) ?_ ?_
    · intro other price away
      exact drop_absent (absent_away represents member away)
    · rw [dropped, split, offered_append, offered_append, offered_cons]
      omega

/-- The modification message of an order that is given this quantity in its place. -/
theorem Mirrors.modify (mirrors : Mirrors ticker view handler)
    (represents : server.Represents view) (member : order ∈ view side order.price)
    {quantity : UInt32} (small : quantity.toNat < 2147483648)
    (room : orderAmount order < quantity.toNat →
      offered orderAmount (view side order.price) + quantity.toNat <
        9223372036854775808 + orderAmount order) (timestamp : UInt64) :
    ∃ next, handler.receive (.mod
        { timestamp := timestamp
          orderId := order.orderId
          quantity := quantity }) = .ok next ∧
      Mirrors ticker (view.replace (order.withQuantity quantity)) next := by
  obtain ⟨book, copies⟩ := mirrors.copies member
  obtain ⟨data, found, describes⟩ := copies.knows.known side order.price order member
  obtain ⟨front, back, split⟩ := List.append_of_mem member
  have distinct := represents.distinct side order.price
  rw [split] at distinct
  have replaced : view.replace (order.withQuantity quantity) side order.price =
      front ++ order.withQuantity quantity :: back := by
    unfold BookView.replace
    rw [split]
    exact replace_around rfl distinct
  have others : ∀ other price, ¬(other = side ∧ price = order.price) →
      view.replace (order.withQuantity quantity) other price = view other price := by
    intro other price away
    exact replace_absent (absent_away represents member away)
  have old := describes.quantity
  have new := (Bytes.toInt32_toInt_iff quantity).mpr small
  have sums : offered orderAmount (view.replace (order.withQuantity quantity) side order.price) +
      orderAmount order = offered orderAmount (view side order.price) + quantity.toNat := by
    have amount : orderAmount (order.withQuantity quantity) = quantity.toNat := rfl
    rw [replaced, split, offered_append, offered_append, offered_cons, offered_cons, amount]
    omega
  refine ⟨
    { handler with
      orderbooks :=
        [if quantity.toInt32 > data.quantity then
          book.addToBook data.isBuySide (quantity.toInt32 - data.quantity) data.price
        else book.removeFromBook data.isBuySide (data.quantity - quantity.toInt32) data.price]
      orders := handler.orders.insert order.orderId
        { data with quantity := quantity.toInt32 } }, ?_, Or.inr ?_⟩
  · simp only [ClientFeedHandler.receive, ClientFeedHandler.modifyOrder, found, describes.book]
    rw [copies.changeBook]
    rfl
  · refine ⟨if quantity.toInt32 > data.quantity then
        book.addToBook data.isBuySide (quantity.toInt32 - data.quantity) data.price
      else book.removeFromBook data.isBuySide (data.quantity - quantity.toInt32) data.price,
      { listed := copies.listed
        single := rfl
        shows := ?_
        knows := copies.knows.replace represents member
          ⟨describes.price, describes.side, new, describes.book⟩ }⟩
    rw [describes.price]
    by_cases more : quantity.toInt32 > data.quantity
    · have larger := Int32.lt_iff_toInt_lt.mp more
      have gap := sub_toInt (by omega : 0 ≤ data.quantity.toInt) (by omega :
        data.quantity.toInt ≤ quantity.toInt32.toInt)
      rw [if_pos more]
      refine copies.shows.grow describes.side (by omega) others ?_ (by omega) (by omega)
      rw [replaced]
      exact List.append_ne_nil_of_right_ne_nil _ (List.cons_ne_nil _ _)
    · have smaller : quantity.toInt32.toInt ≤ data.quantity.toInt := by
        rw [gt_iff_lt, Int32.lt_iff_toInt_lt] at more
        omega
      have gap := sub_toInt (by omega : 0 ≤ quantity.toInt32.toInt) smaller
      rw [if_neg more]
      exact copies.shows.shrink describes.side (by omega) others (by omega)

end Messages

end Client
end SpotExchange
