/-
The books of the tickers. Positions of books are kept in 16 bits, so that a book is its own
ticker's as long as there are no more tickers than indices.
-/

import SpotExchange.Client.Replay

namespace SpotExchange
namespace Client

open Engine Machine

/-! ### What the tickers of a feed are owed -/

/-- The tickers that messages announce. -/
def announcedIn : List FeedMessage → Finset Ticker
  | [] => ∅
  | message :: rest => message.announces ∪ announcedIn rest

theorem announcedIn_append (front back : List FeedMessage) :
    announcedIn (front ++ back) = announcedIn front ∪ announcedIn back := by
  induction front with
  | nil => exact (Finset.empty_union _).symm
  | cons message rest ih =>
      rw [List.cons_append, announcedIn, announcedIn, ih]
      exact (Finset.union_assoc _ _ _).symm

theorem announcedIn_cons (announced : Finset Ticker) (message : FeedMessage)
    (rest : List FeedMessage) :
    announced ∪ announcedIn (message :: rest) =
      (announced ∪ message.announces) ∪ announcedIn rest :=
  (Finset.union_assoc announced message.announces (announcedIn rest)).symm

namespace ClientFeedHandler

/-- The ticker that a message is for: that of the order which it adds or names. -/
def concerns (handler : ClientFeedHandler) : FeedMessage → Option Ticker
  | .add newOrder => some newOrder.ticker
  | .modify modifyOrder => (handler.orders.lookup modifyOrder.orderId).map AddOrderData.ticker
  | .cancel cancelOrder => (handler.orders.lookup cancelOrder.orderId).map AddOrderData.ticker
  | .fill fill => (handler.orders.lookup fill.orderId).map AddOrderData.ticker

/-- Each announced ticker has a book of its own, and each tracked order the index of its
ticker's. -/
structure OwnBooks (announced : Finset Ticker) (handler : ClientFeedHandler) : Prop where
  subscribed : ∀ ticker ∈ announced, ∃ book, handler.subscribe ticker = some book ∧
    book.ticker = ticker
  filed : ∀ orderId data, handler.orders.lookup orderId = some data →
    ∃ book, handler.orderbooks[data.bookIndex.toNat]? = some book ∧ book.ticker = data.ticker

/-- A message leaves what is displayed for the tickers that it is not for. -/
def LeavesOthers (handler : ClientFeedHandler) (message : FeedMessage)
    (next : ClientFeedHandler) : Prop :=
  ∀ ticker, handler.concerns message ≠ some ticker → ∀ side price,
    next.displayed ticker side price = handler.displayed ticker side price

/-- After each of the messages the books are the tickers' own, and each of them leaves the
books of the other tickers. -/
def KeepsBooks (messages : List FeedMessage) : Prop :=
  ∀ earlier later, messages = earlier ++ later →
    ∃ handler, run process fresh earlier = .ok handler ∧ OwnBooks (announcedIn earlier) handler ∧
      ∀ message rest, later = message :: rest →
        ∃ next, handler.process message = .ok next ∧ LeavesOthers handler message next

/-! ### Few tickers -/

/-- The books are shelved, and the index of each tracked order is that of its ticker. -/
structure Homed (announced : Finset Ticker) (handler : ClientFeedHandler) : Prop where
  indexed : Indexed handler
  shelves : Shelves announced handler
  homes : ∀ orderId data, handler.orders.lookup orderId = some data →
    handler.tickers.lookup data.ticker = some data.bookIndex

theorem fresh_homed : Homed ∅ fresh where
  indexed := fresh_indexed
  shelves := fresh_shelves
  homes := by
    intro orderId data found
    cases found

section Homed

variable {announced : Finset Ticker} {handler next : ClientFeedHandler}

theorem Homed.opened (homed : Homed announced handler) (ticker : Ticker)
    (few : (insert ticker announced).card ≤ 65536) :
    Homed (insert ticker announced) (handler.openBook ticker).1 := by
  have opens := openBook_opens homed.indexed ticker
  refine
    { indexed := homed.indexed.opened ticker
      shelves := homed.shelves.opened ticker few
      homes := ?_ }
  rw [opens.orders]
  exact Filed.opened homed.homes homed.indexed ticker

theorem Homed.rewritten {orders : AList (fun _ : OrderId => AddOrderData)}
    (homed : Homed announced handler) (indexed : Indexed next)
    (rewrites : Rewrites handler orders next)
    (homes : Filed handler orders) : Homed announced next where
  indexed := indexed
  shelves := homed.shelves.rewrite rewrites
  homes := by
    rw [rewrites.orders, rewrites.tickers]
    exact homes

theorem Homed.unannounced (homed : Homed announced handler) : Homed (announced ∪ ∅) handler := by
  rw [Finset.union_empty]
  exact homed

theorem Homed.step (homed : Homed announced handler) {message : FeedMessage}
    (few : (announced ∪ message.announces).card ≤ 65536) (does : Does handler message next) :
    Homed (announced ∪ message.announces) next := by
  have indexed := does.indexed homed.indexed
  have filed : Filed handler handler.orders := homed.homes
  cases does with
  | adds newOrder next grows rewrites =>
      have opens := openBook_opens homed.indexed newOrder.ticker
      rw [union_announces_add] at few ⊢
      have opened := homed.opened newOrder.ticker few
      apply opened.rewritten indexed rewrites
      rw [← opens.orders]
      split
      · exact opened.homes
      · exact Filed.insert opened.homes opens.listed
  | modifiesUnknown modifyOrder unknown =>
      exact homed.unannounced
  | increases modifyOrder data next found more grows rewrites =>
      apply Homed.unannounced
      exact homed.rewritten indexed rewrites
        (filed.insert (filed modifyOrder.orderId data found))
  | decreases modifyOrder data next found noMore shrinks rewrites =>
      apply Homed.unannounced
      exact homed.rewritten indexed rewrites
        (filed.insert (filed modifyOrder.orderId data found))
  | cancelsUnknown cancelOrder unknown =>
      exact homed.unannounced
  | cancels cancelOrder data next found shrinks rewrites =>
      apply Homed.unannounced
      exact homed.rewritten indexed rewrites (filed.erase cancelOrder.orderId)
  | fillsUnknown filled unknown =>
      exact homed.unannounced
  | fills filled data next found shrinks rewrites =>
      apply Homed.unannounced
      apply homed.rewritten indexed rewrites
      split
      · exact filed.erase filled.orderId
      · exact filed.insert (filed filled.orderId data found)

theorem Homed.run {messages : List FeedMessage} (homed : Homed announced handler)
    (few : (announced ∪ announcedIn messages).card ≤ 65536) :
    ∃ finish, Machine.run process handler messages = .ok finish ∧
      Homed (announced ∪ announcedIn messages) finish := by
  induction messages generalizing announced handler with
  | nil =>
      refine ⟨handler, rfl, ?_⟩
      rw [announcedIn, Finset.union_empty]
      exact homed
  | cons message rest ih =>
      rw [announcedIn_cons] at few ⊢
      have fewHere := Nat.le_trans (Finset.card_le_card Finset.subset_union_left) few
      obtain ⟨next, returned, does⟩ := process_does homed.indexed message
      obtain ⟨finish, reached, homedFinish⟩ := ih (homed.step fewHere does) few
      refine ⟨finish, ?_, homedFinish⟩
      simp only [Machine.run, returned]
      exact reached

theorem Homed.ownBooks (homed : Homed announced handler) : OwnBooks announced handler where
  subscribed := by
    intro ticker member
    obtain ⟨index, listed⟩ := (homed.shelves.heard ticker).mp member
    obtain ⟨book, there, isTicker⟩ := homed.shelves.book listed
    refine ⟨book, ?_, isTicker⟩
    rw [subscribe, listed]
    exact there
  filed := by
    intro orderId data found
    exact homed.shelves.book (homed.homes orderId data found)

/-! ### The other tickers -/

theorem displayed_listed {ticker : Ticker} {index : UInt16}
    (listed : handler.tickers.lookup ticker = some index) (side : BookSide) (price : Price) :
    handler.displayed ticker side price =
      handler.entry
        { index := index.toNat
          side := side
          price := price } := by
  rw [displayed, subscribe, listed]
  rfl

theorem displayed_unlisted {ticker : Ticker} (unlisted : handler.tickers.lookup ticker = none)
    (side : BookSide) (price : Price) : handler.displayed ticker side price = none := by
  rw [displayed, subscribe, unlisted]

/-- What keeps a ticker's index and the entries of its book keeps what is displayed for it. -/
theorem displayed_kept {ticker : Ticker}
    (kept : next.tickers.lookup ticker = handler.tickers.lookup ticker)
    (entries : ∀ index, handler.tickers.lookup ticker = some index → ∀ place : Place,
      place.index = index.toNat → next.entry place = handler.entry place)
    (side : BookSide) (price : Price) :
    next.displayed ticker side price = handler.displayed ticker side price := by
  cases listed : handler.tickers.lookup ticker with
  | none =>
      rw [listed] at kept
      rw [displayed_unlisted kept, displayed_unlisted listed]
  | some index =>
      rw [listed] at kept
      rw [displayed_listed kept, displayed_listed listed]
      exact entries index listed _ rfl

/-- Another ticker's book is at another index. -/
theorem Shelves.elsewhere (shelves : Shelves announced handler) {ticker other : Ticker}
    {index home : UInt16} (different : ticker ≠ other)
    (listed : handler.tickers.lookup other = some index)
    (listedHome : handler.tickers.lookup ticker = some home) {place changed : Place}
    (here : place.index = index.toNat) (there : changed.index = home.toNat) : place ≠ changed := by
  intro same
  apply different
  apply shelves.one_ticker listedHome listed
  rw [← there, ← here, same]

/-- A change at the place of a tracked order leaves the books of the other tickers. -/
theorem Homed.leaves_of_place (homed : Homed announced handler) {orderId : OrderId}
    {data : AddOrderData} {orders : AList (fun _ : OrderId => AddOrderData)}
    (found : handler.orders.lookup orderId = some data) (rewrites : Rewrites handler orders next)
    (away : ∀ place, place ≠ data.place → next.entry place = handler.entry place)
    {ticker : Ticker}
    (different : (handler.orders.lookup orderId).map AddOrderData.ticker ≠ some ticker)
    (side : BookSide) (price : Price) :
    next.displayed ticker side price = handler.displayed ticker side price := by
  have home := homed.homes orderId data found
  have otherTicker : data.ticker ≠ ticker := by
    intro same
    rw [found, Option.map_some, same] at different
    exact different rfl
  apply displayed_kept (by rw [rewrites.tickers])
  intro index listed place here
  exact away place (homed.shelves.elsewhere otherTicker listed home here rfl)

theorem Homed.leavesOthers (homed : Homed announced handler) {message : FeedMessage}
    (few : (announced ∪ message.announces).card ≤ 65536) (does : Does handler message next) :
    LeavesOthers handler message next := by
  intro ticker different side price
  cases does with
  | adds newOrder next grows rewrites =>
      have otherTicker : newOrder.ticker ≠ ticker := fun same => different (congrArg some same)
      have opens := openBook_opens homed.indexed newOrder.ticker
      rw [union_announces_add] at few
      have opened := homed.opened newOrder.ticker few
      have same : next.tickers.lookup ticker = handler.tickers.lookup ticker := by
        rw [rewrites.tickers, opens.others ticker otherTicker.symm]
      apply displayed_kept same
      intro index listed place here
      rw [← opens.others ticker otherTicker.symm] at listed
      exact grows.away place
        (opened.shelves.elsewhere otherTicker listed opens.listed here rfl)
  | modifiesUnknown modifyOrder unknown => rfl
  | increases modifyOrder data next found more grows rewrites =>
      exact homed.leaves_of_place found rewrites grows.away different side price
  | decreases modifyOrder data next found noMore shrinks rewrites =>
      exact homed.leaves_of_place found rewrites shrinks.away different side price
  | cancelsUnknown cancelOrder unknown => rfl
  | cancels cancelOrder data next found shrinks rewrites =>
      exact homed.leaves_of_place found rewrites shrinks.away different side price
  | fillsUnknown filled unknown => rfl
  | fills filled data next found shrinks rewrites =>
      exact homed.leaves_of_place found rewrites shrinks.away different side price

/-- Tickers that all have books of their own have indices of their own. -/
theorem OwnBooks.few (own : OwnBooks announced handler) : announced.card ≤ 65536 := by
  have bounded : ∀ ticker ∈ announced,
      ((handler.tickers.lookup ticker).elim 0 UInt16.toNat) ∈ Finset.range 65536 := by
    intro ticker _member
    rw [Finset.mem_range]
    cases handler.tickers.lookup ticker with
    | none => exact Nat.zero_lt_succ 65535
    | some index => exact index.toNat_lt
  have apart : Set.InjOn (fun ticker => (handler.tickers.lookup ticker).elim 0 UInt16.toNat)
      (announced : Set Ticker) := by
    intro first member second memberSecond same
    obtain ⟨book, subscribed, isFirst⟩ := own.subscribed first member
    obtain ⟨other, subscribedOther, isSecond⟩ := own.subscribed second memberSecond
    rw [subscribe] at subscribed subscribedOther
    cases listed : handler.tickers.lookup first with
    | none =>
        rw [listed] at subscribed
        cases subscribed
    | some index =>
        cases listedOther : handler.tickers.lookup second with
        | none =>
            rw [listedOther] at subscribedOther
            cases subscribedOther
        | some indexOther =>
            simp only [listed, listedOther, Option.elim_some] at subscribed subscribedOther same
            rw [same, subscribedOther] at subscribed
            cases subscribed
            exact isFirst.symm.trans isSecond
  have fits := Finset.card_le_card_of_injOn _ bounded apart
  rw [Finset.card_range] at fits
  exact fits

end Homed

/-- Every ticker keeps its own book exactly as long as there are no more tickers than
indices. -/
theorem keepsBooks_iff_few (messages : List FeedMessage) :
    KeepsBooks messages ↔ (announcedIn messages).card ≤ 65536 := by
  constructor
  · intro keeps
    obtain ⟨handler, -, own, -⟩ := keeps messages [] (List.append_nil messages).symm
    exact own.few
  · rintro few earlier later rfl
    rw [announcedIn_append] at few
    have fewEarlier : (∅ ∪ announcedIn earlier).card ≤ 65536 := by
      rw [Finset.empty_union]
      exact Nat.le_trans (Finset.card_le_card Finset.subset_union_left) few
    obtain ⟨handler, reached, homed⟩ := fresh_homed.run fewEarlier
    rw [Finset.empty_union] at homed
    refine ⟨handler, reached, homed.ownBooks, ?_⟩
    rintro message rest rfl
    rw [announcedIn, ← Finset.union_assoc] at few
    have fewHere := Nat.le_trans (Finset.card_le_card Finset.subset_union_left) few
    obtain ⟨next, returned, does⟩ := process_does homed.indexed message
    exact ⟨next, returned, homed.leavesOthers fewHere does⟩

def addOf (ticker : Ticker) : FeedMessage :=
  .add
    { timestamp := 0
      orderId := ticker
      ticker := ticker
      price := 100
      quantity := 5
      isBuySide := 1
      bookIndex := 0 }

theorem announcedIn_adds (tickers : List Ticker) :
    announcedIn (tickers.map addOf) = tickers.toFinset := by
  induction tickers with
  | nil => rfl
  | cons ticker rest ih =>
      rw [List.map_cons, announcedIn, ih, List.toFinset_cons, Finset.insert_eq]
      rfl

/-- One ticker more than there are indices. -/
def manyTickers : List Ticker := (List.range 65537).map UInt64.ofNat

theorem manyTickers_card : (announcedIn (manyTickers.map addOf)).card = 65537 := by
  have different : manyTickers.Nodup := by
    apply List.Nodup.map_on _ List.nodup_range
    intro first member second memberSecond same
    have small : first < 2 ^ 64 := Nat.lt_trans (List.mem_range.mp member) (by decide)
    have smallSecond : second < 2 ^ 64 := Nat.lt_trans (List.mem_range.mp memberSecond) (by decide)
    have numbers := congrArg UInt64.toNat same
    rw [UInt64.toNat_ofNat', UInt64.toNat_ofNat', Nat.mod_eq_of_lt small,
      Nat.mod_eq_of_lt smallSecond] at numbers
    exact numbers
  rw [announcedIn_adds, List.toFinset_card_of_nodup different, manyTickers, List.length_map,
    List.length_range]

/-- The book of the first of these tickers is handed out for the last one. -/
theorem manyTickers_not_keepsBooks : ¬KeepsBooks (manyTickers.map addOf) := by
  intro keeps
  obtain ⟨handler, -, own, -⟩ := keeps _ [] (List.append_nil _).symm
  have few := own.few
  rw [manyTickers_card] at few
  exact absurd few (by decide)

end ClientFeedHandler

end Client
end SpotExchange
