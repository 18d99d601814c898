/-
The order books by ticker. A request for a ticker without a book is rejected.
-/

import SpotExchange.Engine.OrderBook

namespace SpotExchange
namespace Server

open Engine Wire

abbrev OrderBooks := AList (fun _ : Ticker => OrderBook)

/-- What a request leaves behind: the books, the executions with the ticker of their
book, and what was handed to the writers. -/
structure Handled where
  books : OrderBooks
  executions : List (Ticker × Execution)
  emitted : List Emission

namespace OrderBookManager

/-- The book keeps no ticker of its own. -/
def createOrderBook (books : OrderBooks) (ticker : Ticker) : OrderBooks × Bool :=
  match books.lookup ticker with
  | some _ => (books, false)
  | none => (books.insert ticker (OrderBook.empty 0), true)

/-- Hands a request to the book of its ticker. -/
def toOrderBook (books : OrderBooks) (ticker : Ticker) (notFound : Emission) (request : Request) :
    Except Fault Handled :=
  match books.lookup ticker with
  | none =>
      .ok { books := books
            executions := []
            emitted := [notFound] }
  | some book => do
      let result ← book.call request
      return { books := books.insert ticker result.book
               executions := result.executions.map (fun execution => (ticker, execution))
               emitted := result.emitted }

section Operations

variable (clock : Nat → Int64) (books : OrderBooks)

def addOrder (order : Order) : Except Fault Handled :=
  toOrderBook books order.ticker
    (OrderBook.rejection order.connection order.common .orderbookNotFound) (.add clock order)

def modifyOrder (modify : Info.ModifyOrder) : Except Fault Handled :=
  if modify.quantity = 0 then
    .ok { books := books
          executions := []
          emitted :=
            [OrderBook.rejection modify.connection modify.toOrderCommon .modificationTrivial] }
  else
    toOrderBook books modify.ticker
      (OrderBook.rejection modify.connection modify.toOrderCommon .orderbookNotFound)
      (.modify clock modify)

def cancelOrder (cancel : Info.CancelOrder) : Except Fault Handled :=
  toOrderBook books cancel.ticker
    (OrderBook.rejection cancel.connection cancel.toOrderCommon .orderbookNotFound)
    (.cancel clock cancel)

end Operations

/-- The three calls that the manager receives. -/
def handle (books : OrderBooks) : Request → Except Fault Handled
  | .add clock order => addOrder clock books order
  | .modify clock changes => modifyOrder clock books changes
  | .cancel clock cancels => cancelOrder clock books cancels

/-- A change to quantity zero is refused before its book sees it. -/
def refusedAtOnce : Request → Bool
  | .add _ _ => false
  | .modify _ changes => changes.quantity == 0
  | .cancel _ _ => false

theorem handle_refused (books : OrderBooks) {request : Request}
    (refused : refusedAtOnce request = true) :
    ∃ handled, handle books request = .ok handled ∧ handled.books = books ∧
      handled.executions = [] := by
  cases request with
  | add clock order => cases refused
  | cancel clock cancels => cases refused
  | modify clock changes =>
      have zero : changes.quantity = 0 := beq_iff_eq.mp refused
      simp only [handle, modifyOrder, if_pos zero]
      exact ⟨_, rfl, rfl, rfl⟩

theorem handle_passed (books : OrderBooks) {request : Request}
    (passed : refusedAtOnce request = false) :
    ∃ notFound, handle books request =
      toOrderBook books request.common.ticker notFound request := by
  cases request with
  | add clock order => exact ⟨_, rfl⟩
  | cancel clock cancels => exact ⟨_, rfl⟩
  | modify clock changes =>
      have nonzero : ¬changes.quantity = 0 := beq_eq_false_iff_ne.mp passed
      simp only [handle, modifyOrder, if_neg nonzero]
      exact ⟨_, rfl⟩

def step (books : OrderBooks) (request : Request) : Except Fault OrderBooks :=
  (handle books request).map Handled.books

/-- The empty books of some tickers. -/
def created (tickers : List Ticker) : OrderBooks :=
  tickers.foldl (fun books ticker => (createOrderBook books ticker).1) ∅

def AllEmpty (books : OrderBooks) : Prop :=
  ∀ ticker book, books.lookup ticker = some book → book = OrderBook.empty 0

theorem createOrderBook_allEmpty {books : OrderBooks} (empty : AllEmpty books)
    (ticker : Ticker) : AllEmpty (createOrderBook books ticker).1 := by
  intro other book found
  unfold createOrderBook at found
  split at found
  · exact empty other book found
  · by_cases same : other = ticker
    · subst same
      have created : some (OrderBook.empty 0) = some book := (AList.lookup_insert _).symm.trans found
      exact (Option.some.inj created).symm
    · have older : books.lookup other = some book := (AList.lookup_insert_ne same).symm.trans found
      exact empty other book older

theorem created_allEmpty (tickers : List Ticker) : AllEmpty (created tickers) := by
  apply List.foldlRecOn tickers
  · intro ticker book found
    cases found
  · intro books empty ticker _listed
    exact createOrderBook_allEmpty empty ticker

theorem createOrderBook_mem {books : OrderBooks} {ticker other : Ticker} :
    other ∈ (createOrderBook books ticker).1 ↔ other = ticker ∨ other ∈ books := by
  unfold createOrderBook
  cases found : books.lookup ticker with
  | none => exact AList.mem_insert books
  | some book =>
      constructor
      · exact Or.inr
      · rintro (same | older)
        · rw [same]
          exact AList.lookup_isSome.mp (Option.isSome_of_mem found)
        · exact older

/-- There are books of the created tickers, and of no other ones. -/
theorem mem_created (tickers : List Ticker) (ticker : Ticker) :
    ticker ∈ created tickers ↔ ticker ∈ tickers := by
  have grows : ∀ books : OrderBooks,
      ticker ∈ tickers.foldl (fun books ticker => (createOrderBook books ticker).1) books ↔
        ticker ∈ tickers ∨ ticker ∈ books := by
    induction tickers with
    | nil => simp
    | cons first rest ih =>
        intro books
        rw [List.foldl_cons, ih, createOrderBook_mem, List.mem_cons]
        tauto
  rw [created, grows]
  simp

end OrderBookManager

end Server
end SpotExchange
