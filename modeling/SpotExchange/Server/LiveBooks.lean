/-
The quantities of the resting orders, along runs of the calls that the manager hands to
its books.
-/

import SpotExchange.Engine.LiveOrders
import SpotExchange.Server.OrderBookManager

namespace SpotExchange
namespace Server
namespace OrderBookManager

open Engine Machine Wire

/-- Every resting order has a quantity left. -/
def AllLeft (books : OrderBooks) : Prop :=
  ∀ ticker book, books.lookup ticker = some book →
    ∀ orderId limit, book.limitOrders.lookup orderId = some limit → 0 < limit.order.currentQuantity

def AllLive (books : OrderBooks) : Prop :=
  ∀ ticker book, books.lookup ticker = some book → book.Live

theorem AllLive.left {books : OrderBooks} (live : AllLive books) : AllLeft books := by
  intro ticker book found orderId limit stored
  exact (live ticker book found).left orderId limit stored

theorem created_allLive (tickers : List Ticker) : AllLive (created tickers) := by
  intro ticker book found
  rw [created_allEmpty tickers ticker book found]
  exact OrderBook.empty_live 0

/-- What a request leaves of the books: those that were there, when it names none of them
or is refused before it is handed on, or what the call of its book leaves. -/
inductive Routed (books : OrderBooks) (request : Request) (next : OrderBooks) : Prop
  | unchanged (same : next = books)
      (refused : books.lookup request.common.ticker = none ∨ refusedAtOnce request = true)
  | called (book : OrderBook) (result : CallResult)
      (found : books.lookup request.common.ticker = some book)
      (passed : refusedAtOnce request = false)
      (returned : book.call request = .ok result)
      (after : next = books.insert request.common.ticker result.book)

theorem step_routed {books next : OrderBooks} {request : Request}
    (returned : step books request = .ok next) : Routed books request next := by
  obtain ⟨handled, handles, same⟩ := map_eq_ok returned
  cases refused : refusedAtOnce request with
  | true =>
      obtain ⟨idle, idles, sameBooks, _noTrade⟩ := handle_refused books refused
      rw [idles] at handles
      cases handles
      exact Routed.unchanged (same.symm.trans sameBooks) (Or.inr refused)
  | false =>
      obtain ⟨notFound, passes⟩ := handle_passed books refused
      rw [passes] at handles
      unfold toOrderBook at handles
      split at handles
      · rename_i absent
        cases handles
        exact Routed.unchanged same.symm (Or.inl absent)
      · rename_i book found
        obtain ⟨result, called, done⟩ := bind_eq_ok handles
        cases done
        exact Routed.called book result found refused called same.symm

end OrderBookManager
end Server
end SpotExchange
