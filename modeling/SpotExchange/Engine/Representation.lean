/-
The agreement of the two price maps, the id map, the lists and the back pointers
along whole runs of calls.
-/

import SpotExchange.Engine.Calls

namespace SpotExchange
namespace Engine

open Collections IntrusiveList Machine

namespace OrderBook

/-- Every order that a call of the run lets in stops cleanly. -/
def CleanRun (ticker : Ticker) (requests : List Request) : Prop :=
  Guarded step (fun book request => book.cleanRequest request = true) (empty ticker) requests

instance CleanRun.decidable (ticker : Ticker) (requests : List Request) :
    Decidable (CleanRun ticker requests) :=
  inferInstanceAs (Decidable (Guarded step
    (fun book request => book.cleanRequest request = true) (empty ticker) requests))

theorem CleanRun.wellFormed {ticker : Ticker} {requests : List Request}
    (clean : CleanRun ticker requests) :
    ∃ book, run step (empty ticker) requests = .ok book ∧ book.WellFormed := by
  refine Guarded.returns ?_ (empty_wellFormed ticker) clean
  intro book request wellFormed allowed
  exact step_wellFormed wellFormed allowed

/-- Three bids at 100, of which the second is cancelled and the third moves to 99. -/
def calmRun : List Request :=
  [.add (fun _ => 0) (Order.create 1 1 100 10 { orderId := 1, userId := 1, ticker := 1 }),
    .add (fun _ => 0) (Order.create 1 2 100 5 { orderId := 2, userId := 2, ticker := 1 }),
    .add (fun _ => 0) (Order.create 1 1 100 7 { orderId := 3, userId := 1, ticker := 1 }),
    .cancel (fun _ => 0)
      { orderId := 2
        userId := 2
        ticker := 1
        connection := 2 },
    .modify (fun _ => 0)
      { orderId := 3
        userId := 1
        ticker := 1
        price := 99
        connection := 1
        quantity := 7
        isBuySide := 1 }]

end OrderBook

end Engine
end SpotExchange
