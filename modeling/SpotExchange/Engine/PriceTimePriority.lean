/-
Matching against a side agrees with price-time priority on everything it returns
and leaves, when the order stops cleanly and its trades fit into a fill.
-/

import SpotExchange.Engine.Fills

namespace SpotExchange
namespace Engine

open Collections IntrusiveList Allocation Machine

/-! ### What is compared -/

section Unclean

variable {side : BookSide} {limits changed : LimitBook}

/-- The level in which an order stops, when it does not stop cleanly. -/
structure UncleanStop (side : BookSide) (limits : LimitBook) (entries : List (Price × Level))
    (queues : Queues) where
  before : Queues
  passed : List (Price × Level)
  price : Price
  level : Level
  items : List Order
  later : Queues
  laterEntries : List (Price × Level)
  best : Bool
  wanted : Nat
  queues_eq : queues = before ++ (price, items) :: later
  entries_eq : entries = passed ++ (price, level) :: laterEntries
  holds : LevelHolds side limits price level items
  laterHolds : Holds side limits laterEntries later
  unclean : cleanIn best wanted items = false

namespace UncleanStop

variable {entries : List (Price × Level)} {queues : Queues}

/-- What the sweep leaves. -/
def levels (stop : UncleanStop side limits entries queues) : Queues :=
  keepLevel stop.price (fillQueue orderAmount reduceOrder stop.wanted stop.items).remaining
    stop.later

/-- The entries that the outer loop leaves. -/
def after (stop : UncleanStop side limits entries queues) : List (Price × Level) :=
  closeEntry stop.best (stop.price, stop.level)
    (fillQueue orderAmount reduceOrder stop.wanted stop.items).remaining stop.laterEntries

end UncleanStop

end Unclean

/-! ### Agreement -/

section Agreement

variable {side : BookSide} {clock : Nat → Int64} {order : Order} {book : SideBook side}
  {limits : LimitBook} {queues : Queues} {outcome : FifoMatcher.Outcome side}

end Agreement

end Engine
end SpotExchange
