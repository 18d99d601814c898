/-
Sessions in which every message was typed at a terminal. A terminal has commands to add, to modify
and to cancel an order, and writes new orders only, all of them of its own user. So the server is
never asked for anything else, and what it answers and publishes is known of every message. A
client does not survive the fill of an order of which nothing has rested.
-/

import SpotExchange.Client.Acknowledgements
import SpotExchange.Client.LineSafety
import SpotExchange.Engine.Newcomers
import SpotExchange.Server.Answers
import SpotExchange.Server.Feed

namespace SpotExchange

open Bytes Machine Wire

/-! ### What a terminal writes -/

namespace Client

/-- One turn of the loop that writes orders: a line is read into a new request, which is written
if an order was made of it. -/
def TradingClient.writeOrder (surroundings : Surroundings) (client : TradingClient)
    (line : Text) : Except ClientFault (TradingClient × Option OrderEntryRequest) := do
  let entered ← getUserInput surroundings client line .notSet
  return (entered.client, if entered.result then some entered.request else none)

section Written

variable {input : Text} {fields : List Text} {userID : UserId} {request written : OrderEntryRequest}

/-- There is a value for each field, or none at all. -/
theorem orderValuesFrom_length {values all : List Text}
    (returned : orderValuesFrom input fields values = .ok all) :
    all = [] ∨ all.length = values.length + fields.length := by
  induction fields generalizing values with
  | nil =>
      cases returned
      exact Or.inr rfl
  | cons field fields ih =>
      unfold orderValuesFrom at returned
      obtain ⟨value, _found, rest⟩ := bind_eq_ok returned
      split at rest
      · cases rest
        exact Or.inl rfl
      · rcases ih rest with none | whole
        · exact Or.inl none
        · right
          rw [whole, List.length_append, List.length_singleton, List.length_cons]
          omega

theorem getOrderValues_length {values : List Text}
    (returned : getOrderValues input fields = .ok values) (some : values ≠ []) :
    values.length = fields.length := by
  rcases orderValuesFrom_length returned with none | whole
  · exact absurd none some
  · rw [whole, List.length_nil, Nat.zero_add]

/-- A vector has no element behind its end. -/
theorem element_behind {values : List Text} {index : Nat} (behind : values.length ≤ index) :
    element values index = .error (.element index) := by
  rw [element, List.getElem?_eq_none behind]

/-- An order with a side, a price and a quantity bears the user id of the terminal, and an order
id that was read out of the values. -/
theorem constructPriced_written {orderId : List Text → Except ClientFault UInt64}
    (returned : constructPriced userID request input fields orderId = .ok (true, written)) :
    ∃ neworder values, written = .newOrder neworder ∧ neworder.orderCommon.userId = userID ∧
      values.length = fields.length ∧ orderId values = .ok neworder.orderCommon.orderId := by
  unfold constructPriced at returned
  obtain ⟨values, given, rest⟩ := bind_eq_ok returned
  split at rest
  · cases rest
  · rename_i some
    obtain ⟨side, _side, rest⟩ := bind_eq_ok rest
    split at rest
    · cases rest
    · obtain ⟨price, _price, rest⟩ := bind_eq_ok rest
      obtain ⟨quantity, _quantity, rest⟩ := bind_eq_ok rest
      obtain ⟨ticker, _ticker, rest⟩ := bind_eq_ok rest
      obtain ⟨id, read, rest⟩ := bind_eq_ok rest
      cases rest
      exact ⟨_, values, rfl, rfl, getOrderValues_length given some, read⟩

/-- The order id of a modify command is looked for behind the values. -/
theorem constructModifyOrderRequest_not_written :
    constructModifyOrderRequest userID request input ≠ .ok (true, written) := by
  intro returned
  obtain ⟨neworder, values, _isNew, _user, length, read⟩ := constructPriced_written returned
  have behind : values.length ≤ 5 := by
    rw [length]
    decide
  rw [element_behind behind] at read
  cases read

/-- So is that of a cancel command. -/
theorem constructCancelOrderRequest_not_written :
    constructCancelOrderRequest userID request input ≠ .ok (true, written) := by
  intro returned
  unfold constructCancelOrderRequest at returned
  obtain ⟨values, given, rest⟩ := bind_eq_ok returned
  split at rest
  · cases rest
  · rename_i some
    obtain ⟨ticker, _ticker, rest⟩ := bind_eq_ok rest
    have behind : values.length ≤ 2 := by
      rw [getOrderValues_length given some]
      decide
    rw [element_behind behind] at rest
    cases rest

/-- Of the three commands only one comes to an order. -/
theorem constructOrder_written {ordertype : Text} {printed : List Printed}
    (returned : constructOrder userID request input ordertype = .ok ((true, written), printed)) :
    ∃ neworder, written = .newOrder neworder ∧ neworder.orderCommon.userId = userID ∧
      neworder.orderCommon.orderId = 0 := by
  unfold constructOrder at returned
  split at returned
  · obtain ⟨constructed, constructs, same⟩ := map_eq_ok returned
    cases same
    obtain ⟨neworder, values, isNew, user, _length, read⟩ := constructPriced_written constructs
    exact ⟨neworder, isNew, user, (Except.ok.inj read).symm⟩
  · split at returned
    · obtain ⟨constructed, constructs, same⟩ := map_eq_ok returned
      cases same
      exact absurd constructs constructModifyOrderRequest_not_written
    · split at returned
      · obtain ⟨constructed, constructs, same⟩ := map_eq_ok returned
        cases same
        exact absurd constructs constructCancelOrderRequest_not_written
      · cases returned

/-- Whatever is typed, what is written is a new order of the user of the terminal. -/
theorem TradingClient.writeOrder_written {surroundings : Surroundings}
    {client next : TradingClient} {line : Text}
    (returned : client.writeOrder surroundings line = .ok (next, some written)) :
    ∃ neworder, written = .newOrder neworder ∧ neworder.orderCommon.userId = client.userID ∧
      neworder.orderCommon.orderId = 0 := by
  obtain ⟨entered, enters, done⟩ := bind_eq_ok returned
  have made : entered.result = true ∧ entered.request = written := by
    cases result : entered.result with
    | false =>
        rw [result] at done
        cases done
    | true =>
        rw [result] at done
        cases done
        exact ⟨rfl, rfl⟩
  obtain ⟨isMade, same⟩ := made
  unfold getUserInput at enters
  obtain ⟨command, _commands, rest⟩ := bind_eq_ok enters
  split at rest
  · cases rest
    cases isMade
  · unfold enterOrder at rest
    obtain ⟨found, _found, rest⟩ := bind_eq_ok rest
    split at rest
    · cases rest
      cases isMade
    · obtain ⟨constructed, constructs, rest⟩ := bind_eq_ok rest
      cases rest
      have whole : constructed = ((true, written), constructed.2) :=
        Prod.ext (Prod.ext isMade same) rfl
      rw [whole] at constructs
      exact constructOrder_written constructs

end Written

end Client

/-! ### What comes of a typed message -/

namespace System

open Client Engine Server

/-- Each connection is that of one terminal, with the user id of that terminal. -/
inductive Typed (userOf : ConnectionRef → UserId) : Server.Event → Prop
  | verifyID (clock : Nat → Int64) (connection : ConnectionRef) {message : OrderEntryRequest}
      {surroundings : Surroundings} {client next : TradingClient} {line : Text}
      (user : client.userID = userOf connection)
      (written : client.writeOrder surroundings line = .ok (next, some message)) :
      Typed userOf (.verifyID clock connection message)
  | readOrderEntry (clock : Nat → Int64) (connection : ConnectionRef)
      {message : OrderEntryRequest} {surroundings : Surroundings} {client next : TradingClient}
      {line : Text} (user : client.userID = userOf connection)
      (written : client.writeOrder surroundings line = .ok (next, some message)) :
      Typed userOf (.readOrderEntry clock connection message)
  | terminateConnection (connection : ConnectionRef) (unset : UserId) :
      Typed userOf (.terminateConnection connection unset)

/-- What comes of an event: the order id that was given to its order, if it was let in, and all
that was traded, answered and published. -/
structure Dealt where
  connection : ConnectionRef
  orderId : Option OrderId
  executions : List (Ticker × Execution)
  responses : List OrderEntryResponse
  published : List MarketDataResponse

namespace Dealt

def sent (dealt : Dealt) : List (ConnectionRef × OrderEntryResponse) :=
  dealt.responses.map (fun response => (dealt.connection, response))

def nothing (connection : ConnectionRef) : Dealt :=
  { connection := connection
    orderId := none
    executions := []
    responses := []
    published := [] }

/-- The user id is taken. -/
def turnedAway (connection : ConnectionRef) (request : NewOrder) : Dealt :=
  { nothing connection with
    responses :=
      [.rejection
        { orderCommon := request.orderCommon
          rejectionResponse := .wrongUserId }] }

/-- An order that has got its id is acknowledged first. -/
def letIn (connection : ConnectionRef) (numbered : NewOrder) (timestamp : Int64)
    (executions : List Execution) (responses : List OrderEntryResponse)
    (published : List MarketDataResponse) : Dealt :=
  { connection := connection
    orderId := some numbered.orderCommon.orderId
    executions :=
      executions.map (fun execution => (numbered.orderCommon.ticker, execution))
    responses := .newOrderAck timestamp numbered :: responses
    published := published }

end Dealt

/-- A typed order that meets these books is turned away, or it is acknowledged and then rejected
once, if it names no book, or reported of; each fill is published as it is sent to the client, and
in the end what rests, if anything does. An order that leaves nothing to rest has traded. -/
inductive DealtWith (tickers : List Ticker) (books : OrderBooks) (connection : ConnectionRef)
    (request : NewOrder) : Dealt → Prop
  | turnedAway : DealtWith tickers books connection request (Dealt.turnedAway connection request)
  | unlisted (orderId : OrderId) (timestamp : Int64)
      (absent : request.orderCommon.ticker ∉ tickers) :
      DealtWith tickers books connection request
        (Dealt.letIn connection (Exchange.withOrderId request orderId) timestamp []
          [.rejection
            { orderCommon := { request.orderCommon with orderId := orderId }
              rejectionResponse := .orderbookNotFound }] [])
  | used (orderId : OrderId) (timestamp : Int64) {executions : List Execution}
      {fills : List OrderEntryFill} (listed : request.orderCommon.ticker ∈ tickers)
      (some : executions ≠ [])
      (reports : Reports { request.orderCommon with orderId := orderId }
        (restingFor books { request.orderCommon with orderId := orderId }) request.quantity
        executions fills 0) :
      DealtWith tickers books connection request
        (Dealt.letIn connection (Exchange.withOrderId request orderId) timestamp executions
          (fills.map OrderEntryResponse.fill) (fills.map MarketDataResponse.fill))
  | rests (orderId : OrderId) (timestamp : Int64) (published : UInt64)
      {executions : List Execution} {fills : List OrderEntryFill} {left : UInt32}
      (listed : request.orderCommon.ticker ∈ tickers)
      (reports : Reports { request.orderCommon with orderId := orderId }
        (restingFor books { request.orderCommon with orderId := orderId }) request.quantity
        executions fills left)
      (some : left ≠ 0 ∨ executions = []) :
      DealtWith tickers books connection request
        (Dealt.letIn connection (Exchange.withOrderId request orderId) timestamp executions
          (fills.map OrderEntryResponse.fill)
          (fills.map MarketDataResponse.fill ++
            [.add
              { timestamp := published
                orderId := orderId
                ticker := request.orderCommon.ticker
                price := request.price.toUInt64
                quantity := left
                isBuySide := request.isBuySide }]))

/-- What comes of each event of a typed session: its message is a new order of the terminal's own
user. Only the first message of a connection is turned away, and a connection that is terminated
is told nothing. -/
inductive EventDealt (tickers : List Ticker) (userOf : ConnectionRef → UserId)
    (books : OrderBooks) : Server.Event → Dealt → Prop
  | verifyID (clock : Nat → Int64) {connection : ConnectionRef} {request : NewOrder}
      {dealt : Dealt} (own : request.orderCommon.userId = userOf connection)
      (dealtWith : DealtWith tickers books connection request dealt) :
      EventDealt tickers userOf books (.verifyID clock connection (.newOrder request)) dealt
  | readOrderEntry (clock : Nat → Int64) {connection : ConnectionRef} {request : NewOrder}
      {dealt : Dealt} (own : request.orderCommon.userId = userOf connection)
      (dealtWith : DealtWith tickers books connection request dealt)
      (inside : dealt.orderId ≠ none) :
      EventDealt tickers userOf books (.readOrderEntry clock connection (.newOrder request)) dealt
  | terminateConnection (connection : ConnectionRef) (unset : UserId) :
      EventDealt tickers userOf books (.terminateConnection connection unset)
        (Dealt.nothing connection)

/-- What comes of the events that lead to a session, of each with the books as it meets them. -/
inductive AllDealt (tickers : List Ticker) (userOf : ConnectionRef → UserId) :
    List Server.Event → List Dealt → Session → Prop
  | start : AllDealt tickers userOf [] [] (Session.start tickers)
  | event {events : List Server.Event} {dealt : List Dealt} {session next : Session}
      {event : Server.Event} {more : Dealt} (before : AllDealt tickers userOf events dealt session)
      (taken : session.step event = .ok next)
      (eventDealt : EventDealt tickers userOf session.exchange.orderbooks event more) :
      AllDealt tickers userOf (events ++ [event]) (dealt ++ [more]) next

/-- The ids of so many orders. -/
def issuedIds (count : Nat) : List OrderId :=
  (List.range count).map (fun earlier => UInt64.ofNat (earlier + 2))

/-- All that a session has done comes of its events, and the orders are numbered as they are let
in. -/
structure TypedSession (tickers : List Ticker) (userOf : ConnectionRef → UserId)
    (session : Session) (events : List Server.Event) (dealt : List Dealt) : Prop where
  each : AllDealt tickers userOf events dealt session
  executed : session.executions = dealt.flatMap Dealt.executions
  sent : toClients session.emitted = dealt.flatMap Dealt.sent
  published : session.feed = dealt.flatMap Dealt.published
  numbered : dealt.filterMap Dealt.orderId =
    issuedIds (dealt.filterMap Dealt.orderId).length

/-! ### One event -/

section Events

variable {tickers : List Ticker} {exchange : Exchange} {clock : Nat → Int64}
  {connection : ConnectionRef} {request : NewOrder} {reaction : Reaction} {dealt : Dealt}

/-- A reaction is what an event comes to, and the orders that are let in are counted. -/
structure Comes (exchange : Exchange) (reaction : Reaction) (dealt : Dealt) : Prop where
  executed : reaction.executions = dealt.executions
  sent : toClients reaction.emitted = dealt.sent
  published : marketDataOf reaction.emitted = dealt.published
  counted : dealt.orderId = none ∧
      reaction.exchange.orderidGenerator = exchange.orderidGenerator ∨
    dealt.orderId = some (exchange.orderidGenerator + 1) ∧
      reaction.exchange.orderidGenerator = exchange.orderidGenerator + 1

theorem newOrderOf_sided (connection : ConnectionRef) (request : NewOrder) :
    (Exchange.newOrderOf connection request).isBuySide = 1 ∨
      (Exchange.newOrderOf connection request).isBuySide = 0 := by
  rcases request with ⟨common, quantity, buys, price⟩
  cases buys
  · exact Or.inr rfl
  · exact Or.inl rfl

theorem sent_letIn (numbered : NewOrder) (timestamp : Int64) (executions : List Execution)
    (fills : List OrderEntryFill) (published : List MarketDataResponse) :
    (Dealt.letIn connection numbered timestamp executions (fills.map OrderEntryResponse.fill)
        published).sent =
      (connection, .newOrderAck timestamp numbered) ::
        fills.map (fun fill => (connection, OrderEntryResponse.fill fill)) := by
  rw [Dealt.sent, Dealt.letIn, List.map_cons, List.map_map]
  rfl

/-- The orders of every book are stored under their ids, and every level has a head. -/
def Sound (books : OrderBooks) : Prop :=
  ∀ ticker book, books.lookup ticker = some book → book.limitOrders.OwnIds ∧ book.Headed

/-- An order of the own user gets the next id and goes to its book, if there is one. -/
theorem processEntry_dealt (sound : Sound exchange.orderbooks)
    (listed : ∀ ticker, ticker ∈ exchange.orderbooks ↔ ticker ∈ tickers)
    (fresh : ∀ book, exchange.orderbooks.lookup request.orderCommon.ticker = some book →
      book.limitOrders.lookup (exchange.orderidGenerator + 1) = none)
    (returned : exchange.processEntry clock connection request.orderCommon.userId
      (.newOrder request) = .ok reaction) :
    reaction.exchange.userIds = exchange.userIds ∧
      ∃ dealt, DealtWith tickers exchange.orderbooks connection request dealt ∧
        dealt.orderId ≠ none ∧ Comes exchange reaction dealt := by
  unfold Exchange.processEntry Exchange.handleOrderType at returned
  simp only [Exchange.withOrderId, ne_eq, not_true_eq_false, if_false] at returned
  obtain ⟨handled, handles, done⟩ := bind_eq_ok returned
  cases done
  unfold OrderBookManager.addOrder OrderBookManager.toOrderBook at handles
  refine ⟨rfl, ?_⟩
  split at handles
  · rename_i none
    cases handles
    refine ⟨_, DealtWith.unlisted (exchange.orderidGenerator + 1) (clock 0) ?_,
      Option.some_ne_none _, ⟨rfl, rfl, rfl, Or.inr ⟨rfl, rfl⟩⟩⟩
    rw [← listed]
    exact AList.lookup_eq_none.mp none
  · rename_i book found
    obtain ⟨result, calls, done⟩ := bind_eq_ok handles
    cases done
    obtain ⟨⟨rested, called⟩, adds, same⟩ := map_eq_ok calls
    cases same
    have present : request.orderCommon.ticker ∈ tickers := by
      rw [← listed]
      exact AList.lookup_isSome.mp (Option.isSome_of_mem found)
    obtain ⟨own, headed⟩ := sound _ book found
    have resting : restingFor exchange.orderbooks
        { request.orderCommon with orderId := exchange.orderidGenerator + 1 } =
          book.limitOrders.quantityOf := by
      have here : exchange.orderbooks.lookup request.orderCommon.ticker = some book := found
      change (exchange.orderbooks.lookup request.orderCommon.ticker).elim _ _ = _
      rw [here]
      exact OrderBook.restingBeside_of_absent (fresh book found)
    cases OrderBook.addOrder_newcomer own headed (fresh book found) (newOrderOf_sided _ _) adds with
    | used some reports told published =>
        rw [← resting] at reports
        refine ⟨_, DealtWith.used (exchange.orderidGenerator + 1) (clock 0) present some reports,
          Option.some_ne_none _, ⟨rfl, ?_, published, Or.inr ⟨rfl, rfl⟩⟩⟩
        rw [sent_letIn]
        exact congrArg (List.cons _) told
    | rests timestamp reports some told published =>
        rw [← resting] at reports
        refine ⟨_, DealtWith.rests (exchange.orderidGenerator + 1) (clock 0) timestamp present
          reports some, Option.some_ne_none _, ⟨rfl, ?_, ?_, Or.inr ⟨rfl, rfl⟩⟩⟩
        · rw [sent_letIn]
          exact congrArg (List.cons _) told
        · refine published.trans ?_
          change _ ++ [MarketDataResponse.add
            { timestamp := timestamp
              orderId := exchange.orderidGenerator + 1
              ticker := request.orderCommon.ticker
              price := request.price.toUInt64
              quantity := _
              isBuySide := request.isBuySide.toUInt8 != 0 }] = _
          rw [FifoMatcher.toUInt8_bne_zero]
          rfl

/-- The user of a connection is the one of its terminal. -/
def OwnUsers (userOf : ConnectionRef → UserId) (exchange : Exchange) : Prop :=
  ∀ connection userid, exchange.userIds.lookup connection = some userid →
    userid = userOf connection

theorem react_dealt {userOf : ConnectionRef → UserId} {event : Server.Event}
    (sound : Sound exchange.orderbooks)
    (listed : ∀ ticker, ticker ∈ exchange.orderbooks ↔ ticker ∈ tickers)
    (fresh : Exchange.isNewOrder event = true → ∀ ticker book,
      exchange.orderbooks.lookup ticker = some book →
        book.limitOrders.lookup (exchange.orderidGenerator + 1) = none)
    (users : OwnUsers userOf exchange) (typed : Typed userOf event)
    (returned : exchange.react event = .ok reaction) :
    OwnUsers userOf reaction.exchange ∧
      ∃ dealt, EventDealt tickers userOf exchange.orderbooks event dealt ∧
        Comes exchange reaction dealt := by
  cases typed with
  | verifyID clock connection user written =>
      obtain ⟨request, isNew, own, _id⟩ := TradingClient.writeOrder_written written
      rw [isNew] at returned fresh ⊢
      simp only [Exchange.react, Exchange.verifyID, Exchange.orderCommon] at returned
      split at returned
      · cases returned
        exact ⟨users, _, EventDealt.verifyID clock (own.trans user) DealtWith.turnedAway,
          ⟨rfl, rfl, rfl, Or.inl ⟨rfl, rfl⟩⟩⟩
      · obtain ⟨sameUsers, dealt, dealtWith, _some, comes⟩ :=
          @processEntry_dealt tickers
            { exchange with
              clientStreams :=
                exchange.clientStreams.insert request.orderCommon.userId connection
              userIds := exchange.userIds.insert connection request.orderCommon.userId }
            clock connection request reaction sound listed (fresh rfl _) returned
        refine ⟨?_, dealt, EventDealt.verifyID clock (own.trans user) dealtWith,
          ⟨comes.executed, comes.sent, comes.published, comes.counted⟩⟩
        intro other userid found
        rw [sameUsers] at found
        by_cases same : other = connection
        · rw [same, AList.lookup_insert] at found
          rw [same, ← user, ← own, Option.some.inj found]
        · rw [AList.lookup_insert_ne same] at found
          exact users other userid found
  | readOrderEntry clock connection user written =>
      obtain ⟨request, isNew, own, _id⟩ := TradingClient.writeOrder_written written
      rw [isNew] at returned fresh ⊢
      simp only [Exchange.react, Exchange.readOrderEntry] at returned
      split at returned
      · cases returned
      · rename_i userid found
        rw [users connection userid found, ← user, ← own] at returned
        obtain ⟨sameUsers, dealt, dealtWith, some, comes⟩ :=
          processEntry_dealt sound listed (fresh rfl _) returned
        refine ⟨?_, dealt, EventDealt.readOrderEntry clock (own.trans user) dealtWith some, comes⟩
        intro other otherUser otherFound
        rw [sameUsers] at otherFound
        exact users other otherUser otherFound
  | terminateConnection connection unset =>
      cases returned
      exact ⟨users, _, EventDealt.terminateConnection connection unset,
        ⟨rfl, rfl, rfl, Or.inl ⟨rfl, rfl⟩⟩⟩

end Events

/-! ### Whole sessions -/

section Sessions

variable {tickers : List Ticker} {userOf : ConnectionRef → UserId} {session next : Session}
  {events : List Server.Event} {dealt : List Dealt} {event : Server.Event}

/-- The state of a typed session: as many ids have been issued as orders were let in. -/
structure Going (tickers : List Ticker) (userOf : ConnectionRef → UserId) (session : Session)
    (events : List Server.Event) (dealt : List Dealt) : Prop where
  typed : TypedSession tickers userOf session events dealt
  sound : Sound session.exchange.orderbooks
  separate : Separate tickers (dealt.filterMap Dealt.orderId).length session
  listed : ∀ ticker, ticker ∈ session.exchange.orderbooks ↔ ticker ∈ tickers
  users : OwnUsers userOf session.exchange

theorem start_going (tickers : List Ticker) (userOf : ConnectionRef → UserId) :
    Going tickers userOf (Session.start tickers) [] [] where
  typed :=
    { each := AllDealt.start
      executed := rfl
      sent := rfl
      published := rfl
      numbered := rfl }
  sound := by
    intro ticker book found
    refine ⟨OrderBookManager.created_allOwn tickers ticker book found, ?_⟩
    rw [OrderBookManager.created_allEmpty tickers ticker book found]
    exact OrderBook.empty_headed 0
  separate := start_separate tickers
  listed := OrderBookManager.mem_created tickers
  users := by
    intro connection userid found
    cases found

/-- No book is made or lost. -/
theorem listed_step (listed : ∀ ticker, ticker ∈ session.exchange.orderbooks ↔ ticker ∈ tickers)
    (returned : session.step event = .ok next) (ticker : Ticker) :
    ticker ∈ next.exchange.orderbooks ↔ ticker ∈ tickers := by
  cases Session.step_feeds returned with
  | apart sameBooks _ _ _ =>
      rw [sameBooks]
      exact listed ticker
  | called request book result _ found _ _ written _ _ _ =>
      rw [written, AList.mem_insert, ← listed]
      constructor
      · rintro (same | other)
        · rw [same]
          exact AList.lookup_isSome.mp (Option.isSome_of_mem found)
        · exact other
      · exact Or.inr

theorem ofNat_near {first second : Nat} (below : first ≤ second)
    (near : second < first + 18446744073709551616)
    (same : UInt64.ofNat first = UInt64.ofNat second) : first = second := by
  have equal := congrArg UInt64.toNat same
  rw [UInt64.toNat_ofNat', UInt64.toNat_ofNat'] at equal
  omega

theorem issuedIds_succ (count : Nat) :
    issuedIds (count + 1) = issuedIds count ++ [UInt64.ofNat (count + 2)] := by
  rw [issuedIds, List.range_succ, List.map_append]
  rfl

/-- Only new orders get an id. -/
theorem EventDealt.isNewOrder {books : OrderBooks} {more : Dealt}
    (eventDealt : EventDealt tickers userOf books event more) (inside : more.orderId ≠ none) :
    Exchange.isNewOrder event = true := by
  cases eventDealt with
  | verifyID _ _ _ => rfl
  | readOrderEntry _ _ _ _ => rfl
  | terminateConnection _ _ => exact absurd rfl inside

/-- The orders are counted along. -/
theorem recounted {count after : Nat} {books : OrderBooks} {more : Dealt} {reaction : Reaction}
    (before : Separate tickers count session) (separate : Separate tickers after next)
    (atMost : after ≤ count + (Exchange.isNewOrder event).toNat)
    (few : count + (Exchange.isNewOrder event).toNat < 18446744073709551616)
    (eventDealt : EventDealt tickers userOf books event more)
    (comes : Comes session.exchange reaction more)
    (same : next.exchange = reaction.exchange) :
    (more.orderId = none ∧ after = count) ∨
      (more.orderId = some (UInt64.ofNat (count + 2)) ∧ after = count + 1) := by
  have counter := separate.counter
  rw [same] at counter
  have one : (Exchange.isNewOrder event).toNat ≤ 1 := Bool.toNat_le _
  rcases comes.counted with ⟨none, kept⟩ | ⟨some, moved⟩
  · left
    rw [kept, before.counter] at counter
    rcases Nat.lt_or_ge count after with more | less
    · have equal := ofNat_near (by omega) (by omega) counter
      omega
    · have equal := ofNat_near (by omega) (by omega) counter.symm
      exact ⟨none, by omega⟩
  · right
    rw [moved, before.next_id] at counter
    have isNew : Exchange.isNewOrder event = true := by
      apply eventDealt.isNewOrder
      rw [some]
      exact Option.some_ne_none _
    rw [isNew, Bool.toNat_true] at atMost few
    have equal := ofNat_near (by omega) (by omega) counter.symm
    rw [before.next_id] at some
    exact ⟨some, by omega⟩

/-- Each event comes to what it is dealt with. -/
theorem Going.step (going : Going tickers userOf session events dealt)
    (typed : Typed userOf event)
    (few : (dealt.filterMap Dealt.orderId).length + (Exchange.isNewOrder event).toNat <
      18446744073709551616)
    (returned : session.step event = .ok next) :
    ∃ more, (more.orderId ≠ none → Exchange.isNewOrder event = true) ∧
      Going tickers userOf next (events ++ [event]) (dealt ++ [more]) := by
  obtain ⟨after, atMost, separate⟩ := going.separate.step few returned
  have listed := listed_step going.listed returned
  have fresh : Exchange.isNewOrder event = true → ∀ ticker book,
      session.exchange.orderbooks.lookup ticker = some book →
        book.limitOrders.lookup (session.exchange.orderidGenerator + 1) = none := by
    intro isNew ticker book found
    rw [isNew, Bool.toNat_true] at few
    cases stored : book.limitOrders.lookup (session.exchange.orderidGenerator + 1) with
    | none => rfl
    | some limit =>
        exact absurd ⟨book, found, limit, stored, rfl⟩
          (going.separate.fresh few ticker limit.order)
  have sound : Sound next.exchange.orderbooks := Session.step_eachBook
    (fun fits calls => ⟨OrderBook.call_ownIds fits.1 calls, OrderBook.call_headed fits.2 calls⟩)
    going.sound returned
  obtain ⟨reaction, reacts, done⟩ := bind_eq_ok returned
  obtain ⟨users, more, eventDealt, comes⟩ :=
    react_dealt going.sound going.listed fresh going.users typed reacts
  have allDealt := AllDealt.event going.typed.each returned eventDealt
  have counted := recounted going.separate separate atMost few eventDealt comes
    (by cases done; rfl)
  cases done
  have ids : (dealt ++ [more]).filterMap Dealt.orderId =
      issuedIds ((dealt ++ [more]).filterMap Dealt.orderId).length ∧
        after = ((dealt ++ [more]).filterMap Dealt.orderId).length := by
    rw [List.filterMap_append]
    rcases counted with ⟨none, same⟩ | ⟨some, same⟩
    · rw [List.filterMap_cons_none none, List.filterMap_nil, List.append_nil]
      exact ⟨going.typed.numbered, same⟩
    · rw [List.filterMap_cons_some some, List.filterMap_nil, List.length_append,
        List.length_singleton, issuedIds_succ, ← going.typed.numbered]
      exact ⟨rfl, same⟩
  refine ⟨more, eventDealt.isNewOrder, ?_⟩
  rw [ids.2] at separate
  exact
    { typed :=
        { each := allDealt
          executed := by
            rw [List.flatMap_append, List.flatMap_singleton, ← going.typed.executed,
              ← comes.executed]
          sent := by
            rw [toClients_append, List.flatMap_append, List.flatMap_singleton, going.typed.sent,
              comes.sent]
          published := by
            rw [List.flatMap_append, List.flatMap_singleton, ← going.typed.published,
              ← comes.published]
            exact OrderBook.marketDataOf_append _ _
          numbered := ids.1 }
      sound := sound
      separate := separate
      listed := listed
      users := users }

/-- Induction over the events. -/
theorem Going.run {rest : List Server.Event} {finish : Session}
    (going : Going tickers userOf session events dealt)
    (typed : ∀ event ∈ rest, Typed userOf event)
    (few : (dealt.filterMap Dealt.orderId).length + Exchange.newOrders rest <
      18446744073709551616)
    (reached : Machine.run Session.step session rest = .ok finish) :
    ∃ all, Going tickers userOf finish (events ++ rest) all := by
  induction rest generalizing session events dealt with
  | nil =>
      cases reached
      rw [List.append_nil]
      exact ⟨dealt, going⟩
  | cons event rest ih =>
      have counted : Exchange.newOrders (event :: rest) =
          Exchange.newOrders rest + (Exchange.isNewOrder event).toNat := by
        unfold Exchange.newOrders
        rw [List.countP_cons]
        cases Exchange.isNewOrder event <;> rfl
      simp only [Machine.run] at reached
      split at reached
      · cases reached
      · rename_i next taken
        obtain ⟨more, numberedNew, further⟩ :=
          going.step (typed event List.mem_cons_self) (by omega) taken
        have fewer : ((dealt ++ [more]).filterMap Dealt.orderId).length ≤
            (dealt.filterMap Dealt.orderId).length + (Exchange.isNewOrder event).toNat := by
          rw [List.filterMap_append, List.length_append]
          cases inside : more.orderId with
          | none =>
              rw [List.filterMap_cons_none inside]
              exact Nat.le_add_right _ _
          | some orderId =>
              have isNew := numberedNew (by rw [inside]; exact Option.some_ne_none _)
              rw [List.filterMap_cons_some inside, isNew]
              exact Nat.le_refl _
        obtain ⟨all, whole⟩ := ih further
          (fun other member => typed other (List.mem_cons_of_mem event member)) (by omega) reached
        refine ⟨all, ?_⟩
        rwa [List.append_assoc, List.singleton_append] at whole

theorem typed_run (typed : ∀ event ∈ events, Typed userOf event)
    (few : Exchange.newOrders events < 18446744073709551616)
    (reached : run Session.step (Session.start tickers) events = .ok session) :
    ∃ dealt, TypedSession tickers userOf session events dealt := by
  have fewOrders : (([] : List Dealt).filterMap Dealt.orderId).length + Exchange.newOrders events <
      18446744073709551616 := by
    rw [List.filterMap_nil, List.length_nil, Nat.zero_add]
    exact few
  obtain ⟨dealt, going⟩ := (start_going tickers userOf).run typed fewOrders reached
  exact ⟨dealt, going.typed⟩

/-- An order for BB, as it is typed. -/
def lineOf (side quantity : String) : Text :=
  literal "-order add -side " ++ literal side ++ literal " -price 100 -quantity " ++
    literal quantity ++ literal " -ticker BB"

def orderFor (userID : UserId) (isBuySide : Bool) (quantity : UInt32) : OrderEntryRequest :=
  .newOrder
    { orderCommon :=
        { orderId := 0
          userId := userID
          ticker := Util.convertStrToEightBytes (literal "BB") }
      quantity := quantity
      isBuySide := isBuySide
      price := 100 }

/-- One user sells, and another buys a part of it at once, and then asks for more. -/
def typedTrade : List Server.Event :=
  [.verifyID (fun _ => 0) 1 (orderFor 1 false 5), .verifyID (fun _ => 0) 2 (orderFor 2 true 3),
    .readOrderEntry (fun _ => 0) 2 (orderFor 2 true 4)]

theorem written_of_view {userID : UserId} {line : Text} {message : OrderEntryRequest}
    (seen : ((TradingClient.start userID).writeOrder eightyColumns line).toOption.map Prod.snd =
      some (some message)) :
    ∃ next, (TradingClient.start userID).writeOrder eightyColumns line =
      .ok (next, some message) := by
  obtain ⟨⟨next, written⟩, returned, same⟩ := returns_of_view seen
  cases same
  exact ⟨next, returned⟩

theorem typedTrade_typed :
    ∀ event ∈ typedTrade, Typed (fun connection => UInt64.ofNat connection) event := by
  obtain ⟨_, sells⟩ := @written_of_view 1 (lineOf "S" "5") (orderFor 1 false 5) (by decide +kernel)
  obtain ⟨_, buys⟩ := @written_of_view 2 (lineOf "B" "3") (orderFor 2 true 3) (by decide +kernel)
  obtain ⟨_, asks⟩ := @written_of_view 2 (lineOf "B" "4") (orderFor 2 true 4) (by decide +kernel)
  intro event member
  simp only [typedTrade, List.mem_cons, List.not_mem_nil, or_false] at member
  rcases member with rfl | rfl | rfl
  · exact Typed.verifyID _ 1 rfl sells
  · exact Typed.verifyID _ 2 rfl buys
  · exact Typed.readOrderEntry _ 2 rfl asks

end Sessions

/-! ### What becomes of the clients -/

section Clients

variable {tickers : List Ticker} {userOf : ConnectionRef → UserId} {session : Session}
  {events : List Server.Event} {dealt : List Dealt} {connection : ConnectionRef}
  {heard : List ClientEvent} {more : Dealt} {orderId : OrderId}

/-- What a client hears in a session, in any order: market data that were published, of which some
may be lost or come again, and responses that were sent to it. -/
structure Hears (session : Session) (connection : ConnectionRef) (heard : List ClientEvent) :
    Prop where
  datagrams : ∀ message, ClientEvent.datagram message ∈ heard →
    ∃ published ∈ session.feed, TradingClient.decoded published = some message
  responses : ∀ response, ClientEvent.response response ∈ heard →
    (connection, response) ∈ toClients session.emitted

/-- Something of an order is announced. -/
def Dealt.announces (more : Dealt) (orderId : OrderId) : Prop :=
  ∃ data, MarketDataResponse.add data ∈ more.published ∧ data.orderId = orderId

theorem not_add_of_fills {fills : List OrderEntryFill} {data : OrderAdded} :
    MarketDataResponse.add data ∉ fills.map MarketDataResponse.fill := by
  intro member
  obtain ⟨fill, _listed, same⟩ := List.mem_map.mp member
  cases same

namespace DealtWith

variable {books : OrderBooks} {request : NewOrder}

theorem connection_eq (dealtWith : DealtWith tickers books connection request more) :
    more.connection = connection := by
  cases dealtWith <;> rfl

/-- What is announced is the order that was let in. -/
theorem announces_own (dealtWith : DealtWith tickers books connection request more)
    (announced : more.announces orderId) : more.orderId = some orderId := by
  obtain ⟨data, published, same⟩ := announced
  cases dealtWith with
  | turnedAway => cases published
  | unlisted orderId timestamp absent => cases published
  | used orderId timestamp listed some reports => exact absurd published not_add_of_fills
  | rests orderId timestamp told listed reports some =>
      rcases List.mem_append.mp published with inFills | last
      · exact absurd inFills not_add_of_fills
      · cases List.mem_singleton.mp last
        rw [← same]
        rfl

/-- A response is an acknowledgement, a rejection or a fill of the order. -/
theorem response_own (dealtWith : DealtWith tickers books connection request more)
    {response : OrderEntryResponse} (sent : response ∈ more.responses) :
    (∀ userID, TradingClient.orderUsed userID response = none) ∨
      ∃ fill, response = .fill fill ∧ more.orderId = some fill.statusCommon.orderId ∧
        fill.statusCommon.userId = request.orderCommon.userId := by
  have reported : ∀ {orderId : OrderId} {timestamp : Int64} {remaining : OrderId → UInt32}
      {executions : List Execution} {fills : List OrderEntryFill} {left : UInt32}
      {published : List MarketDataResponse},
      Reports { request.orderCommon with orderId := orderId } remaining request.quantity executions
          fills left →
        response ∈ (Dealt.letIn connection (Exchange.withOrderId request orderId) timestamp
          executions (fills.map OrderEntryResponse.fill) published).responses →
        (∀ userID, TradingClient.orderUsed userID response = none) ∨
          ∃ fill, response = .fill fill ∧ some orderId = some fill.statusCommon.orderId ∧
            fill.statusCommon.userId = request.orderCommon.userId := by
    intro orderId timestamp remaining executions fills left published reports sent
    rcases List.mem_cons.mp sent with acknowledged | filled
    · rw [acknowledged]
      exact Or.inl (fun _userID => rfl)
    · obtain ⟨fill, listed, same⟩ := List.mem_map.mp filled
      refine Or.inr ⟨fill, same.symm, ?_, ?_⟩
      · rw [reports.common_eq fill listed]
      · rw [reports.common_eq fill listed]
  cases dealtWith with
  | turnedAway =>
      rw [List.mem_singleton.mp sent]
      exact Or.inl (fun _userID => rfl)
  | unlisted orderId timestamp absent =>
      left
      intro userID
      rcases List.mem_cons.mp sent with acknowledged | rejected
      · rw [acknowledged]
        rfl
      · rw [List.mem_singleton.mp rejected]
        rfl
  | used orderId timestamp listed some reports => exact reported reports sent
  | rests orderId timestamp told listed reports some => exact reported reports sent

end DealtWith

/-- What comes of an event is nothing, or what comes of an order of the own user. -/
def OfOwnOrder (tickers : List Ticker) (userOf : ConnectionRef → UserId) (more : Dealt) : Prop :=
  more = Dealt.nothing more.connection ∨
    ∃ books request, request.orderCommon.userId = userOf more.connection ∧
      DealtWith tickers books more.connection request more

theorem EventDealt.ofOwnOrder {books : OrderBooks} {event : Server.Event}
    (eventDealt : EventDealt tickers userOf books event more) : OfOwnOrder tickers userOf more := by
  cases eventDealt with
  | verifyID clock own dealtWith =>
      right
      rw [dealtWith.connection_eq]
      exact ⟨books, _, own, dealtWith⟩
  | readOrderEntry clock own dealtWith inside =>
      right
      rw [dealtWith.connection_eq]
      exact ⟨books, _, own, dealtWith⟩
  | terminateConnection connection unset => exact Or.inl rfl

/-- Induction over the events. -/
theorem AllDealt.ofOwnOrder (all : AllDealt tickers userOf events dealt session) :
    ∀ more ∈ dealt, OfOwnOrder tickers userOf more := by
  induction all with
  | start =>
      intro more member
      cases member
  | event before taken eventDealt ih =>
      intro more member
      rcases List.mem_append.mp member with earlier | last
      · exact ih more earlier
      · rw [List.mem_singleton.mp last]
        exact eventDealt.ofOwnOrder

/-- No more orders are let in than are new. -/
theorem AllDealt.letIn_le_newOrders (all : AllDealt tickers userOf events dealt session) :
    (dealt.filterMap Dealt.orderId).length ≤ Exchange.newOrders events := by
  induction all with
  | start => exact Nat.le_refl 0
  | @event events dealt session next event more before taken eventDealt ih =>
      rw [Exchange.newOrders, List.countP_append, List.filterMap_append, List.length_append]
      refine Nat.add_le_add ih ?_
      cases inside : more.orderId with
      | none =>
          rw [List.filterMap_cons_none inside]
          exact Nat.zero_le _
      | some orderId =>
          have isNew := eventDealt.isNewOrder (by rw [inside]; exact Option.some_ne_none _)
          rw [List.filterMap_cons_some inside, List.countP_cons, isNew]
          exact Nat.le_refl 1

/-- No two orders have the same id. -/
theorem same_of_orderId {first second : Dealt}
    (distinct : (dealt.filterMap Dealt.orderId).Nodup) (listed : first ∈ dealt)
    (listedToo : second ∈ dealt) (own : first.orderId = some orderId)
    (ownToo : second.orderId = some orderId) : first = second := by
  induction dealt with
  | nil => cases listed
  | cons head rest ih =>
      have apart : head.orderId = some orderId → ∀ other ∈ rest, other.orderId ≠ some orderId := by
        intro here other member there
        rw [List.filterMap_cons_some here, List.nodup_cons] at distinct
        exact distinct.1 (List.mem_filterMap.mpr ⟨other, member, there⟩)
      have restDistinct : (rest.filterMap Dealt.orderId).Nodup := by
        cases inside : head.orderId with
        | none =>
            rw [List.filterMap_cons_none inside] at distinct
            exact distinct
        | some id =>
            rw [List.filterMap_cons_some inside, List.nodup_cons] at distinct
            exact distinct.2
      rcases List.mem_cons.mp listed with here | later
      · rcases List.mem_cons.mp listedToo with hereToo | laterToo
        · rw [here, hereToo]
        · rw [here] at own
          exact absurd ownToo (apart own second laterToo)
      · rcases List.mem_cons.mp listedToo with hereToo | laterToo
        · rw [hereToo] at ownToo
          exact absurd own (apart ownToo first later)
        · exact ih restDistinct later laterToo

theorem issuedIds_nodup {count : Nat} (few : count ≤ 18446744073709551616) :
    (issuedIds count).Nodup := by
  apply List.Nodup.map_on _ List.nodup_range
  intro first inFirst second inSecond same
  have small := List.mem_range.mp inFirst
  have smallToo := List.mem_range.mp inSecond
  rcases Nat.le_total first second with below | above
  · have equal := ofNat_near (by omega) (by omega) same
    omega
  · have equal := ofNat_near (by omega) (by omega) same.symm
    omega

/-- What is left of an order in the market data has been announced there. -/
theorem announced_of_left {messages : List FeedMessage}
    (live : messages.foldl (TradingClient.follow orderId) none ≠ none) :
    ∃ data, FeedMessage.add data ∈ messages ∧ data.orderId = orderId := by
  induction messages with
  | nil => exact absurd rfl live
  | cons message rest ih =>
      rw [List.foldl_cons] at live
      have goesOn : TradingClient.follow orderId none message = none →
          ∃ data, FeedMessage.add data ∈ message :: rest ∧ data.orderId = orderId := by
        intro none
        rw [none] at live
        obtain ⟨data, member, same⟩ := ih live
        exact ⟨data, List.mem_cons_of_mem message member, same⟩
      cases message with
      | add newOrder =>
          by_cases same : newOrder.orderId = orderId
          · exact ⟨newOrder, List.mem_cons_self, same⟩
          · apply goesOn
            rw [TradingClient.follow, if_neg same]
      | modify modifyOrder =>
          apply goesOn
          rw [TradingClient.follow, Option.map_none, ite_self]
      | cancel cancelOrder =>
          apply goesOn
          rw [TradingClient.follow, ite_self]
      | fill filled =>
          apply goesOn
          rw [TradingClient.follow, Option.bind_none, ite_self]

theorem mem_datagramsOf {message : FeedMessage} {events : List ClientEvent}
    (member : message ∈ TradingClient.datagramsOf events) :
    ClientEvent.datagram message ∈ events := by
  induction events with
  | nil => cases member
  | cons event rest ih =>
      cases event with
      | datagram first =>
          rcases List.mem_cons.mp member with here | later
          · rw [here]
            exact List.mem_cons_self
          · exact List.mem_cons_of_mem _ (ih later)
      | response response => exact List.mem_cons_of_mem _ (ih member)

/-- A response that uses an order is a fill of an order that was let in on its connection. -/
theorem TypedSession.response_cases
    (typedSession : TypedSession tickers userOf session events dealt)
    {response : OrderEntryResponse} (sent : (connection, response) ∈ toClients session.emitted) :
    (∀ userID, TradingClient.orderUsed userID response = none) ∨
      ∃ fill more, response = .fill fill ∧ more ∈ dealt ∧ more.connection = connection ∧
        more.orderId = some fill.statusCommon.orderId ∧
          fill.statusCommon.userId = userOf connection := by
  rw [typedSession.sent] at sent
  obtain ⟨more, listed, member⟩ := List.mem_flatMap.mp sent
  obtain ⟨other, answered, same⟩ := List.mem_map.mp member
  cases same
  rcases typedSession.each.ofOwnOrder more listed with none | ⟨books, request, own, dealtWith⟩
  · rw [none] at answered
    cases answered
  · rcases dealtWith.response_own answered with unused | ⟨fill, isFill, sameId, sameUser⟩
    · exact Or.inl unused
    · exact Or.inr ⟨fill, more, isFill, listed, rfl, sameId, sameUser.trans own⟩

/-- Each order is announced by what comes of it. -/
theorem TypedSession.announced (typedSession : TypedSession tickers userOf session events dealt)
    (few : (dealt.filterMap Dealt.orderId).length ≤ 18446744073709551616) (listed : more ∈ dealt)
    (own : more.orderId = some orderId) {data : OrderAdded}
    (published : MarketDataResponse.add data ∈ session.feed) (same : data.orderId = orderId) :
    more.announces orderId := by
  rw [typedSession.published] at published
  obtain ⟨other, listedToo, inside⟩ := List.mem_flatMap.mp published
  have distinct : (dealt.filterMap Dealt.orderId).Nodup := by
    rw [typedSession.numbered]
    exact issuedIds_nodup few
  have announces : other.announces orderId := ⟨data, inside, same⟩
  rcases typedSession.each.ofOwnOrder other listedToo with none | ⟨_, _, _, dealtWith⟩
  · rw [none] at inside
    cases inside
  · rw [same_of_orderId distinct listed listedToo own (dealtWith.announces_own announces)]
    exact announces

/-- A client that goes on after a fill has been told before that something of the order rests. -/
theorem fill_known {surroundings : Surroundings} {userID : UserId} {client : TradingClient}
    {fill : OrderEntryFill}
    (reached : run (TradingClient.step surroundings) (TradingClient.start userID) heard =
      .ok client)
    (told : ClientEvent.response (.fill fill) ∈ heard) (own : fill.statusCommon.userId = userID) :
    ∃ data, ClientEvent.datagram (.add data) ∈ heard ∧
      data.orderId = fill.statusCommon.orderId := by
  obtain ⟨earlier, later, split⟩ := List.append_of_mem told
  rw [split] at reached
  cases before : run (TradingClient.step surroundings) (TradingClient.start userID) earlier with
  | error problem =>
      rw [run_append_error before] at reached
      cases reached
  | ok middle =>
      have follows := TradingClient.start_run before
      have used : TradingClient.orderUsed middle.userID (.fill fill) =
          some fill.statusCommon.orderId := by
        rw [TradingClient.orderUsed, follows.user, if_pos own]
      have live : TradingClient.leftOf fill.statusCommon.orderId earlier ≠ none := by
        intro dead
        have fails := TradingClient.interpretResponseType_unknown used
          ((follows.has_order _).mpr dead)
        rw [run_append before] at reached
        simp only [run, TradingClient.step, fails] at reached
        cases reached
      obtain ⟨data, member, same⟩ := announced_of_left live
      refine ⟨data, ?_, same⟩
      rw [split]
      exact List.mem_append_left _ (mem_datagramsOf member)

/-- Only a fill ends a client. -/
theorem TypedSession.unfilled_goes_on
    (typedSession : TypedSession tickers userOf session events dealt)
    (hears : Hears session connection heard)
    (noFill : ∀ fill, ClientEvent.response (.fill fill) ∉ heard) (surroundings : Surroundings)
    (userID : UserId) : ∃ client,
      run (TradingClient.step surroundings) (TradingClient.start userID) heard = .ok client := by
  cases ran : run (TradingClient.step surroundings) (TradingClient.start userID) heard with
  | ok client => exact ⟨client, rfl⟩
  | error problem =>
      obtain ⟨earlier, response, later, orderId, split, used, _dead, _null⟩ :=
        TradingClient.run_fails ran
      have told : ClientEvent.response response ∈ heard := by
        rw [split]
        exact List.mem_append_right _ List.mem_cons_self
      rcases typedSession.response_cases (hears.responses response told) with
        unused | ⟨fill, _more, isFill, _⟩
      · rw [unused] at used
        cases used
      · rw [isFill] at told
        exact absurd told (noFill fill)

/-- Market data that a client takes for an added order are one. -/
theorem added_of_decoded {published : MarketDataResponse} {data : AddOrderData}
    (decoded : TradingClient.decoded published = some (.add data)) :
    ∃ added, published = .add added ∧ added.orderId = data.orderId := by
  cases published with
  | add added =>
      cases decoded
      exact ⟨added, rfl, rfl⟩
  | _ => cases decoded

/-- A client that goes on has heard that something of each order rests whose fill it is told. -/
theorem TypedSession.filled_announced
    (typedSession : TypedSession tickers userOf session events dealt)
    (few : (dealt.filterMap Dealt.orderId).length ≤ 18446744073709551616)
    (hears : Hears session connection heard) {surroundings : Surroundings}
    {client : TradingClient}
    (reached : run (TradingClient.step surroundings) (TradingClient.start (userOf connection))
      heard = .ok client)
    {fill : OrderEntryFill} (told : ClientEvent.response (.fill fill) ∈ heard) :
    ∃ more ∈ dealt, more.connection = connection ∧
      more.orderId = some fill.statusCommon.orderId ∧
        more.announces fill.statusCommon.orderId := by
  rcases typedSession.response_cases (hears.responses _ told) with
    unused | ⟨other, more, isFill, listed, here, own, user⟩
  · have used := unused fill.statusCommon.userId
    rw [TradingClient.orderUsed, if_pos rfl] at used
    cases used
  · cases isFill
    obtain ⟨data, datagram, same⟩ := fill_known reached told user
    obtain ⟨published, fed, decoded⟩ := hears.datagrams _ datagram
    obtain ⟨added, isAdd, sameId⟩ := added_of_decoded decoded
    rw [isAdd] at fed
    exact ⟨more, listed, here, own,
      typedSession.announced few listed own fed (sameId.trans same)⟩

/-- Whatever a client of a typed session hears and in whichever order, while it has subscribed to
no book: as long as it is told of no fill it dereferences no null pointer, and if it goes on, each
fill that it has been told of is of an order something of which rested. It does not survive the
fill of an order that was filled as it came in. It reads behind a name exactly where a response
that it writes down bears one of eight bytes without an end. -/
theorem clients_survive_fills_of_resting_orders (tickers : List Ticker)
    (userOf : ConnectionRef → UserId) (events : List Server.Event) (finish : Session)
    (typed : ∀ event ∈ events, Typed userOf event)
    (few : Exchange.newOrders events < 18446744073709551616)
    (reached : run Session.step (Session.start tickers) events = .ok finish) :
    ∃ dealt, TypedSession tickers userOf finish events dealt ∧
      ∀ surroundings connection heard, Hears finish connection heard →
        ((∀ fill, ClientEvent.response (.fill fill) ∉ heard) → ∃ client,
          run (TradingClient.step surroundings) (TradingClient.start (userOf connection)) heard =
            .ok client) ∧
        ∀ client,
          run (TradingClient.step surroundings) (TradingClient.start (userOf connection)) heard =
            .ok client →
          (client.overread = true ↔
            ∃ event ∈ heard, TradingClient.overreads (userOf connection) event = true) ∧
          ∀ fill, ClientEvent.response (.fill fill) ∈ heard →
            ∃ more ∈ dealt, more.connection = connection ∧
              more.orderId = some fill.statusCommon.orderId ∧
                more.announces fill.statusCommon.orderId := by
  obtain ⟨dealt, typedSession⟩ := typed_run typed few reached
  have fewOrders := Nat.le_trans typedSession.each.letIn_le_newOrders (Nat.le_of_lt few)
  refine ⟨dealt, typedSession, ?_⟩
  intro surroundings connection heard hears
  constructor
  · intro noFill
    exact typedSession.unfilled_goes_on hears noFill surroundings (userOf connection)
  · intro client ran
    constructor
    · rw [(TradingClient.start_run ran).overread]
      exact List.any_eq_true
    · intro fill told
      exact typedSession.filled_announced fewOrders hears ran told

theorem typedTrade_survivors :
    ∃ finish, run Session.step (Session.start [Util.convertStrToEightBytes (literal "BB")])
        typedTrade = .ok finish ∧
      ∃ dealt, TypedSession [Util.convertStrToEightBytes (literal "BB")]
          (fun connection => UInt64.ofNat connection) finish typedTrade dealt ∧
        ∀ surroundings connection heard, Hears finish connection heard →
          ((∀ fill, ClientEvent.response (.fill fill) ∉ heard) → ∃ client,
            run (TradingClient.step surroundings)
              (TradingClient.start (UInt64.ofNat connection)) heard = .ok client) ∧
          ∀ client,
            run (TradingClient.step surroundings)
              (TradingClient.start (UInt64.ofNat connection)) heard = .ok client →
            (client.overread = true ↔
              ∃ event ∈ heard, TradingClient.overreads (UInt64.ofNat connection) event = true) ∧
            ∀ fill, ClientEvent.response (.fill fill) ∈ heard →
              ∃ more ∈ dealt, more.connection = connection ∧
                more.orderId = some fill.statusCommon.orderId ∧
                  more.announces fill.statusCommon.orderId := by
  have evaluated : (run Session.step
      (Session.start [Util.convertStrToEightBytes (literal "BB")]) typedTrade).toOption.map
        (fun finish => finish.executions.length) = some 2 := by
    decide +kernel
  obtain ⟨finish, reached, _traded⟩ := returns_of_view evaluated
  exact ⟨finish, reached,
    clients_survive_fills_of_resting_orders _ (fun connection => UInt64.ofNat connection)
      typedTrade finish typedTrade_typed (by decide) reached⟩

end Clients

end System

end SpotExchange
