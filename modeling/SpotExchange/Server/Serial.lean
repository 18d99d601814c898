/-
Messages that are processed on several threads at the same time. A callback numbers a new order,
checks the user and acknowledges, calls the book, and what the book sends goes to the queues one
response or message at a time. A connection has one message at a time; the steps of different
connections interleave. A call tries the mutex of its book and goes on in any case. As long as
every call finds the mutex free, nothing else looks at the book before it is given back, so that
the change of the book is one step.

Every such run has the outcome of a serial one, in which each message is processed whole.
-/

import SpotExchange.Server.Answers
import SpotExchange.Server.Feed

namespace SpotExchange
namespace Server

open Engine Machine Wire

/-! ### A message in two steps -/

namespace Exchange

/-- A new order gets its order id. -/
def number (exchange : Exchange) : OrderEntryRequest → Exchange × OrderEntryRequest
  | .newOrder request =>
      ({ exchange with orderidGenerator := exchange.orderidGenerator + 1 },
        .newOrder (withOrderId request (exchange.orderidGenerator + 1)))
  | message => (exchange, message)

/-- What acknowledges a message that is numbered, and the request that is made of it. -/
def prepare (clock : Nat → Int64) (connection : ConnectionRef) :
    OrderEntryRequest → Option (OrderEntryResponse × Request)
  | .newOrder request =>
      some (.newOrderAck (clock 0) request,
        .add (fun reading => clock (reading + 1)) (newOrderOf connection request))
  | .modifyOrder request =>
      some (.modifyOrderAck (clock 0) request,
        .modify (fun reading => clock (reading + 1)) (modifyOrderOf connection request))
  | .cancelOrder request =>
      some (.cancelOrderAck (clock 0) request.orderCommon,
        .cancel (fun reading => clock (reading + 1)) (cancelOrderOf connection request))
  | .notSet => none

def processNumbered (exchange : Exchange) (clock : Nat → Int64) (connection : ConnectionRef)
    (userid : UserId) (message : OrderEntryRequest) : Except Fault Reaction :=
  match prepare clock connection message with
  | none =>
      .ok { exchange := exchange
            executions := []
            emitted := [] }
  | some (acknowledgement, request) =>
      exchange.handleOrderType connection userid request.common acknowledgement
        (fun books => OrderBookManager.handle books request)

theorem prepare_connection {clock : Nat → Int64} {connection : ConnectionRef}
    {message : OrderEntryRequest} {acknowledgement : OrderEntryResponse} {request : Request}
    (prepared : prepare clock connection message = some (acknowledgement, request)) :
    request.connection = connection := by
  cases message with
  | notSet => cases prepared
  | _ =>
      cases prepared
      rfl

end Exchange

/-! ### What was sent -/

abbrev Sendings := List (Ticker × Emission)

namespace Sendings

/-- The responses that a connection has been sent. -/
def responsesTo (connection : ConnectionRef) (sendings : Sendings) : List OrderEntryResponse :=
  ((toClients (sendings.map Prod.snd)).filter (fun sent => sent.1 == connection)).map Prod.snd

/-- The market data of one book. -/
def feedOf (ticker : Ticker) (sendings : Sendings) : List MarketDataResponse :=
  marketDataOf ((sendings.filter (fun sent => sent.1 == ticker)).map Prod.snd)

variable {sendings : Sendings} {connection : ConnectionRef} {emitted : List Emission}

theorem responsesTo_append {told : List OrderEntryResponse} (ticker : Ticker)
    (responses : toClients emitted = told.map (fun response => (connection, response)))
    (other : ConnectionRef) :
    responsesTo other (sendings ++ emitted.map (fun emission => (ticker, emission))) =
      responsesTo other sendings ++ if connection == other then told else [] := by
  have untagged : (emitted.map (fun emission => (ticker, emission))).map Prod.snd = emitted := by
    rw [List.map_map]
    exact List.map_id emitted
  have own := Answer.sent_to
    { connection := connection
      executions := []
      responses := told } other
  rw [responsesTo, List.map_append, untagged, toClients_append, responses, List.filter_append,
    List.map_append]
  exact congrArg _ own

theorem feedOf_append (tag ticker : Ticker) (sendings : Sendings) (emitted : List Emission) :
    feedOf ticker (sendings ++ emitted.map (fun emission => (tag, emission))) =
      feedOf ticker sendings ++ if tag == ticker then marketDataOf emitted else [] := by
  rw [feedOf, List.filter_append, List.map_append, OrderBook.marketDataOf_append]
  apply congrArg
  split
  · rename_i here
    rw [List.filter_eq_self.mpr, List.map_map]
    · exact congrArg marketDataOf (List.map_id emitted)
    · intro sent listed
      obtain ⟨emission, _listed, same⟩ := List.mem_map.mp listed
      rw [← same]
      exact here
  · rename_i elsewhere
    rw [List.filter_eq_nil_iff.mpr]
    · rfl
    · intro sent listed
      obtain ⟨emission, _listed, same⟩ := List.mem_map.mp listed
      rw [← same]
      exact elsewhere

end Sendings

/-! ### Messages at the same time -/

/-- How far the callback of a connection is with its message. While responses and market data
are being sent, `lock` is whether the call of the book has its mutex. -/
inductive Stage where
  | idle
  | numbered (clock : Nat → Int64) (message : OrderEntryRequest)
  | acknowledged (request : Request)
  | sending (ticker : Ticker) (lock : Bool) (emissions : List Emission)

/-- `mutexes` has the owner of the mutex of each book. -/
structure Floor where
  exchange : Exchange
  mutexes : Ticker → Option ConnectionRef
  stages : ConnectionRef → Stage
  executions : List (Ticker × Execution)
  sendings : Sendings

inductive FloorProblem where
  | disabled
  | server (problem : Fault)

inductive FloorEvent where
  | read (connection : ConnectionRef) (clock : Nat → Int64) (message : OrderEntryRequest)
  | answer (connection : ConnectionRef)
  | call (connection : ConnectionRef)
  | send (connection : ConnectionRef)
  | finish (connection : ConnectionRef)

namespace Floor

def start (exchange : Exchange) : Floor :=
  { exchange := exchange
    mutexes := fun _ => none
    stages := fun _ => .idle
    executions := []
    sendings := [] }

def setStage (floor : Floor) (connection : ConnectionRef) (stage : Stage) : Floor :=
  { floor with stages := Function.update floor.stages connection stage }

def emit (floor : Floor) (ticker : Ticker) (emission : Emission) : Floor :=
  { floor with sendings := floor.sendings ++ [(ticker, emission)] }

/-- The request comes to its book. -/
def reachesBook (books : OrderBooks) (request : Request) : Bool :=
  !OrderBookManager.refusedAtOnce request && (books.lookup request.common.ticker).isSome

/-- The mutex of the book is taken if it is free. -/
def tryLock (floor : Floor) (request : Request) : Bool :=
  reachesBook floor.exchange.orderbooks request && (floor.mutexes request.common.ticker).isNone

def answer (floor : Floor) (connection : ConnectionRef) : Except FloorProblem Floor :=
  match floor.stages connection with
  | .numbered clock message =>
      match floor.exchange.userIds.lookup connection with
      | none => .error (.server .uninitialisedRead)
      | some userid =>
          match Exchange.prepare clock connection message with
          | none => .ok (floor.setStage connection .idle)
          | some (acknowledgement, request) =>
              if request.common.userId ≠ userid then
                .ok ((floor.setStage connection .idle).emit request.common.ticker
                  (OrderBook.rejection connection request.common .wrongUserId))
              else
                .ok ((floor.setStage connection (.acknowledged request)).emit
                  request.common.ticker (.toClient connection acknowledgement))
  | _ => .error .disabled

def call (floor : Floor) (connection : ConnectionRef) : Except FloorProblem Floor :=
  match floor.stages connection with
  | .acknowledged request =>
      match OrderBookManager.handle floor.exchange.orderbooks request with
      | .error problem => .error (.server problem)
      | .ok handled =>
          let lock := floor.tryLock request
          .ok { exchange := { floor.exchange with orderbooks := handled.books }
                mutexes :=
                  if lock then
                    Function.update floor.mutexes request.common.ticker (some connection)
                  else floor.mutexes
                stages :=
                  Function.update floor.stages connection
                    (.sending request.common.ticker lock handled.emitted)
                executions := floor.executions ++ handled.executions
                sendings := floor.sendings }
  | _ => .error .disabled

def step (floor : Floor) : FloorEvent → Except FloorProblem Floor
  | .read connection clock message =>
      match floor.stages connection with
      | .idle =>
          let (exchange, numbered) := floor.exchange.number message
          .ok { (floor.setStage connection (.numbered clock numbered)) with exchange := exchange }
      | _ => .error .disabled
  | .answer connection => floor.answer connection
  | .call connection => floor.call connection
  | .send connection =>
      match floor.stages connection with
      | .sending ticker lock (emission :: rest) =>
          .ok ((floor.setStage connection (.sending ticker lock rest)).emit ticker emission)
      | _ => .error .disabled
  | .finish connection =>
      match floor.stages connection with
      | .sending ticker lock [] =>
          .ok { (floor.setStage connection .idle) with
            mutexes := if lock then Function.update floor.mutexes ticker none else floor.mutexes }
      | _ => .error .disabled

/-- A call that comes to a book finds its mutex free. -/
def findsFree (floor : Floor) : FloorEvent → Bool
  | .call connection =>
      match floor.stages connection with
      | .acknowledged request =>
          !reachesBook floor.exchange.orderbooks request ||
            (floor.mutexes request.common.ticker).isNone
      | _ => true
  | _ => true

end Floor

/-! ### One message after the other -/

/-- The messages that have been numbered and not processed are `waiting`. -/
structure Desk where
  exchange : Exchange
  waiting : ConnectionRef → Option ((Nat → Int64) × OrderEntryRequest)
  executions : List (Ticker × Execution)
  sendings : Sendings

inductive DeskEvent where
  | read (connection : ConnectionRef) (clock : Nat → Int64) (message : OrderEntryRequest)
  | process (connection : ConnectionRef)

namespace Desk

def start (exchange : Exchange) : Desk :=
  { exchange := exchange
    waiting := fun _ => none
    executions := []
    sendings := [] }

def tickerOf (message : OrderEntryRequest) : Ticker :=
  match Exchange.orderCommon message with
  | none => 0
  | some common => common.ticker

/-- The message is processed from its check to the last response. -/
def process (desk : Desk) (connection : ConnectionRef) : Except FloorProblem Desk :=
  match desk.waiting connection with
  | none => .error .disabled
  | some (clock, message) =>
      match desk.exchange.userIds.lookup connection with
      | none => .error (.server .uninitialisedRead)
      | some userid =>
          match desk.exchange.processNumbered clock connection userid message with
          | .error problem => .error (.server problem)
          | .ok reaction =>
              .ok { exchange := reaction.exchange
                    waiting := Function.update desk.waiting connection none
                    executions := desk.executions ++ reaction.executions
                    sendings := desk.sendings ++
                      reaction.emitted.map (fun emission => (tickerOf message, emission)) }

def step (desk : Desk) : DeskEvent → Except FloorProblem Desk
  | .read connection clock message =>
      match desk.waiting connection with
      | none =>
          let (exchange, numbered) := desk.exchange.number message
          .ok { desk with
            exchange := exchange
            waiting := Function.update desk.waiting connection (some (clock, numbered)) }
      | some _ => .error .disabled
  | .process connection => desk.process connection

end Desk

/-! ### The two agree -/

/-- Where a connection stands in both, and what it has been sent: an acknowledgement comes before
the message is processed at the desk, and what is still being sent on the floor has been sent
there. -/
inductive StageAgrees (userIds : AList (fun _ : ConnectionRef => UserId))
    (connection : ConnectionRef) :
    Stage → List OrderEntryResponse → Option ((Nat → Int64) × OrderEntryRequest) →
      List OrderEntryResponse → Prop
  | idle (sent : List OrderEntryResponse) : StageAgrees userIds connection .idle sent none sent
  | numbered (clock : Nat → Int64) (message : OrderEntryRequest)
      (sent : List OrderEntryResponse) :
      StageAgrees userIds connection (.numbered clock message) sent (some (clock, message)) sent
  | acknowledged {clock : Nat → Int64} {message : OrderEntryRequest}
      {acknowledgement : OrderEntryResponse} {request : Request}
      (prepared : Exchange.prepare clock connection message = some (acknowledgement, request))
      (user : userIds.lookup connection = some request.common.userId)
      (sent : List OrderEntryResponse) :
      StageAgrees userIds connection (.acknowledged request) (sent ++ [acknowledgement])
        (some (clock, message)) sent
  | sending {ticker : Ticker} {lock : Bool} {emissions : List Emission}
      {told : List OrderEntryResponse}
      (responses : toClients emissions = told.map (fun response => (connection, response)))
      (silent : lock = false → marketDataOf emissions = []) (sent : List OrderEntryResponse) :
      StageAgrees userIds connection (.sending ticker lock emissions) sent none (sent ++ told)

namespace StageAgrees

variable {userIds : AList (fun _ : ConnectionRef => UserId)} {connection : ConnectionRef}
  {sent told : List OrderEntryResponse} {waiting : Option ((Nat → Int64) × OrderEntryRequest)}

theorem of_idle (agrees : StageAgrees userIds connection .idle sent waiting told) :
    waiting = none ∧ told = sent := by
  cases agrees
  exact ⟨rfl, rfl⟩

theorem of_numbered {clock : Nat → Int64} {message : OrderEntryRequest}
    (agrees : StageAgrees userIds connection (.numbered clock message) sent waiting told) :
    waiting = some (clock, message) ∧ told = sent := by
  cases agrees
  exact ⟨rfl, rfl⟩

theorem of_acknowledged {request : Request}
    (agrees : StageAgrees userIds connection (.acknowledged request) sent waiting told) :
    ∃ clock message acknowledgement, waiting = some (clock, message) ∧
      Exchange.prepare clock connection message = some (acknowledgement, request) ∧
        userIds.lookup connection = some request.common.userId ∧
          sent = told ++ [acknowledgement] := by
  cases agrees with
  | acknowledged prepared user told => exact ⟨_, _, _, rfl, prepared, user, rfl⟩

theorem of_sending {ticker : Ticker} {lock : Bool} {emissions : List Emission}
    (agrees : StageAgrees userIds connection (.sending ticker lock emissions) sent waiting told) :
    waiting = none ∧ (lock = false → marketDataOf emissions = []) ∧
      ∃ later, toClients emissions = later.map (fun response => (connection, response)) ∧
        told = sent ++ later := by
  cases agrees with
  | sending responses silent sent => exact ⟨rfl, silent, _, responses, rfl⟩

end StageAgrees

/-- The books are the same, and so is what was traded; each connection stands where it does; and
of each book the same market data were sent, but for what the call that has its mutex has still to
send. -/
structure Agree (floor : Floor) (desk : Desk) : Prop where
  exchange : desk.exchange = floor.exchange
  executions : desk.executions = floor.executions
  stage : ∀ connection, StageAgrees floor.exchange.userIds connection (floor.stages connection)
    (floor.sendings.responsesTo connection) (desk.waiting connection)
    (desk.sendings.responsesTo connection)
  free : ∀ ticker, floor.mutexes ticker = none →
    desk.sendings.feedOf ticker = floor.sendings.feedOf ticker
  taken : ∀ ticker connection, floor.mutexes ticker = some connection →
    ∃ emissions, floor.stages connection = .sending ticker true emissions ∧
      desk.sendings.feedOf ticker = floor.sendings.feedOf ticker ++ marketDataOf emissions
  holder : ∀ connection ticker emissions,
    floor.stages connection = .sending ticker true emissions →
      floor.mutexes ticker = some connection

theorem start_agree (exchange : Exchange) : Agree (Floor.start exchange) (Desk.start exchange) where
  exchange := rfl
  executions := rfl
  stage := fun _connection => StageAgrees.idle []
  free := fun _ticker _free => rfl
  taken := by
    intro ticker connection owned
    cases owned
  holder := by
    intro connection ticker emissions sends
    cases sends

namespace Agree

variable {floor next : Floor} {desk : Desk} {connection : ConnectionRef}

/-- A stage in which no market data are sent, before a step and after it. -/
def Outside : Stage → Prop
  | .sending _ lock _ => lock = false
  | _ => True

theorem not_holding {stage : Stage} (outside : Outside stage) {ticker : Ticker}
    {emissions : List Emission} : stage ≠ .sending ticker true emissions := by
  intro same
  rw [same] at outside
  cases outside

/-- One connection goes on outside of the calls of books: only its own stage and what it is sent
have to agree again. -/
theorem goesOn (agree : Agree floor desk) {stage : Stage} {exchange : Exchange}
    {sendings deskSendings : Sendings}
    {waiting : Option ((Nat → Int64) × OrderEntryRequest)}
    (before : Outside (floor.stages connection)) (after : Outside stage)
    (sameUsers : exchange.userIds = floor.exchange.userIds)
    (here : StageAgrees floor.exchange.userIds connection stage
      (sendings.responsesTo connection) waiting (deskSendings.responsesTo connection))
    (elsewhere : ∀ other, other ≠ connection →
      sendings.responsesTo other = floor.sendings.responsesTo other ∧
        deskSendings.responsesTo other = desk.sendings.responsesTo other)
    (sameFeed : ∀ ticker, sendings.feedOf ticker = floor.sendings.feedOf ticker ∧
      deskSendings.feedOf ticker = desk.sendings.feedOf ticker) :
    Agree
      { floor with
        exchange := exchange
        stages := Function.update floor.stages connection stage
        sendings := sendings }
      { desk with
        exchange := exchange
        waiting := Function.update desk.waiting connection waiting
        sendings := deskSendings } where
  exchange := rfl
  executions := agree.executions
  stage := by
    intro other
    change StageAgrees exchange.userIds other (Function.update floor.stages connection stage other)
      (sendings.responsesTo other) (Function.update desk.waiting connection waiting other)
      (deskSendings.responsesTo other)
    rw [sameUsers]
    by_cases same : other = connection
    · rw [same, Function.update_self, Function.update_self]
      exact here
    · rw [Function.update_of_ne same, Function.update_of_ne same, (elsewhere other same).1,
        (elsewhere other same).2]
      exact agree.stage other
  free := by
    intro ticker free
    exact (sameFeed ticker).2.trans ((agree.free ticker free).trans (sameFeed ticker).1.symm)
  taken := by
    intro ticker owner owned
    obtain ⟨emissions, sends, fed⟩ := agree.taken ticker owner owned
    have different : owner ≠ connection := by
      intro same
      rw [← same] at before
      exact not_holding before sends
    refine ⟨emissions, ?_, ?_⟩
    · change Function.update floor.stages connection stage owner = _
      rw [Function.update_of_ne different]
      exact sends
    · change deskSendings.feedOf ticker = sendings.feedOf ticker ++ _
      rw [(sameFeed ticker).1, (sameFeed ticker).2]
      exact fed
  holder := by
    intro other ticker emissions sends
    change Function.update floor.stages connection stage other = _ at sends
    by_cases same : other = connection
    · rw [same, Function.update_self] at sends
      exact absurd sends (not_holding after)
    · rw [Function.update_of_ne same] at sends
      exact agree.holder other ticker emissions sends

theorem number_userIds (exchange : Exchange) (message : OrderEntryRequest) :
    (exchange.number message).1.userIds = exchange.userIds := by
  cases message <;> rfl

theorem tickerOf_prepared {clock : Nat → Int64} {message : OrderEntryRequest}
    {acknowledgement : OrderEntryResponse} {request : Request}
    (prepared : Exchange.prepare clock connection message = some (acknowledgement, request)) :
    Desk.tickerOf message = request.common.ticker := by
  cases message with
  | notSet => cases prepared
  | _ =>
      cases prepared
      rfl

theorem read (agree : Agree floor desk) {clock : Nat → Int64} {message : OrderEntryRequest}
    (taken : floor.step (.read connection clock message) = .ok next) :
    ∃ after, desk.step (.read connection clock message) = .ok after ∧ Agree next after := by
  simp only [Floor.step] at taken
  split at taken
  · rename_i standing
    have stage := agree.stage connection
    rw [standing] at stage
    obtain ⟨waits, sent⟩ := stage.of_idle
    cases taken
    simp only [Desk.step, waits, agree.exchange]
    refine ⟨_, rfl, ?_⟩
    have outside : Outside (floor.stages connection) := by
      rw [standing]
      trivial
    refine agree.goesOn outside trivial (number_userIds floor.exchange message) ?_
      (fun _other _different => ⟨rfl, rfl⟩) (fun _ticker => ⟨rfl, rfl⟩)
    rw [sent]
    exact StageAgrees.numbered _ _ _
  · cases taken

/-- The desk where a connection has a message, and what comes of it. -/
theorem process_eq {clock : Nat → Int64} {message : OrderEntryRequest} {userid : UserId}
    {reaction : Reaction} (waits : desk.waiting connection = some (clock, message))
    (user : desk.exchange.userIds.lookup connection = some userid)
    (processed : desk.exchange.processNumbered clock connection userid message = .ok reaction) :
    desk.step (.process connection) =
      .ok { exchange := reaction.exchange
            waiting := Function.update desk.waiting connection none
            executions := desk.executions ++ reaction.executions
            sendings := desk.sendings ++
              reaction.emitted.map (fun emission => (Desk.tickerOf message, emission)) } := by
  simp only [Desk.step, Desk.process, waits, user, processed]

/-- What is not sent to a connection changes nothing for it. -/
theorem responsesTo_elsewhere {sendings : Sendings} {ticker : Ticker} {emitted : List Emission}
    {told : List OrderEntryResponse}
    (responses : toClients emitted = told.map (fun response => (connection, response)))
    {other : ConnectionRef} (different : other ≠ connection) :
    Sendings.responsesTo other (sendings ++ emitted.map (fun emission => (ticker, emission))) =
      Sendings.responsesTo other sendings := by
  rw [Sendings.responsesTo_append ticker responses, if_neg, List.append_nil]
  intro same
  exact different (beq_iff_eq.mp same).symm

theorem responsesTo_here {sendings : Sendings} {ticker : Ticker} {emitted : List Emission}
    {told : List OrderEntryResponse}
    (responses : toClients emitted = told.map (fun response => (connection, response))) :
    Sendings.responsesTo connection
        (sendings ++ emitted.map (fun emission => (ticker, emission))) =
      Sendings.responsesTo connection sendings ++ told := by
  rw [Sendings.responsesTo_append ticker responses, if_pos (beq_self_eq_true connection)]

theorem feedOf_silent {tag : Ticker} {sendings : Sendings} {emitted : List Emission}
    (silent : marketDataOf emitted = []) (ticker : Ticker) :
    Sendings.feedOf ticker (sendings ++ emitted.map (fun emission => (tag, emission))) =
      Sendings.feedOf ticker sendings := by
  rw [Sendings.feedOf_append, silent, ite_self, List.append_nil]

/-- A response alone. -/
theorem responsesTo_response (connection : ConnectionRef) (ticker : Ticker) (sendings : Sendings)
    (response : OrderEntryResponse) :
    Sendings.responsesTo connection (sendings ++ [(ticker, .toClient connection response)]) =
      Sendings.responsesTo connection sendings ++ [response] :=
  @responsesTo_here connection sendings ticker [.toClient connection response] [response] rfl

theorem responsesTo_other {other : ConnectionRef} (different : other ≠ connection)
    (ticker : Ticker) (sendings : Sendings) (response : OrderEntryResponse) :
    Sendings.responsesTo other (sendings ++ [(ticker, .toClient connection response)]) =
      Sendings.responsesTo other sendings :=
  @responsesTo_elsewhere connection sendings ticker [.toClient connection response] [response]
    rfl other different

theorem feedOf_response (connection : ConnectionRef) (tag : Ticker) (sendings : Sendings)
    (response : OrderEntryResponse) (ticker : Ticker) :
    Sendings.feedOf ticker (sendings ++ [(tag, .toClient connection response)]) =
      Sendings.feedOf ticker sendings :=
  @feedOf_silent tag sendings [.toClient connection response] rfl ticker

section Answer

variable {clock : Nat → Int64} {message : OrderEntryRequest} {userid : UserId}

/-- A message without an order comes to nothing. -/
theorem ignored (agree : Agree floor desk)
    (standing : floor.stages connection = .numbered clock message)
    (user : floor.exchange.userIds.lookup connection = some userid)
    (none : Exchange.prepare clock connection message = .none) :
    ∃ after, run Desk.step desk [.process connection] = .ok after ∧
      Agree (floor.setStage connection .idle) after := by
  have stage := agree.stage connection
  rw [standing] at stage
  obtain ⟨waits, sent⟩ := stage.of_numbered
  have processes : desk.exchange.processNumbered clock connection userid message =
      .ok { exchange := desk.exchange
            executions := []
            emitted := [] } := by
    simp only [Exchange.processNumbered, none]
  rw [← agree.exchange] at user
  refine ⟨_, run_singleton (process_eq waits user processes), ?_⟩
  rw [List.append_nil, List.map_nil, List.append_nil, agree.exchange]
  refine agree.goesOn ?_ trivial rfl ?_ (fun _other _different => ⟨rfl, rfl⟩)
    (fun _ticker => ⟨rfl, rfl⟩)
  · rw [standing]
    trivial
  · rw [sent]
    exact StageAgrees.idle _

/-- A message under another user id is rejected. -/
theorem refused (agree : Agree floor desk)
    (standing : floor.stages connection = .numbered clock message)
    (user : floor.exchange.userIds.lookup connection = some userid)
    {acknowledgement : OrderEntryResponse} {request : Request}
    (prepared : Exchange.prepare clock connection message = some (acknowledgement, request))
    (wrong : request.common.userId ≠ userid) :
    ∃ after, run Desk.step desk [.process connection] = .ok after ∧
      Agree
        ((floor.setStage connection .idle).emit request.common.ticker
          (OrderBook.rejection connection request.common .wrongUserId)) after := by
  have stage := agree.stage connection
  rw [standing] at stage
  obtain ⟨waits, sent⟩ := stage.of_numbered
  have processes : desk.exchange.processNumbered clock connection userid message =
      .ok { exchange := desk.exchange
            executions := []
            emitted := [OrderBook.rejection connection request.common .wrongUserId] } := by
    simp only [Exchange.processNumbered, prepared, Exchange.handleOrderType, if_pos wrong]
  rw [← agree.exchange] at user
  refine ⟨_, run_singleton (process_eq waits user processes), ?_⟩
  rw [List.append_nil, tickerOf_prepared prepared, agree.exchange]
  refine agree.goesOn ?_ trivial rfl ?_ ?_ ?_
  · rw [standing]
    trivial
  · change StageAgrees _ connection .idle
      (Sendings.responsesTo connection (floor.sendings ++ [(_, .toClient connection _)])) none
      (Sendings.responsesTo connection (desk.sendings ++ [(_, .toClient connection _)]))
    rw [responsesTo_response, responsesTo_response, sent]
    exact StageAgrees.idle _
  · intro other different
    exact ⟨responsesTo_other different _ _ _, responsesTo_other different _ _ _⟩
  · intro ticker
    exact ⟨feedOf_response connection _ _ _ ticker, feedOf_response connection _ _ _ ticker⟩

/-- A message that is acknowledged waits at the desk. -/
theorem acknowledges (agree : Agree floor desk)
    (standing : floor.stages connection = .numbered clock message)
    {acknowledgement : OrderEntryResponse} {request : Request}
    (prepared : Exchange.prepare clock connection message = some (acknowledgement, request))
    (user : floor.exchange.userIds.lookup connection = some request.common.userId) :
    Agree
      ((floor.setStage connection (.acknowledged request)).emit request.common.ticker
        (.toClient connection acknowledgement)) desk := by
  have stage := agree.stage connection
  rw [standing] at stage
  obtain ⟨waits, sent⟩ := stage.of_numbered
  have unchanged : desk =
      { desk with
        exchange := floor.exchange
        waiting := Function.update desk.waiting connection (some (clock, message)) } := by
    rw [← waits, Function.update_eq_self, ← agree.exchange]
  rw [unchanged]
  refine agree.goesOn ?_ trivial rfl ?_ ?_ ?_
  · rw [standing]
    trivial
  · change StageAgrees _ connection (.acknowledged request)
      (Sendings.responsesTo connection (floor.sendings ++ [(_, .toClient connection _)])) _
      (Sendings.responsesTo connection desk.sendings)
    rw [responsesTo_response, sent]
    exact StageAgrees.acknowledged prepared user _
  · intro other different
    exact ⟨responsesTo_other different _ _ _, rfl⟩
  · intro ticker
    exact ⟨feedOf_response connection _ _ _ ticker, rfl⟩

/-- A message is processed at the desk where it turns out to be refused, or to be none; one that
is acknowledged waits. -/
theorem answer (agree : Agree floor desk) (taken : floor.answer connection = .ok next) :
    ∃ schedule after, run Desk.step desk schedule = .ok after ∧ Agree next after ∧
      (schedule = [] ∨ schedule = [.process connection]) := by
  unfold Floor.answer at taken
  split at taken
  · rename_i clock message standing
    split at taken
    · cases taken
    · rename_i userid user
      split at taken
      · rename_i none
        cases taken
        obtain ⟨after, reached, agrees⟩ := agree.ignored standing user none
        exact ⟨_, after, reached, agrees, Or.inr rfl⟩
      · rename_i acknowledgement request prepared
        split at taken
        · rename_i wrong
          cases taken
          obtain ⟨after, reached, agrees⟩ := agree.refused standing user prepared wrong
          exact ⟨_, after, reached, agrees, Or.inr rfl⟩
        · rename_i right
          cases taken
          rw [← not_not.mp right] at user
          exact ⟨[], desk, rfl, agree.acknowledges standing prepared user, Or.inl rfl⟩
  · cases taken

end Answer

section Call

variable {request : Request} {acknowledgement : OrderEntryResponse} {handled : Handled}
  {lock : Bool}

/-- A call at the floor, and the message processed whole at the desk: what the call sends is still
to be sent at the floor, and the mutex of its book is taken if there is market data in it. -/
theorem called (agree : Agree floor desk) {told : List OrderEntryResponse}
    (standing : floor.stages connection = .acknowledged request)
    (sent : floor.sendings.responsesTo connection =
      desk.sendings.responsesTo connection ++ [acknowledgement])
    (responses : toClients handled.emitted = told.map (fun response => (connection, response)))
    (locks : lock = true → floor.mutexes request.common.ticker = none)
    (silent : lock = false → marketDataOf handled.emitted = []) :
    Agree
      { exchange := { floor.exchange with orderbooks := handled.books }
        mutexes :=
          if lock then Function.update floor.mutexes request.common.ticker (some connection)
          else floor.mutexes
        stages :=
          Function.update floor.stages connection
            (.sending request.common.ticker lock handled.emitted)
        executions := floor.executions ++ handled.executions
        sendings := floor.sendings }
      { exchange := { floor.exchange with orderbooks := handled.books }
        waiting := Function.update desk.waiting connection none
        executions := floor.executions ++ handled.executions
        sendings := desk.sendings ++
          (.toClient connection acknowledgement :: handled.emitted).map
            (fun emission => (request.common.ticker, emission)) } where
  exchange := rfl
  executions := rfl
  stage := by
    intro other
    change StageAgrees floor.exchange.userIds other
      (Function.update floor.stages connection _ other) (floor.sendings.responsesTo other)
      (Function.update desk.waiting connection none other) (Sendings.responsesTo other _)
    have whole : toClients (.toClient connection acknowledgement :: handled.emitted) =
        (acknowledgement :: told).map (fun response => (connection, response)) :=
      congrArg (List.cons _) responses
    by_cases same : other = connection
    · rw [same, Function.update_self, Function.update_self, responsesTo_here whole,
        List.append_cons, ← sent]
      exact StageAgrees.sending responses silent _
    · rw [Function.update_of_ne same, Function.update_of_ne same, responsesTo_elsewhere whole same]
      exact agree.stage other
  free := by
    intro ticker free
    change Sendings.feedOf ticker (desk.sendings ++ List.map _ (_ :: handled.emitted)) =
      floor.sendings.feedOf ticker
    rw [Sendings.feedOf_append]
    cases lock with
    | false =>
        change _ ++ (if _ then marketDataOf handled.emitted else []) = _
        rw [silent rfl, ite_self, List.append_nil]
        exact agree.free ticker free
    | true =>
        change Function.update floor.mutexes request.common.ticker (some connection) ticker =
          none at free
        have different : ticker ≠ request.common.ticker := by
          intro same
          rw [same, Function.update_self] at free
          cases free
        rw [Function.update_of_ne different] at free
        rw [if_neg (fun same => different (beq_iff_eq.mp same).symm), List.append_nil]
        exact agree.free ticker free
  taken := by
    intro ticker owner owned
    change ∃ emissions, Function.update floor.stages connection _ owner = _ ∧
      Sendings.feedOf ticker (desk.sendings ++ List.map _ (_ :: handled.emitted)) =
        floor.sendings.feedOf ticker ++ _
    have elsewhere : floor.mutexes ticker = some owner → owner ≠ connection := by
      intro before same
      obtain ⟨emissions, sends, _fed⟩ := agree.taken ticker owner before
      rw [same, standing] at sends
      cases sends
    rw [Sendings.feedOf_append]
    cases lock with
    | false =>
        obtain ⟨emissions, sends, fed⟩ := agree.taken ticker owner owned
        refine ⟨emissions, ?_, ?_⟩
        · rw [Function.update_of_ne (elsewhere owned)]
          exact sends
        · change _ ++ (if _ then marketDataOf handled.emitted else []) = _
          rw [silent rfl, ite_self, List.append_nil]
          exact fed
    | true =>
        change Function.update floor.mutexes request.common.ticker (some connection) ticker =
          some owner at owned
        by_cases same : ticker = request.common.ticker
        · rw [same, Function.update_self] at owned
          rw [← Option.some.inj owned, Function.update_self, same, if_pos (beq_self_eq_true _),
            agree.free _ (locks rfl)]
          exact ⟨handled.emitted, rfl, rfl⟩
        · rw [Function.update_of_ne same] at owned
          obtain ⟨emissions, sends, fed⟩ := agree.taken ticker owner owned
          refine ⟨emissions, ?_, ?_⟩
          · rw [Function.update_of_ne (elsewhere owned)]
            exact sends
          · rw [if_neg (fun here => same (beq_iff_eq.mp here).symm), List.append_nil]
            exact fed
  holder := by
    intro other ticker emissions sends
    change Function.update floor.stages connection _ other = _ at sends
    by_cases same : other = connection
    · rw [same, Function.update_self] at sends
      cases sends
      rw [same]
      exact Function.update_self _ _ _
    · rw [Function.update_of_ne same] at sends
      have before := agree.holder other ticker emissions sends
      cases lock with
      | false => exact before
      | true =>
          have different : ticker ≠ request.common.ticker := by
            intro here
            rw [here, locks rfl] at before
            cases before
          change Function.update floor.mutexes request.common.ticker (some connection) ticker =
            some other
          rw [Function.update_of_ne different]
          exact before

/-- Without the mutex a call tells nothing of its book: it has not come to it. -/
theorem silent_unlocked {books : OrderBooks} (handles : OrderBookManager.handle books request =
    .ok handled) (apart : Floor.reachesBook books request = false) :
    marketDataOf handled.emitted = [] := by
  cases OrderBookManager.handle_passes handles with
  | apart _sameBooks _untraded silent => exact silent
  | called book _result found wanted _calls _written _executions _emitted =>
      rw [Floor.reachesBook, wanted, found] at apart
      cases apart

/-- The message is processed at the desk in one step with the call of the book. -/
theorem call (agree : Agree floor desk) (allowed : floor.findsFree (.call connection) = true)
    (taken : floor.call connection = .ok next) :
    ∃ after, run Desk.step desk [.process connection] = .ok after ∧ Agree next after := by
  unfold Floor.call at taken
  split at taken
  · rename_i request standing
    split at taken
    · cases taken
    · rename_i handled handles
      cases taken
      have stage := agree.stage connection
      rw [standing] at stage
      obtain ⟨clock, message, acknowledgement, waits, prepared, user, sent⟩ :=
        stage.of_acknowledged
      obtain ⟨told, responses⟩ := OrderBookManager.handle_addressed handles
      rw [Exchange.prepare_connection prepared] at responses
      have processes : desk.exchange.processNumbered clock connection request.common.userId
          message =
            .ok { exchange := { floor.exchange with orderbooks := handled.books }
                  executions := handled.executions
                  emitted := .toClient connection acknowledgement :: handled.emitted } := by
        rw [agree.exchange]
        simp only [Exchange.processNumbered, prepared, Exchange.handleOrderType, ne_eq,
          not_true_eq_false, if_false, handles]
        rfl
      rw [← agree.exchange] at user
      refine ⟨_, run_singleton (process_eq waits user processes), ?_⟩
      rw [tickerOf_prepared prepared, agree.executions]
      simp only [Floor.findsFree, standing, Bool.or_eq_true, Bool.not_eq_true',
        Option.isNone_iff_eq_none] at allowed
      refine agree.called standing sent responses ?_ ?_
      · intro locked
        simp only [Floor.tryLock, Bool.and_eq_true, Option.isNone_iff_eq_none] at locked
        exact locked.2
      · intro unlocked
        cases allowed with
        | inl apart => exact silent_unlocked handles apart
        | inr free =>
            rw [Floor.tryLock, free, Option.isNone_none, Bool.and_true] at unlocked
            exact silent_unlocked handles unlocked
  · cases taken

end Call

/-- One response or message is sent. -/
theorem send (agree : Agree floor desk) (taken : floor.step (.send connection) = .ok next) :
    Agree next desk := by
  simp only [Floor.step] at taken
  split at taken
  · rename_i ticker lock emission rest standing
    cases taken
    have stage := agree.stage connection
    rw [standing] at stage
    obtain ⟨waits, silent, later, responses, told⟩ := stage.of_sending
    have parts : emission :: rest = [emission] ++ rest := rfl
    rw [parts, toClients_append] at responses
    obtain ⟨now, further, whole, sentNow, sentLater⟩ := List.append_eq_map_iff.mp responses
    have silentNow : lock = false → marketDataOf [emission] = [] ∧ marketDataOf rest = [] := by
      intro unlocked
      have all := silent unlocked
      rw [parts, OrderBook.marketDataOf_append] at all
      exact List.append_eq_nil_iff.mp all
    have fed : ∀ other, Sendings.feedOf other (floor.sendings ++ [(ticker, emission)]) =
        floor.sendings.feedOf other ++ if ticker == other then marketDataOf [emission] else [] :=
      fun other => Sendings.feedOf_append ticker other floor.sendings [emission]
    have fedElsewhere : ∀ other, floor.mutexes other ≠ some connection →
        Sendings.feedOf other (floor.sendings ++ [(ticker, emission)]) =
          floor.sendings.feedOf other := by
      intro other apart
      rw [fed]
      split
      · rename_i here
        cases lock with
        | false => rw [(silentNow rfl).1, List.append_nil]
        | true =>
            rw [← beq_iff_eq.mp here] at apart
            exact absurd (agree.holder connection ticker _ standing) apart
      · exact List.append_nil _
    exact
      { exchange := agree.exchange
        executions := agree.executions
        stage := by
          intro other
          change StageAgrees floor.exchange.userIds other
            (Function.update floor.stages connection _ other)
            (Sendings.responsesTo other (floor.sendings ++ [emission].map _))
            (desk.waiting other) (desk.sendings.responsesTo other)
          by_cases same : other = connection
          · rw [same, Function.update_self, waits, responsesTo_here sentNow.symm, told, whole,
              ← List.append_assoc]
            exact StageAgrees.sending sentLater.symm (fun unlocked => (silentNow unlocked).2) _
          · rw [Function.update_of_ne same, responsesTo_elsewhere sentNow.symm same]
            exact agree.stage other
        free := by
          intro other free
          refine (agree.free other free).trans (fedElsewhere other ?_).symm
          intro same
          cases same.symm.trans free
        taken := by
          intro other owner owned
          change ∃ emissions, Function.update floor.stages connection _ owner = _ ∧
            desk.sendings.feedOf other =
              Sendings.feedOf other (floor.sendings ++ [(ticker, emission)]) ++ _
          obtain ⟨emissions, sends, before⟩ := agree.taken other owner owned
          by_cases same : owner = connection
          · rw [same, standing] at sends
            cases sends
            rw [same, Function.update_self, fed, if_pos (beq_self_eq_true ticker)]
            refine ⟨rest, rfl, ?_⟩
            rw [before, parts, OrderBook.marketDataOf_append, List.append_assoc]
          · rw [Function.update_of_ne same, fedElsewhere other]
            · exact ⟨emissions, sends, before⟩
            · exact fun here => same (Option.some.inj (owned.symm.trans here))
        holder := by
          intro other held emissions sends
          change Function.update floor.stages connection _ other = _ at sends
          by_cases same : other = connection
          · rw [same, Function.update_self] at sends
            cases sends
            rw [same]
            exact agree.holder connection _ _ standing
          · rw [Function.update_of_ne same] at sends
            exact agree.holder other held emissions sends }
  · cases taken

/-- The call returns, and the mutex is given back. -/
theorem finish (agree : Agree floor desk) (taken : floor.step (.finish connection) = .ok next) :
    Agree next desk := by
  simp only [Floor.step] at taken
  split at taken
  · rename_i ticker lock standing
    cases taken
    have stage := agree.stage connection
    rw [standing] at stage
    obtain ⟨waits, _silent, later, responses, told⟩ := stage.of_sending
    have nothing : later = [] := List.map_eq_nil_iff.mp responses.symm
    rw [nothing, List.append_nil] at told
    have others : ∀ other owner, floor.mutexes other = some owner → owner ≠ connection →
        (if lock then Function.update floor.mutexes ticker none else floor.mutexes) other =
          some owner := by
      intro other owner owned different
      cases lock with
      | false => exact owned
      | true =>
          have elsewhere : other ≠ ticker := by
            intro same
            rw [same, agree.holder connection ticker _ standing] at owned
            exact different (Option.some.inj owned).symm
          rw [if_pos rfl, Function.update_of_ne elsewhere]
          exact owned
    exact
      { exchange := agree.exchange
        executions := agree.executions
        stage := by
          intro other
          change StageAgrees floor.exchange.userIds other
            (Function.update floor.stages connection _ other)
            (floor.sendings.responsesTo other)
            (desk.waiting other) (desk.sendings.responsesTo other)
          by_cases same : other = connection
          · rw [same, Function.update_self, waits, told]
            exact StageAgrees.idle _
          · rw [Function.update_of_ne same]
            exact agree.stage other
        free := by
          intro other free
          cases before : floor.mutexes other with
          | none => exact agree.free other before
          | some owner =>
              by_cases same : owner = connection
              · rw [same] at before
                obtain ⟨emissions, sends, fed⟩ := agree.taken other connection before
                rw [standing] at sends
                cases sends
                exact fed.trans (List.append_nil _)
              · cases (others other owner before same).symm.trans free
        taken := by
          intro other owner owned
          change (if lock then Function.update floor.mutexes ticker none else floor.mutexes) other =
            some owner at owned
          change ∃ emissions, Function.update floor.stages connection _ owner = _ ∧ _
          have before : floor.mutexes other = some owner := by
            cases lock with
            | false => exact owned
            | true =>
                by_cases same : other = ticker
                · rw [same, if_pos rfl, Function.update_self] at owned
                  cases owned
                · rw [if_pos rfl, Function.update_of_ne same] at owned
                  exact owned
          obtain ⟨emissions, sends, fed⟩ := agree.taken other owner before
          have different : owner ≠ connection := by
            intro same
            rw [same, standing] at sends
            cases sends
            rw [if_pos rfl, Function.update_self] at owned
            cases owned
          rw [Function.update_of_ne different]
          exact ⟨emissions, sends, fed⟩
        holder := by
          intro other held emissions sends
          change Function.update floor.stages connection _ other = _ at sends
          by_cases same : other = connection
          · rw [same, Function.update_self] at sends
            cases sends
          · rw [Function.update_of_ne same] at sends
            exact others held other (agree.holder other held emissions sends) same }
  · cases taken

end Agree

/-! ### Whole runs -/

def FloorEvent.reads : FloorEvent → List (ConnectionRef × (Nat → Int64) × OrderEntryRequest)
  | .read connection clock message => [(connection, clock, message)]
  | _ => []

def DeskEvent.reads : DeskEvent → List (ConnectionRef × (Nat → Int64) × OrderEntryRequest)
  | .read connection clock message => [(connection, clock, message)]
  | .process _ => []

/-- One step at the floor: at the desk at most one message is processed whole. -/
theorem Agree.step {floor next : Floor} {desk : Desk} {event : FloorEvent}
    (agree : Agree floor desk) (allowed : floor.findsFree event = true)
    (taken : floor.step event = .ok next) :
    ∃ schedule after, run Desk.step desk schedule = .ok after ∧ Agree next after ∧
      schedule.flatMap DeskEvent.reads = event.reads := by
  cases event with
  | read connection clock message =>
      obtain ⟨after, moved, agrees⟩ := agree.read taken
      exact ⟨_, after, run_singleton moved, agrees, rfl⟩
  | answer connection =>
      obtain ⟨schedule, after, moved, agrees, shape⟩ := agree.answer taken
      refine ⟨schedule, after, moved, agrees, ?_⟩
      cases shape with
      | inl waits => rw [waits]; rfl
      | inr processed => rw [processed]; rfl
  | call connection =>
      obtain ⟨after, moved, agrees⟩ := agree.call allowed taken
      exact ⟨_, after, moved, agrees, rfl⟩
  | send connection => exact ⟨[], desk, rfl, agree.send taken, rfl⟩
  | finish connection => exact ⟨[], desk, rfl, agree.finish taken, rfl⟩

/-- What can be told apart between the two from outside: a connection that waits for its next
message has been sent the same, and of a book that no call has locked the same market data. -/
structure SameOutcome (floor : Floor) (desk : Desk) : Prop where
  exchange : desk.exchange = floor.exchange
  executions : desk.executions = floor.executions
  responses : ∀ connection, floor.stages connection = .idle →
    desk.sendings.responsesTo connection = floor.sendings.responsesTo connection
  feeds : ∀ ticker, floor.mutexes ticker = none →
    desk.sendings.feedOf ticker = floor.sendings.feedOf ticker

theorem Agree.sameOutcome {floor : Floor} {desk : Desk} (agree : Agree floor desk) :
    SameOutcome floor desk where
  exchange := agree.exchange
  executions := agree.executions
  responses := by
    intro connection standing
    have stage := agree.stage connection
    rw [standing] at stage
    exact stage.of_idle.2
  feeds := agree.free

/-- As long as each call finds the mutex of its book free, every run in which messages of several
connections are processed at the same time has the outcome of a run in which each of them is
processed whole. The messages are read, and new orders numbered, in the same order. -/
theorem concurrent_messages_serialise (exchange : Exchange) (events : List FloorEvent)
    (finish : Floor)
    (guarded : Guarded Floor.step (fun floor event => floor.findsFree event = true)
      (Floor.start exchange) events)
    (reached : run Floor.step (Floor.start exchange) events = .ok finish) :
    ∃ schedule desk, run Desk.step (Desk.start exchange) schedule = .ok desk ∧
      SameOutcome finish desk ∧
        schedule.flatMap DeskEvent.reads = events.flatMap FloorEvent.reads := by
  obtain ⟨schedule, desk, moved, agrees, sameReads⟩ :=
    guarded.scheduled (fun _floor _desk _event _next => Agree.step) (start_agree exchange) reached
  exact ⟨schedule, desk, moved, agrees.sameOutcome, sameReads⟩

/-- Two users, of whom the second one trades with the first one in one book, while the first one
has an order for the other book on the way, and then a message under the id of the second one. -/
def busyFloor : List FloorEvent :=
  [.read 1 (fun _ => 0) (orderOn 7 1 false 5), .answer 1, .call 1, .send 1, .finish 1,
    .read 1 (fun _ => 0) (orderOn 8 1 false 4), .read 2 (fun _ => 0) (orderOn 7 2 true 3),
    .answer 2, .answer 1, .call 2, .call 1, .send 2, .send 1, .finish 1, .send 2,
    .read 1 (fun _ => 0)
      (.cancelOrder { orderCommon := { orderId := 2, userId := 2, ticker := 7 } }),
    .answer 1, .send 2, .send 2, .finish 2]

def twoUsers : Exchange :=
  { Exchange.start [7, 8] with
    userIds := (AList.insert 1 1 ∅ : AList (fun _ : ConnectionRef => UserId)).insert 2 2 }

theorem busyFloor_serialises :
    ∃ finish, run Floor.step (Floor.start twoUsers) busyFloor = .ok finish ∧
      finish.sendings.map Prod.fst = [7, 7, 7, 8, 7, 8, 7, 7, 7, 7] ∧
      ∃ schedule desk, run Desk.step (Desk.start twoUsers) schedule = .ok desk ∧
        SameOutcome finish desk ∧
          schedule.flatMap DeskEvent.reads = busyFloor.flatMap FloorEvent.reads := by
  have evaluated : (run Floor.step (Floor.start twoUsers) busyFloor).toOption.map
      (fun finish => finish.sendings.map Prod.fst) = some [7, 7, 7, 8, 7, 8, 7, 7, 7, 7] := by
    decide +kernel
  obtain ⟨finish, reached, sent⟩ := returns_of_view evaluated
  exact ⟨finish, reached, sent,
    concurrent_messages_serialise twoUsers busyFloor finish (by decide +kernel) reached⟩

end Server
end SpotExchange
