/-
The connections with the books behind them. The callbacks of the connections run with what the
books really do with each message, and each runs to its end before the next one. Seen from outside
this is a session: the messages that are read are processed one after the other, and connections
are terminated in between.
-/

import SpotExchange.Server.FirstRead
import SpotExchange.Server.Serial

namespace SpotExchange
namespace Server

open Engine Machine Program Wire OrderEntryStreamConnection

/-! ### The host -/

/-- A rejection by a book is sent by another function than its other responses. -/
def Send.ofMessage : OrderEntryResponse → Send
  | .rejection refused => .rejection refused
  | other => .response other

/-- The books, the last order id given out, what was traded, and the market data that the
dispatcher was handed. -/
structure Marketplace where
  orderbooks : OrderBooks
  orderidGenerator : OrderId
  executions : List (Ticker × Execution)
  feed : List MarketDataResponse

structure Host where
  clients : Clients
  market : Marketplace

inductive HostProblem where
  | writer (problem : WriterProblem)
  | server (problem : Fault)

/-- The deliveries. A read comes with the clock that is read while its message is processed, and
with what an unset pointer to common fields leads to. -/
inductive HostEvent where
  | makeNewOrderEntryConnection (fresh : ConnectionRef) (userid : UserId)
  | requested (self : ConnectionRef) (success : Bool) (fresh : ConnectionRef) (userid : UserId)
  | firstRead (self : ConnectionRef) (success : Bool) (clock : Nat → Int64)
      (message : OrderEntryRequest) (unset : Info.OrderCommon)
  | nextRead (self : ConnectionRef) (success : Bool) (clock : Nat → Int64)
      (message : OrderEntryRequest) (unset : Info.OrderCommon)
  | written (self : ConnectionRef) (position : Nat) (success : Bool)
  | streamDone (self : ConnectionRef)
  | shutdownServer (order : List UserId)

namespace Marketplace

def created (tickers : List Ticker) : Marketplace :=
  { orderbooks := OrderBookManager.created tickers
    orderidGenerator := 1
    executions := []
    feed := [] }

/-- The generator moves on with every new order. -/
def orderIdFor (market : Marketplace) : OrderEntryRequest → OrderId
  | .newOrder _ => market.orderidGenerator + 1
  | _ => market.orderidGenerator

def numbered (orderId : OrderId) : OrderEntryRequest → OrderEntryRequest
  | .newOrder request => .newOrder (Exchange.withOrderId request orderId)
  | message => message

def handled (market : Marketplace) (handled : Handled) : Marketplace :=
  { market with
    orderbooks := handled.books
    executions := market.executions ++ handled.executions
    feed := market.feed ++ marketDataOf handled.emitted }

/-- A message is numbered, and handed to its book if it bears the user id of its connection. -/
def process (market : Marketplace) (clock : Nat → Int64) (self : ConnectionRef) (userid : UserId)
    (message : OrderEntryRequest) : Except Fault (Marketplace × List Emission) :=
  let orderId := market.orderIdFor message
  let generated : Marketplace := { market with orderidGenerator := orderId }
  match Exchange.prepare clock self (numbered orderId message) with
  | none => .ok (generated, [])
  | some (_, request) =>
      if request.common.userId ≠ userid then .ok (generated, [])
      else
        (OrderBookManager.handle market.orderbooks request).map (fun handled =>
          (generated.handled handled, handled.emitted))

/-- What surrounds a message to which the books respond like this. -/
def processing (market : Marketplace) (clock : Nat → Int64) (message : OrderEntryRequest)
    (unset : Info.OrderCommon) (emitted : List Emission) : Processing :=
  { unset := unset
    orderId := market.orderIdFor message
    timestamp := clock 0
    sends := (toClients emitted).map (fun sent => (sent.1, Send.ofMessage sent.2)) }

end Marketplace

namespace Host

def start (tickers : List Ticker) : Host :=
  { clients := Clients.start
    market := Marketplace.created tickers }

def deliver (host : Host) (delivery : Delivery) : Except HostProblem Host :=
  match host.clients.step delivery with
  | .error problem => .error (.writer problem)
  | .ok clients => .ok { host with clients := clients }

/-- The callback of a read runs with what the books do, if it comes to its message. -/
def read (host : Host) (processes : Bool) (clock : Nat → Int64) (self : ConnectionRef)
    (userid : UserId) (message : OrderEntryRequest) (unset : Info.OrderCommon)
    (delivery : Processing → Delivery) : Except HostProblem Host :=
  if processes then
    match host.market.process clock self userid message with
    | .error problem => .error (.server problem)
    | .ok (market, emitted) =>
        { host with market := market }.deliver
          (delivery (host.market.processing clock message unset emitted))
  else host.deliver (delivery (host.market.processing clock message unset []))

def step (host : Host) : HostEvent → Except HostProblem Host
  | .makeNewOrderEntryConnection fresh userid =>
      host.deliver (.makeNewOrderEntryConnection fresh userid)
  | .requested self success fresh userid => host.deliver (.requested self success fresh userid)
  | .firstRead self success clock message unset =>
      let request := ((host.clients.connections self).reads .verifyID success message).oeRequest
      let userid := ((Exchange.orderCommon request).getD unset).userId
      host.read (success && (host.clients.clientStreams.lookup userid).isNone) clock self userid
        message unset (.firstRead self success message)
  | .nextRead self success clock message unset =>
      host.read success clock self (host.clients.connections self).userid message unset
        (.nextRead self success message)
  | .written self position success => host.deliver (.written self position success)
  | .streamDone self => host.deliver (.streamDone self)
  | .shutdownServer order => host.deliver (.shutdownServer order)

end Host

/-- The first read of a connection succeeds and brings an order. -/
def HostEvent.regular : HostEvent → Bool
  | .firstRead _ success _ message _ => success && (Exchange.orderCommon message).isSome
  | _ => true

/-- The message that is read in an event, and the connection on which it is read. -/
def HostEvent.reads : HostEvent → List (ConnectionRef × OrderEntryRequest)
  | .firstRead self success _ message _ => if success then [(self, message)] else []
  | .nextRead self success _ message _ => if success then [(self, message)] else []
  | _ => []

def Event.reads : Event → List (ConnectionRef × OrderEntryRequest)
  | .verifyID _ connection message => [(connection, message)]
  | .readOrderEntry _ connection message => [(connection, message)]
  | .terminateConnection _ _ => []

/-! ### What is seen of the connections -/

/-- The user id of a connection, what was handed to its queue, the calls other than writes that
it has started, and whether there is the connection. -/
@[ext]
structure Seen where
  userid : UserId
  sent : List OrderEntryResponse
  pending : List Callback
  constructed : Bool

namespace Seen

def tell (seen : Seen) (responses : List OrderEntryResponse) : Seen :=
  { seen with sent := seen.sent ++ responses }

def awaits (seen : Seen) (callback : Callback) : Seen :=
  { seen with pending := seen.pending ++ [callback] }

def completed (seen : Seen) (callback : Callback) : Seen :=
  { seen with pending := seen.pending.erase callback }

def named (seen : Seen) (userid : UserId) : Seen := { seen with userid := userid }

def act (seen : Seen) : Connection.Action → Seen
  | .setUserid userid => seen.named userid
  | .read callback => seen.awaits callback
  | .writeToClient response => seen.tell [response]
  | _ => seen

end Seen

def Connection.seen (connection : Connection) : Seen :=
  { userid := connection.userid
    sent := connection.responses.enqueued
    pending := connection.pending
    constructed := connection.constructed }

/-- The table of the clients, and what is seen of each connection. -/
@[ext]
structure View where
  table : AList (fun _ : UserId => ConnectionRef)
  seen : ConnectionRef → Seen

def Clients.view (clients : Clients) : View :=
  { table := clients.clientStreams
    seen := fun connection => (clients.connections connection).seen }

namespace View

variable (view : View) (self : ConnectionRef)

def change (seen : Seen) : View := { view with seen := Function.update view.seen self seen }

def entered (userid : UserId) : View :=
  if (view.table.lookup userid).isSome then view
  else { view with table := view.table.insert userid self }

/-- The entries under the user ids of some connections are gone. -/
def without (gone : List ConnectionRef) : View :=
  { view with
    table := gone.foldl (fun table connection => table.erase (view.seen connection).userid)
      view.table }

/-- What one instruction changes of what is seen. -/
def after : Instruction → View
  | .on self action => view.change self ((view.seen self).act action)
  | .createNewConn _ fresh userid => view.change fresh (Connection.construct userid).seen
  | .find _ _ => view
  | .emplace self userid => view.entered self userid
  | .terminateConnection self => view.without [self]
  | .nextEntry _ _ => view

variable {view self} {seen : Seen}

@[simp]
theorem change_self (seen : Seen) : (view.change self seen).seen self = seen := by
  unfold change
  exact Function.update_self self seen view.seen

theorem change_other {other : ConnectionRef} (different : other ≠ self) (seen : Seen) :
    (view.change self seen).seen other = view.seen other := by
  unfold change
  exact Function.update_of_ne different seen view.seen

end View

namespace Clients

variable {clients next : Clients} {self : ConnectionRef}

end Clients

/-! ### What the callbacks change of what is seen -/

namespace Clients

/-- This is what is seen, but for entries that have been removed. -/
def Shows (view : View) (clients : Clients) : Prop := ∃ gone, clients.view = view.without gone

section Programs

variable {self : ConnectionRef} {view : View} {clients next : Clients}

theorem Shows.refl (clients : Clients) : Shows clients.view clients := ⟨[], rfl⟩

/-- What a message that is numbered is answered, given what its book responds. -/
def told (userid : UserId) (common : Info.OrderCommon) (acknowledgement : OrderEntryResponse)
    (responses : List OrderEntryResponse) : List OrderEntryResponse :=
  if common.userId = userid then acknowledgement :: responses else [usageRejection common]

end Programs

/-! ### The callbacks of the reads -/

section Reads

variable {self : ConnectionRef} {view : View} {request : OrderEntryRequest}
  {processing : Processing} {answer : List OrderEntryResponse}

end Reads

end Clients

/-! ### Messages at the books -/

/-- The session and the market go the same way, and this is what the connection is told. -/
structure Reacted (exchange : Exchange) (market next : Marketplace) (connection : ConnectionRef)
    (reaction : Reaction) (answer : List OrderEntryResponse) : Prop where
  exchange : reaction.exchange =
    { exchange with
      orderbooks := next.orderbooks
      orderidGenerator := next.orderidGenerator }
  executions : next.executions = market.executions ++ reaction.executions
  feed : next.feed = market.feed ++ marketDataOf reaction.emitted
  told : toClients reaction.emitted = answer.map (fun response => (connection, response))

section Messages

variable {market next : Marketplace} {exchange : Exchange} {clock : Nat → Int64}
  {self : ConnectionRef} {userid : UserId} {message : OrderEntryRequest}
  {emitted : List Emission}

end Messages

/-! ### The session that is seen -/

/-- What a session knows of a connection: the user id under which it is registered, which there
is where a further message is awaited, and the responses that it was sent. -/
structure Agreed (registered : Option UserId) (responses : List OrderEntryResponse)
    (seen : Seen) : Prop where
  named : ∀ userid, registered = some userid → seen.userid = userid
  reading : .readOrderEntryCallback ∈ seen.pending → registered.isSome = true
  told : seen.sent = responses
  absent : seen.constructed = false → registered = none ∧ responses = []

structure Mirrors (view : View) (market : Marketplace) (session : Session) : Prop where
  table : view.table = session.exchange.clientStreams
  agreed : ∀ connection, Agreed (session.exchange.userIds.lookup connection)
    (session.responsesTo connection) (view.seen connection)
  orderbooks : session.exchange.orderbooks = market.orderbooks
  orderidGenerator : session.exchange.orderidGenerator = market.orderidGenerator
  executions : session.executions = market.executions
  feed : session.feed = market.feed

namespace Mirrors

variable {view : View} {market next : Marketplace} {session : Session} {self : ConnectionRef}

theorem start (tickers : List Ticker) :
    Mirrors Clients.start.view (Marketplace.created tickers) (Session.start tickers) where
  table := rfl
  agreed := by
    intro connection
    constructor
    · intro userid registered
      cases registered
    · intro reading
      cases reading
    · rfl
    · exact fun _ => ⟨rfl, rfl⟩
  orderbooks := rfl
  orderidGenerator := rfl
  executions := rfl
  feed := rfl

theorem change (mirrors : Mirrors view market session) {seen : Seen}
    (own : Agreed (session.exchange.userIds.lookup self) (session.responsesTo self) seen) :
    Mirrors (view.change self seen) market session where
  table := mirrors.table
  agreed := by
    intro connection
    by_cases here : connection = self
    · rw [here, View.change_self]
      exact own
    · rw [View.change_other here]
      exact mirrors.agreed connection
  orderbooks := mirrors.orderbooks
  orderidGenerator := mirrors.orderidGenerator
  executions := mirrors.executions
  feed := mirrors.feed

theorem completes (mirrors : Mirrors view market session) (self : ConnectionRef)
    (callback : Callback) :
    Mirrors (view.change self ((view.seen self).completed callback)) market session := by
  have agreed := mirrors.agreed self
  apply mirrors.change
  exact
    { named := agreed.named
      reading := fun awaited => agreed.reading (List.mem_of_mem_erase awaited)
      told := agreed.told
      absent := agreed.absent }

/-- The entry under the user id of a connection goes when the connection is terminated. -/
theorem terminates (mirrors : Mirrors view market session) (gone : ConnectionRef) :
    ∃ finish, session.step (.terminateConnection gone (view.seen gone).userid) = .ok finish ∧
      Mirrors (view.without [gone]) market finish := by
  have named : (session.exchange.userIds.lookup gone).getD (view.seen gone).userid =
      (view.seen gone).userid := by
    cases registered : session.exchange.userIds.lookup gone with
    | none => rfl
    | some userid => exact ((mirrors.agreed gone).named userid registered).symm
  let erased : Exchange :=
    { session.exchange with
      clientStreams := session.exchange.clientStreams.erase
        ((session.exchange.userIds.lookup gone).getD (view.seen gone).userid) }
  have steps : session.step (.terminateConnection gone (view.seen gone).userid) =
      .ok { session with exchange := erased } := by
    have appended : session.step (.terminateConnection gone (view.seen gone).userid) =
        .ok { exchange := erased
              requests := session.requests ++ []
              executions := session.executions ++ []
              emitted := session.emitted ++ [] } := rfl
    rw [appended, List.append_nil, List.append_nil, List.append_nil]
  refine ⟨_, steps, ?_⟩
  exact
    { table := by
        change view.table.erase _ = session.exchange.clientStreams.erase _
        rw [named, mirrors.table]
      agreed := mirrors.agreed
      orderbooks := mirrors.orderbooks
      orderidGenerator := mirrors.orderidGenerator
      executions := mirrors.executions
      feed := mirrors.feed }

/-- Induction over the connections that are gone. -/
theorem ends (mirrors : Mirrors view market session) (gone : List ConnectionRef) :
    ∃ finish, run Session.step session
        (gone.map (fun connection =>
          .terminateConnection connection (view.seen connection).userid)) = .ok finish ∧
      Mirrors (view.without gone) market finish := by
  induction gone generalizing view session with
  | nil => exact ⟨session, rfl, mirrors⟩
  | cons connection rest ih =>
      obtain ⟨middle, taken, further⟩ := mirrors.terminates connection
      obtain ⟨finish, reached, ended⟩ := ih further
      refine ⟨finish, ?_, ended⟩
      simp only [List.map_cons, run, taken]
      exact reached

/-- A message adds its answer to what its connection was sent. -/
theorem hears (mirrors : Mirrors view market session) {event : Event} {reaction : Reaction}
    {answer : List OrderEntryResponse} {exchange : Exchange}
    (reacts : session.exchange.react event = .ok reaction)
    (reacted : Reacted exchange market next self reaction answer)
    {table : AList (fun _ : UserId => ConnectionRef)} (entries : table = exchange.clientStreams)
    {seen : Seen}
    (own : Agreed (exchange.userIds.lookup self) (session.responsesTo self ++ answer) seen)
    (others : ∀ other, other ≠ self →
      exchange.userIds.lookup other = session.exchange.userIds.lookup other) :
    ∃ finish, session.step event = .ok finish ∧
      Mirrors (({ view with table := table } : View).change self seen) next finish := by
  have sent : ∀ connection,
      (((toClients (session.emitted ++ reaction.emitted)).filter
          (fun sent => sent.1 == connection)).map Prod.snd) =
        session.responsesTo connection ++ if self == connection then answer else [] := by
    intro connection
    have own := Answer.sent_to
      { connection := self
        executions := []
        responses := answer } connection
    rw [toClients_append, reacted.told, List.filter_append, List.map_append]
    exact congrArg _ own
  have steps : session.step event =
      .ok { exchange := reaction.exchange
            requests := session.requests ++ (session.exchange.issues event).toList
            executions := session.executions ++ reaction.executions
            emitted := session.emitted ++ reaction.emitted } := by
    rw [Session.step, reacts]
    rfl
  refine ⟨_, steps, ?_⟩
  exact
    { table := by
        rw [reacted.exchange]
        exact entries
      agreed := by
        intro connection
        rw [Session.responsesTo, sent connection, reacted.exchange]
        by_cases here : connection = self
        · rw [here, if_pos (beq_self_eq_true self), View.change_self]
          exact own
        · rw [if_neg (fun same => here (beq_iff_eq.mp same).symm), List.append_nil,
            View.change_other here, others connection here]
          exact mirrors.agreed connection
      orderbooks := by
        rw [reacted.exchange]
      orderidGenerator := by
        rw [reacted.exchange]
      executions := by
        rw [reacted.executions, ← mirrors.executions]
      feed := by
        rw [reacted.feed, ← mirrors.feed]
        exact OrderBook.marketDataOf_append _ _ }

end Mirrors

/-! ### Each delivery is a stretch of the session -/

/-- Some events of the session, which read this, lead to what is seen now. -/
def Matched (session : Session) (reads : List (ConnectionRef × OrderEntryRequest))
    (clients : Clients) (market : Marketplace) : Prop :=
  ∃ schedule finish, run Session.step session schedule = .ok finish ∧
    Mirrors clients.view market finish ∧ schedule.flatMap Event.reads = reads

section Deliveries

variable {host : Host} {next : Clients} {session : Session} {self : ConnectionRef}
  {market : Marketplace} {delivery : Delivery}

theorem terminations_read_nothing (view : View) (gone : List ConnectionRef) :
    (gone.map (fun connection =>
      Event.terminateConnection connection (view.seen connection).userid)).flatMap Event.reads =
        [] := by
  induction gone with
  | nil => rfl
  | cons connection rest ih =>
      rw [List.map_cons, List.flatMap_cons, ih]
      rfl

/-- Nothing was read, and connections were terminated. -/
theorem Mirrors.matched {view : View} (mirrors : Mirrors view market session)
    (shows : Clients.Shows view next) : Matched session [] next market := by
  obtain ⟨gone, same⟩ := shows
  obtain ⟨finish, reached, ended⟩ := mirrors.ends gone
  rw [← same] at ended
  exact ⟨_, finish, reached, ended, terminations_read_nothing view gone⟩

theorem delivered {clients : Clients} (taken : clients.step delivery = .ok next) :
    ∃ begun program, clients.deliver delivery = .ok (begun, program) ∧
      program.alone Clients.effect begun = .ok ((), next) := by
  unfold Clients.step handle at taken
  split at taken
  · cases taken
  · rename_i begun program started
    obtain ⟨⟨value, finish⟩, ran, same⟩ := map_eq_ok taken
    change finish = next at same
    rw [← same]
    exact ⟨begun, program, started, ran⟩

end Deliveries

end Server
end SpotExchange
