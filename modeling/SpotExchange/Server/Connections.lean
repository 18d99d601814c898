/-
The life of the order entry connections: the calls that a connection has started, the
counter that decides when it is deleted, and the table of the clients. The callbacks run
on several threads; each access to a counter, a flag, the table or a queue is one action.

A connection that has been deleted keeps its values here, and what still uses it is
recorded. What the books do with a request is left open: it is any list of sends.
-/

import SpotExchange.Machine.Program
import SpotExchange.Server.OrderEntryStreamConnection
import SpotExchange.Server.WriteQueues

namespace SpotExchange
namespace Server

open Machine Wire

/-- The callbacks with which a connection starts calls other than writes. -/
inductive Callback where
  | initialiseOEConn
  | verifyID
  | readOrderEntryCallback
  deriving DecidableEq, Repr

/-- The members of a connection, then what is known about it: whether it was constructed,
its calls that have not completed, whether the end of its stream has been notified, the
ids under which it was entered into the table, whether it was deleted, and used since, and
whether a loop over the table went on from its entry when that was no longer there. -/
structure Connection where
  currentAsyncOps : UInt64
  onStreamcancelledCalled : Bool
  responses : Writer OrderEntryResponse
  oeRequest : OrderEntryRequest
  userid : UserId
  constructed : Bool
  pending : List Callback
  notified : Bool
  registered : List UserId
  released : Bool
  usedAfterRelease : Bool
  lostEntry : Bool

namespace Connection

def absent : Connection :=
  { currentAsyncOps := 0
    onStreamcancelledCalled := false
    responses := Writer.empty
    oeRequest := .notSet
    userid := 0
    constructed := false
    pending := []
    notified := false
    registered := []
    released := false
    usedAfterRelease := false
    lostEntry := false }

/-- The counter is taken to start at zero; `userid` is not set, and has some value. -/
def construct (userid : UserId) : Connection :=
  { absent with
    currentAsyncOps := 1
    userid := userid
    constructed := true
    pending := [.initialiseOEConn] }

/-- The calls that have been started and have not completed. -/
def outstanding (connection : Connection) : Nat :=
  connection.pending.length + connection.responses.outstanding.length

def touch (connection : Connection) : Connection :=
  { connection with
    usedAfterRelease := connection.usedAfterRelease || connection.released }

section Touch

variable (connection : Connection)

@[simp]
theorem touch_currentAsyncOps : connection.touch.currentAsyncOps = connection.currentAsyncOps := rfl

@[simp]
theorem touch_responses : connection.touch.responses = connection.responses := rfl

@[simp]
theorem touch_pending : connection.touch.pending = connection.pending := rfl

end Touch

inductive Action where
  | asyncOpStarted
  | decrement
  | testCancelled
  | testNoAsyncOps
  | setCancelled
  | setUserid (userid : UserId)
  | testUserid (userid : UserId)
  | read (callback : Callback)
  | writeToClient (response : OrderEntryResponse)
  | sendFromQueue (success : Bool)

/-- The locked sections start a write and count it together. -/
def act (connection : Connection) : Action → Except WriterProblem (Bool × Connection)
  | .asyncOpStarted =>
      .ok (true, { connection with currentAsyncOps := connection.currentAsyncOps + 1 })
  | .decrement =>
      .ok (true, { connection with currentAsyncOps := connection.currentAsyncOps - 1 })
  | .testCancelled => .ok (connection.onStreamcancelledCalled, connection)
  | .testNoAsyncOps => .ok (connection.currentAsyncOps == 0, connection)
  | .setCancelled => .ok (true, { connection with onStreamcancelledCalled := true })
  | .setUserid userid => .ok (true, { connection with userid := userid })
  | .testUserid userid => .ok (userid == connection.userid, connection)
  | .read callback =>
      .ok (true, { connection with pending := connection.pending ++ [callback] })
  | .writeToClient response =>
      match ResponseQueue.writeToClient connection.responses response with
      | .error problem => .error problem
      | .ok responses =>
          .ok (true,
            { connection with
              responses := responses
              currentAsyncOps :=
                if connection.responses.writeInProgress then connection.currentAsyncOps
                else connection.currentAsyncOps + 1 })
  | .sendFromQueue success =>
      match ResponseQueue.sendResponseFromQueue connection.responses success with
      | .error problem => .error problem
      | .ok responses =>
          .ok (true,
            { connection with
              responses := responses
              currentAsyncOps :=
                if success ∧ 1 < connection.responses.queue.length then
                  connection.currentAsyncOps + 1
                else connection.currentAsyncOps })

section Queue

variable {connection next : Connection} {answer : Bool}

/-- A response waits behind a write that is on its way, or is written at once. -/
theorem act_writeToClient {response : OrderEntryResponse}
    (acted : connection.act (.writeToClient response) = .ok (answer, next)) :
    (connection.responses.writeInProgress = true ∧
      next = { connection with responses := connection.responses.pushBack response }) ∨
    (connection.responses.writeInProgress = false ∧
      next =
        { connection with
          responses :=
            { (connection.responses.pushBack response).startWrite response with
              writeInProgress := true }
          currentAsyncOps := connection.currentAsyncOps + 1 }) := by
  cases busy : connection.responses.writeInProgress with
  | true =>
      simp only [act, ResponseQueue.writeToClient, Writer.enqueue, busy, if_true,
        Bool.false_eq_true, if_false] at acted
      cases acted
      exact Or.inl ⟨rfl, rfl⟩
  | false =>
      simp only [act, ResponseQueue.writeToClient, Writer.enqueue, busy, Bool.false_eq_true,
        if_false] at acted
      cases acted
      exact Or.inr ⟨rfl, rfl⟩

/-- The front leaves the queue; then the next response is written, or none. -/
theorem act_sendFromQueue {success : Bool}
    (acted : connection.act (.sendFromQueue success) = .ok (answer, next)) :
    (∃ rest,
      next =
        { connection with
          responses :=
            { connection.responses with
              queue := rest
              writeInProgress := false } }) ∨
    (∃ following others,
      next =
        { connection with
          responses :=
            { connection.responses with queue := following :: others }.startWrite following
          currentAsyncOps := connection.currentAsyncOps + 1 }) := by
  simp only [act, ResponseQueue.sendResponseFromQueue, Writer.complete] at acted
  cases queued : connection.responses.queue with
  | nil =>
      simp only [queued] at acted
      cases acted
  | cons first rest =>
      cases rest with
      | nil =>
          simp only [queued, List.length_cons, List.length_nil, Nat.lt_irrefl, and_false,
            if_false, Nat.zero_add] at acted
          cases acted
          exact Or.inl ⟨[], rfl⟩
      | cons following others =>
          cases success with
          | false =>
              simp only [queued, Bool.false_eq_true, if_false, false_and] at acted
              cases acted
              exact Or.inl ⟨following :: others, rfl⟩
          | true =>
              have several : 1 < (first :: following :: others).length := by simp
              simp only [queued, if_true, true_and, if_pos several] at acted
              cases acted
              exact Or.inr ⟨following, others, rfl⟩

end Queue

end Connection

/-- The table of the clients and all connections, with the removals from the table, each
with who made it and whose entry it was. -/
structure Clients where
  clientStreams : AList (fun _ : UserId => ConnectionRef)
  connections : ConnectionRef → Connection
  removals : List (ConnectionRef × ConnectionRef)

/-- What a thread does in one step to a connection, or with it to the table. -/
inductive Instruction where
  | on (self : ConnectionRef) (action : Connection.Action)
  | createNewConn (self fresh : ConnectionRef) (userid : UserId)
  | find (self : ConnectionRef) (userid : UserId)
  | emplace (self : ConnectionRef) (userid : UserId)
  | terminateConnection (self : ConnectionRef)
  | nextEntry (self : ConnectionRef) (userid : UserId)

namespace Clients

def start : Clients :=
  { clientStreams := ∅
    connections := fun _ => Connection.absent
    removals := [] }

def update (clients : Clients) (self : ConnectionRef) (change : Connection → Connection) :
    Clients :=
  { clients with
    connections :=
      Function.update clients.connections self (change (clients.connections self)) }

/-- An entry is only inserted where there is none. -/
def emplace (clients : Clients) (self : ConnectionRef) (userid : UserId) : Clients :=
  let registered := clients.update self (fun connection =>
    { connection.touch with registered := userid :: connection.registered })
  if (clients.clientStreams.lookup userid).isSome then registered
  else { registered with clientStreams := clients.clientStreams.insert userid self }

def terminate (clients : Clients) (self : ConnectionRef) : Clients :=
  let userid := (clients.connections self).userid
  let deleted := clients.update self (fun connection => { connection.touch with released := true })
  { deleted with
    clientStreams := clients.clientStreams.erase userid
    removals :=
      match clients.clientStreams.lookup userid with
      | none => clients.removals
      | some owner => (self, owner) :: clients.removals }

def effect (clients : Clients) : Instruction → Except WriterProblem (Bool × Clients)
  | .on self action =>
      match (clients.connections self).touch.act action with
      | .error problem => .error problem
      | .ok (answer, connection) => .ok (answer, clients.update self (fun _ => connection))
  | .createNewConn self fresh userid =>
      if (clients.connections fresh).constructed then .error .disabled
      else
        .ok (true,
          (clients.update self Connection.touch).update fresh
            (fun _ => Connection.construct userid))
  | .find self userid =>
      .ok ((clients.clientStreams.lookup userid).isSome, clients.update self Connection.touch)
  | .emplace self userid => .ok (true, clients.emplace self userid)
  | .terminateConnection self => .ok (true, clients.terminate self)
  | .nextEntry self userid =>
      .ok (true,
        clients.update self (fun connection =>
          { connection with
            lostEntry :=
              connection.lostEntry || !(clients.clientStreams.lookup userid).isSome }))

end Clients

/-! ### The callbacks -/

/-- What a book sends to a connection. -/
inductive Send where
  | response (response : OrderEntryResponse)
  | rejection (rejection : OrderEntryRejection)

/-- What surrounds the processing of a message: the common fields that an unset pointer
leads to, the order id that is given out, the time of the acknowledgement, and what the
book sends to whom. -/
structure Processing where
  unset : Info.OrderCommon
  orderId : OrderId
  timestamp : Int64
  sends : List (ConnectionRef × Send)

namespace OrderEntryStreamConnection

open Program

section Callbacks

variable (self : ConnectionRef)

def asyncOpFinished : Program Instruction Unit := do
  perform (.on self .decrement)
  if ← ask (.on self .testCancelled) then
    if ← ask (.on self .testNoAsyncOps) then
      perform (.terminateConnection self)

def onStreamCancelled : Program Instruction Unit := do
  perform (.on self .setCancelled)
  if ← ask (.on self .testNoAsyncOps) then
    perform (.terminateConnection self)

def writeToClient (response : OrderEntryResponse) : Program Instruction Unit :=
  perform (.on self (.writeToClient response))

def sendResponseFromQueue (success : Bool) : Program Instruction Unit := do
  asyncOpFinished self
  perform (.on self (.sendFromQueue success))

/-- The write that this starts is counted twice. -/
def sendRejection (rejection : OrderEntryRejection) : Program Instruction Unit := do
  perform (.on self .asyncOpStarted)
  writeToClient self (.rejection rejection)

def initialiseOEConn (success : Bool) (fresh : ConnectionRef) (userid : UserId) :
    Program Instruction Unit := do
  perform (.createNewConn self fresh userid)
  asyncOpFinished self
  if success then
    perform (.on self .asyncOpStarted)
    perform (.on self (.read .verifyID))

def receive : ConnectionRef × Send → Program Instruction Unit
  | (receiver, .response response) => writeToClient receiver response
  | (receiver, .rejection rejection) => sendRejection receiver rejection

def usageRejection (common : Info.OrderCommon) : OrderEntryResponse :=
  .rejection
    { orderCommon := common
      rejectionResponse := .wrongUserId }

def userIDUsageRejection (common : Info.OrderCommon) : Program Instruction Bool := do
  if ← ask (.on self (.testUserid common.userId)) then
    return false
  else
    perform (.on self .setCancelled)
    writeToClient self (usageRejection common)
    return true

def handleOrderType (processing : Processing) (common : Info.OrderCommon)
    (acknowledgement : OrderEntryResponse) : Program Instruction Unit := do
  if ← userIDUsageRejection self common then
    return ()
  else
    writeToClient self acknowledgement
    each receive processing.sends

def processEntry (processing : Processing) : OrderEntryRequest → Program Instruction Unit
  | .newOrder request =>
      let numbered := Exchange.withOrderId request processing.orderId
      handleOrderType self processing numbered.orderCommon
        (.newOrderAck processing.timestamp numbered)
  | .modifyOrder request =>
      handleOrderType self processing request.orderCommon
        (.modifyOrderAck processing.timestamp request)
  | .cancelOrder request =>
      handleOrderType self processing request.orderCommon
        (.cancelOrderAck processing.timestamp request.orderCommon)
  | .notSet => return ()

def readOrderEntryCallback (success : Bool) (request : OrderEntryRequest)
    (processing : Processing) : Program Instruction Unit := do
  asyncOpFinished self
  if success then
    processEntry self processing request
    perform (.on self .asyncOpStarted)
    perform (.on self (.read .readOrderEntryCallback))

def verifyID (success : Bool) (request : OrderEntryRequest) (processing : Processing) :
    Program Instruction Unit := do
  let common := (Exchange.orderCommon request).getD processing.unset
  if ← ask (.find self common.userId) then
    asyncOpFinished self
    perform (.on self .setCancelled)
    perform (.on self .setCancelled)
    writeToClient self (usageRejection common)
  else
    perform (.emplace self common.userId)
    perform (.on self (.setUserid common.userId))
    readOrderEntryCallback self success request processing

end Callbacks

/-- The loop over the table when the server is shut down. -/
def shutdownServer (entries : List (UserId × ConnectionRef)) : Program Instruction Unit :=
  each (fun entry => do
    onStreamCancelled entry.2
    perform (.nextEntry entry.2 entry.1)) entries

end OrderEntryStreamConnection

/-! ### What is delivered to the server -/

/-- The first connection, the completions, the ends of streams and the shutdown. A
completed read has brought a message if it succeeded. -/
inductive Delivery where
  | makeNewOrderEntryConnection (fresh : ConnectionRef) (userid : UserId)
  | requested (self : ConnectionRef) (success : Bool) (fresh : ConnectionRef) (userid : UserId)
  | firstRead (self : ConnectionRef) (success : Bool) (message : OrderEntryRequest)
      (processing : Processing)
  | nextRead (self : ConnectionRef) (success : Bool) (message : OrderEntryRequest)
      (processing : Processing)
  | written (self : ConnectionRef) (position : Nat) (success : Bool)
  | streamDone (self : ConnectionRef)
  | shutdownServer (order : List UserId)

namespace Connection

/-- The connection has started a call with this callback. -/
def Awaits (connection : Connection) (callback : Callback) : Prop :=
  connection.constructed = true ∧ callback ∈ connection.pending

instance (connection : Connection) (callback : Callback) :
    Decidable (connection.Awaits callback) :=
  inferInstanceAs (Decidable (_ ∧ _))

def completed (connection : Connection) (callback : Callback) : Connection :=
  { connection with pending := connection.pending.erase callback }

def reads (connection : Connection) (callback : Callback) (success : Bool)
    (message : OrderEntryRequest) : Connection :=
  { connection with
    pending := connection.pending.erase callback
    oeRequest := if success then message else connection.oeRequest }

def written (connection : Connection) (position : Nat) : Connection :=
  { connection with
    responses :=
      { connection.responses with
        outstanding := connection.responses.outstanding.eraseIdx position } }

end Connection

namespace Clients

open OrderEntryStreamConnection

/-- A call completes once, after it was started; the end of a stream is notified once. -/
def deliver (clients : Clients) :
    Delivery → Except WriterProblem (Clients × Program Instruction Unit)
  | .makeNewOrderEntryConnection fresh userid =>
      if (clients.connections fresh).constructed then .error .disabled
      else .ok (clients.update fresh (fun _ => Connection.construct userid), .done ())
  | .requested self success fresh userid =>
      if (clients.connections self).Awaits .initialiseOEConn then
        .ok (clients.update self (fun connection => connection.completed .initialiseOEConn),
          initialiseOEConn self success fresh userid)
      else .error .disabled
  | .firstRead self success message processing =>
      if (clients.connections self).Awaits .verifyID then
        .ok (clients.update self (fun connection => connection.reads .verifyID success message),
          verifyID self success
            ((clients.connections self).reads .verifyID success message).oeRequest processing)
      else .error .disabled
  | .nextRead self success message processing =>
      if (clients.connections self).Awaits .readOrderEntryCallback then
        .ok (clients.update self (fun connection =>
            connection.reads .readOrderEntryCallback success message),
          readOrderEntryCallback self success
            ((clients.connections self).reads .readOrderEntryCallback success message).oeRequest
            processing)
      else .error .disabled
  | .written self position success =>
      if position < (clients.connections self).responses.outstanding.length then
        .ok (clients.update self (fun connection => connection.written position),
          sendResponseFromQueue self success)
      else .error .disabled
  | .streamDone self =>
      if (clients.connections self).constructed ∧ ¬(clients.connections self).notified then
        .ok (clients.update self (fun connection => { connection with notified := true }),
          onStreamCancelled self)
      else .error .disabled
  | .shutdownServer order =>
      if order.Perm clients.clientStreams.keys then
        .ok (clients,
          shutdownServer (order.filterMap (fun userid =>
            (clients.clientStreams.lookup userid).map (fun connection => (userid, connection)))))
      else .error .disabled

/-- One delivery, handled to its end. -/
def step : Clients → Delivery → Except WriterProblem Clients :=
  handle deliver effect

end Clients

end Server
end SpotExchange
