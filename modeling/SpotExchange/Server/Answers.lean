/-
The conversation at the connections: each message is answered at the connection on which it was
read, by the responses of one block, and nothing else is ever sent.
-/

import SpotExchange.Engine.Reports
import SpotExchange.Server.Exceptions
import SpotExchange.Server.Feed

namespace SpotExchange
namespace Server

open Engine Machine Wire

/-! ### The answer to a message -/

/-- What acknowledges a message, with the common fields of its order as they are then known, and
the quantity it asks for. A new order is known by the order id it has been given. -/
inductive Acknowledges :
    OrderEntryRequest → Info.OrderCommon → UInt32 → OrderEntryResponse → Prop
  | newOrder (timestamp : Int64) (request : NewOrder) (orderId : OrderId) :
      Acknowledges (.newOrder request) { request.orderCommon with orderId := orderId }
        request.quantity
        (.newOrderAck timestamp
          { request with orderCommon := { request.orderCommon with orderId := orderId } })
  | modifyOrder (timestamp : Int64) (request : ModifyOrder) :
      Acknowledges (.modifyOrder request) request.orderCommon request.quantity
        (.modifyOrderAck timestamp request)
  | cancelOrder (timestamp : Int64) (request : CancelOrder) :
      Acknowledges (.cancelOrder request) request.orderCommon 0
        (.cancelOrderAck timestamp request.orderCommon)

/-- What is left of the other orders in the book that a request names. -/
def restingFor (books : OrderBooks) (common : Info.OrderCommon) : OrderId → UInt32 :=
  (books.lookup common.ticker).elim (fun _ => 0) (fun book => book.restingBeside common)

/-- The executions that a message leads to when it meets these books, and the responses to it:
none to a message without an order, one rejection where the user id is refused, before the order
is numbered or after, and otherwise the acknowledgement and what follows it. -/
inductive AnswerTo (books : OrderBooks) :
    OrderEntryRequest → List (Ticker × Execution) → List OrderEntryResponse → Prop
  | ignored : AnswerTo books .notSet [] []
  | turnedAway {message : OrderEntryRequest} {common : Info.OrderCommon}
      (carried : Exchange.orderCommon message = some common) :
      AnswerTo books message []
        [.rejection { orderCommon := common, rejectionResponse := .wrongUserId }]
  | refused {message : OrderEntryRequest} {common : Info.OrderCommon} {quantity : UInt32}
      {acknowledgement : OrderEntryResponse}
      (acknowledges : Acknowledges message common quantity acknowledgement) :
      AnswerTo books message []
        [.rejection { orderCommon := common, rejectionResponse := .wrongUserId }]
  | accepted {message : OrderEntryRequest} {common : Info.OrderCommon} {quantity : UInt32}
      {acknowledgement : OrderEntryResponse} {executions : List Execution}
      {responses : List OrderEntryResponse}
      (acknowledges : Acknowledges message common quantity acknowledgement)
      (replied : Replied common (restingFor books common) quantity executions responses) :
      AnswerTo books message (executions.map (fun execution => (common.ticker, execution)))
        (acknowledgement :: responses)

/-- The answer to an event, and where it is sent. -/
structure Answer where
  connection : ConnectionRef
  executions : List (Ticker × Execution)
  responses : List OrderEntryResponse

inductive AnsweredBy (books : OrderBooks) : Event → Answer → Prop
  | verifyID (clock : Nat → Int64) {connection : ConnectionRef} {message : OrderEntryRequest}
      {executions : List (Ticker × Execution)} {responses : List OrderEntryResponse}
      (answers : AnswerTo books message executions responses) :
      AnsweredBy books (.verifyID clock connection message)
        { connection := connection
          executions := executions
          responses := responses }
  | readOrderEntry (clock : Nat → Int64) {connection : ConnectionRef}
      {message : OrderEntryRequest} {executions : List (Ticker × Execution)}
      {responses : List OrderEntryResponse}
      (answers : AnswerTo books message executions responses) :
      AnsweredBy books (.readOrderEntry clock connection message)
        { connection := connection
          executions := executions
          responses := responses }
  | terminateConnection (connection : ConnectionRef) (unset : UserId) :
      AnsweredBy books (.terminateConnection connection unset)
        { connection := connection
          executions := []
          responses := [] }

def Event.connection : Event → ConnectionRef
  | .verifyID _ connection _ => connection
  | .readOrderEntry _ connection _ => connection
  | .terminateConnection connection _ => connection

theorem AnsweredBy.connection_eq {books : OrderBooks} {event : Event} {answer : Answer}
    (answered : AnsweredBy books event answer) : answer.connection = event.connection := by
  cases answered with
  | verifyID clock answers => rfl
  | readOrderEntry clock answers => rfl
  | terminateConnection connection unset => rfl

/-- The responses of an answer, with their connection. -/
def Answer.sent (answer : Answer) : List (ConnectionRef × OrderEntryResponse) :=
  answer.responses.map (fun response => (answer.connection, response))

/-! ### Requests at the manager -/

namespace OrderBookManager

/-- All responses go to the one connection, and they are a reply to such a request. -/
def RepliesTo (books : OrderBooks) (request : Request) (handled : Handled) : Prop :=
  ∃ executions responses,
    handled.executions =
        executions.map (fun execution => (request.common.ticker, execution)) ∧
      toClients handled.emitted =
        responses.map (fun response => (request.connection, response)) ∧
      Replied request.common (restingFor books request.common) request.quantity executions
        responses

theorem repliesTo_rejection (books : OrderBooks) (request : Request) (reason : RejectionReason) :
    RepliesTo books request
      { books := books
        executions := []
        emitted := [OrderBook.rejection request.connection request.common reason] } :=
  ⟨[], _, rfl, rfl,
    Replied.refused [reason] (List.cons_ne_nil reason []) (List.nodup_singleton reason)⟩

theorem toOrderBook_replies {books : OrderBooks} {request : Request} {handled : Handled}
    {reason : RejectionReason}
    (own : AllOwn books)
    (handles : toOrderBook books request.common.ticker
      (OrderBook.rejection request.connection request.common reason) request = .ok handled) :
    RepliesTo books request handled := by
  unfold toOrderBook at handles
  split at handles
  · cases handles
    exact repliesTo_rejection books request reason
  · rename_i book found
    obtain ⟨result, calls, done⟩ := bind_eq_ok handles
    obtain ⟨responses, told, replied⟩ := OrderBook.call_replies (own _ book found) calls
    have resting : restingFor books request.common = book.restingBeside request.common := by
      rw [restingFor, found]
      rfl
    rw [← resting] at replied
    cases done
    exact ⟨result.executions, responses, rfl, told, replied⟩

theorem handle_replies {books : OrderBooks} {request : Request} {handled : Handled}
    (own : AllOwn books) (handles : handle books request = .ok handled) :
    RepliesTo books request handled := by
  cases request with
  | add clock order => exact toOrderBook_replies own handles
  | cancel clock cancel => exact toOrderBook_replies own handles
  | modify clock changes =>
      simp only [handle, modifyOrder] at handles
      split at handles
      · cases handles
        exact repliesTo_rejection books (.modify clock changes) .modificationTrivial
      · exact toOrderBook_replies own handles

/-- Whatever the books are like, the responses go to the connection of the request. -/
theorem handle_addressed {books : OrderBooks} {request : Request} {handled : Handled}
    (handles : handle books request = .ok handled) :
    Addressed request.connection handled.emitted := by
  have rejected : ∀ reason, Addressed request.connection
      [OrderBook.rejection request.connection request.common reason] :=
    fun reason => addressed_rejections request.connection request.common [reason]
  have passed : ∀ {reason}, toOrderBook books request.common.ticker
      (OrderBook.rejection request.connection request.common reason) request = .ok handled →
        Addressed request.connection handled.emitted := by
    intro reason passes
    unfold toOrderBook at passes
    split at passes
    · cases passes
      exact rejected reason
    · obtain ⟨result, calls, done⟩ := bind_eq_ok passes
      cases done
      exact OrderBook.call_addressed calls
  cases request with
  | add clock order => exact passed handles
  | cancel clock cancel => exact passed handles
  | modify clock changes =>
      simp only [handle, modifyOrder] at handles
      split at handles
      · cases handles
        exact rejected .modificationTrivial
      · exact passed handles

end OrderBookManager

/-! ### Events at the connections -/

namespace Exchange

variable {exchange : Exchange} {connection : ConnectionRef} {userid : UserId}
  {reaction : Reaction} {clock : Nat → Int64} {message : OrderEntryRequest}

/-- The reaction to a message is an answer to it. -/
def Responded (books : OrderBooks) (connection : ConnectionRef) (message : OrderEntryRequest)
    (reaction : Reaction) : Prop :=
  ∃ responses, AnswerTo books message reaction.executions responses ∧
    toClients reaction.emitted = responses.map (fun response => (connection, response))

theorem handleOrderType_answers {acknowledgement : OrderEntryResponse}
    {processOrderEntry : OrderBooks → Except Fault Handled} (request : Request)
    (hands : ∀ books, processOrderEntry books = OrderBookManager.handle books request)
    (acknowledges : Acknowledges message request.common request.quantity acknowledgement)
    (own : OrderBookManager.AllOwn exchange.orderbooks)
    (returned : exchange.handleOrderType request.connection userid request.common acknowledgement
      processOrderEntry = .ok reaction) :
    Responded exchange.orderbooks request.connection message reaction := by
  unfold handleOrderType at returned
  split at returned
  · cases returned
    exact ⟨_, AnswerTo.refused acknowledges, rfl⟩
  · rw [hands] at returned
    obtain ⟨handled, handles, done⟩ := bind_eq_ok returned
    obtain ⟨executions, responses, executed, told, replied⟩ :=
      OrderBookManager.handle_replies own handles
    cases done
    refine ⟨acknowledgement :: responses, ?_, congrArg _ told⟩
    rw [executed]
    exact AnswerTo.accepted acknowledges replied

theorem processEntry_responded (own : OrderBookManager.AllOwn exchange.orderbooks)
    (returned : exchange.processEntry clock connection userid message = .ok reaction) :
    Responded exchange.orderbooks connection message reaction := by
  cases message with
  | newOrder request =>
      exact @handleOrderType_answers
        { exchange with orderidGenerator := exchange.orderidGenerator + 1 } userid reaction
        (.newOrder request) _ _
        (.add (fun reading => clock (reading + 1))
          (newOrderOf connection (withOrderId request (exchange.orderidGenerator + 1))))
        (fun _books => rfl) (Acknowledges.newOrder _ _ _) own returned
  | modifyOrder request =>
      exact handleOrderType_answers
        (.modify (fun reading => clock (reading + 1)) (modifyOrderOf connection request))
        (fun _books => rfl) (Acknowledges.modifyOrder _ _) own returned
  | cancelOrder request =>
      exact handleOrderType_answers
        (.cancel (fun reading => clock (reading + 1)) (cancelOrderOf connection request))
        (fun _books => rfl) (Acknowledges.cancelOrder _ _) own returned
  | notSet =>
      cases returned
      exact ⟨[], AnswerTo.ignored, rfl⟩

theorem verifyID_responded (own : OrderBookManager.AllOwn exchange.orderbooks)
    (returned : exchange.verifyID clock connection message = .ok reaction) :
    Responded exchange.orderbooks connection message reaction := by
  unfold verifyID at returned
  split at returned
  · cases returned
  · rename_i common carried
    split at returned
    · cases returned
      exact ⟨_, AnswerTo.turnedAway carried, rfl⟩
    · have responded := processEntry_responded (by exact own) returned
      exact responded

/-- Every event is answered at its own connection. -/
theorem react_answers {event : Event} (own : OrderBookManager.AllOwn exchange.orderbooks)
    (returned : exchange.react event = .ok reaction) :
    ∃ answer, AnsweredBy exchange.orderbooks event answer ∧
      reaction.executions = answer.executions ∧ toClients reaction.emitted = answer.sent := by
  cases event with
  | verifyID clock connection message =>
      obtain ⟨responses, answers, told⟩ := verifyID_responded own returned
      exact ⟨_, AnsweredBy.verifyID clock answers, rfl, told⟩
  | readOrderEntry clock connection message =>
      simp only [react, readOrderEntry] at returned
      split at returned
      · cases returned
      · obtain ⟨responses, answers, told⟩ := processEntry_responded own returned
        exact ⟨_, AnsweredBy.readOrderEntry clock answers, rfl, told⟩
  | terminateConnection connection unset =>
      cases returned
      exact ⟨_, AnsweredBy.terminateConnection connection unset, rfl, rfl⟩

end Exchange

/-! ### Whole sessions -/

namespace Session

/-- What a connection has been sent. -/
def responsesTo (session : Session) (connection : ConnectionRef) : List OrderEntryResponse :=
  ((toClients session.emitted).filter (fun sent => sent.1 == connection)).map Prod.snd

/-- The answers to the events of a run, one to each, with the books as it meets them. -/
inductive Answered : Session → List Event → List Answer → Prop
  | ended (session : Session) : Answered session [] []
  | event {session next : Session} {event : Event} {events : List Event} {answer : Answer}
      {answers : List Answer} (taken : session.step event = .ok next)
      (answered : AnsweredBy session.exchange.orderbooks event answer)
      (further : Answered next events answers) :
      Answered session (event :: events) (answer :: answers)

/-- All that a run adds to a session are the answers to its events. -/
structure Conversation (session finish : Session) (events : List Event) (answers : List Answer) :
    Prop where
  each : Answered session events answers
  executed : finish.executions = session.executions ++ answers.flatMap Answer.executions
  sent : toClients finish.emitted = toClients session.emitted ++ answers.flatMap Answer.sent

end Session

/-- The responses of an answer go to its connection only. -/
theorem Answer.sent_to (answer : Answer) (connection : ConnectionRef) :
    (answer.sent.filter (fun sent => sent.1 == connection)).map Prod.snd =
      if answer.connection == connection then answer.responses else [] := by
  have everywhere : ∀ sent ∈ answer.sent, sent.1 = answer.connection := by
    intro sent listed
    obtain ⟨response, _listed, same⟩ := List.mem_map.mp listed
    rw [← same]
  split
  · rename_i here
    have all : answer.sent.filter (fun sent => sent.1 == connection) = answer.sent := by
      apply List.filter_eq_self.mpr
      intro sent listed
      rw [everywhere sent listed]
      exact here
    rw [all, Answer.sent, List.map_map]
    exact List.map_id answer.responses
  · rename_i elsewhere
    have none : answer.sent.filter (fun sent => sent.1 == connection) = [] := by
      apply List.filter_eq_nil_iff.mpr
      intro sent listed
      rw [everywhere sent listed]
      exact elsewhere
    rw [none]
    rfl

namespace Session

theorem Conversation.responsesTo {session finish : Session} {events : List Event}
    {answers : List Answer} (conversation : Conversation session finish events answers)
    (connection : ConnectionRef) :
    finish.responsesTo connection = session.responsesTo connection ++
      (answers.filter (fun answer => answer.connection == connection)).flatMap
        Answer.responses := by
  rw [Session.responsesTo, conversation.sent, List.filter_append, List.map_append]
  refine congrArg (session.responsesTo connection ++ ·) ?_
  clear conversation
  induction answers with
  | nil => rfl
  | cons answer answers ih =>
      rw [List.flatMap_cons, List.filter_append, List.map_append, Answer.sent_to, ih,
        List.filter_cons]
      split
      · rw [List.flatMap_cons]
      · rfl

/-- An event adds to what its own connection is sent, and to no other one. -/
theorem step_responsesTo {session next : Session} {event : Event}
    (own : OrderBookManager.AllOwn session.exchange.orderbooks)
    (returned : session.step event = .ok next) :
    ∃ answer, AnsweredBy session.exchange.orderbooks event answer ∧ ∀ connection,
      next.responsesTo connection = session.responsesTo connection ++
        if event.connection == connection then answer.responses else [] := by
  obtain ⟨reaction, reacts, done⟩ := bind_eq_ok returned
  obtain ⟨answer, answered, _executed, told⟩ := Exchange.react_answers own reacts
  cases done
  refine ⟨answer, answered, ?_⟩
  intro connection
  rw [Session.responsesTo, toClients_append, told, List.filter_append, List.map_append,
    answer.sent_to, answered.connection_eq]
  rfl

end Session

end Server
end SpotExchange
