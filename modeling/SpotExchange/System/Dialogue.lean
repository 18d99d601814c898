/-
The dialogue on one connection: the client writes messages to its stream, the connection reads
them one at a time, and the responses come back through the queue of the connection. A stream
keeps the order of what is written to it. Whatever happens at the other connections interleaves.
-/

import SpotExchange.Server.Answers
import SpotExchange.Server.WriteQueues

namespace SpotExchange
namespace System

open Engine Machine Server Wire

/-! ### The parties and their steps -/

/-- Before the first message is read a connection is `fresh`. One whose first message bears a
user id that is taken reads no more. -/
inductive Reading where
  | fresh
  | verified
  | turnedAway
  deriving DecidableEq, Repr

inductive DialogueProblem where
  | disabled
  | server (problem : Fault)
  | writer (problem : WriterProblem)

/-- The connection has read so many of the messages that its client has `sent`; the responses
that are not yet in its queue are `unhanded`, and of those that were written the client has
`received` so many. -/
structure Dialogue where
  session : Session
  connection : ConnectionRef
  reading : Reading
  sent : List OrderEntryRequest
  taken : Nat
  unhanded : List OrderEntryResponse
  responses : Writer OrderEntryResponse
  received : Nat

inductive DialogueEvent where
  | send (message : OrderEntryRequest)
  | read (clock : Nat → Int64)
  | elsewhere (event : Server.Event)
  | hand
  | complete (position : Nat) (success : Bool)
  | receive

namespace Dialogue

def start (tickers : List Ticker) (connection : ConnectionRef) : Dialogue :=
  { session := Session.start tickers
    connection := connection
    reading := .fresh
    sent := []
    taken := 0
    unhanded := []
    responses := Writer.empty
    received := 0 }

/-- The callback that reads a message: the first one is verified. -/
def reads (dialogue : Dialogue) (clock : Nat → Int64) (message : OrderEntryRequest) :
    Option Server.Event :=
  match dialogue.reading with
  | .fresh => some (.verifyID clock dialogue.connection message)
  | .verified => some (.readOrderEntry clock dialogue.connection message)
  | .turnedAway => none

/-- How the connection goes on once it has read the message. -/
def readsOn (dialogue : Dialogue) (message : OrderEntryRequest) : Reading :=
  match dialogue.reading, Exchange.orderCommon message with
  | .fresh, some common =>
      if (dialogue.session.exchange.clientStreams.lookup common.userId).isSome then .turnedAway
      else .verified
  | reading, _ => reading

/-- What an event makes the server send to this connection is to be handed to its queue. -/
def serve (dialogue : Dialogue) (event : Server.Event) : Except DialogueProblem Dialogue :=
  match dialogue.session.step event with
  | .error problem => .error (.server problem)
  | .ok next =>
      .ok { dialogue with
        session := next
        unhanded := dialogue.unhanded ++ (next.responsesTo dialogue.connection).drop
          (dialogue.session.responsesTo dialogue.connection).length }

def read (dialogue : Dialogue) (clock : Nat → Int64) : Except DialogueProblem Dialogue :=
  match dialogue.sent[dialogue.taken]? with
  | none => .error .disabled
  | some message =>
      match dialogue.reads clock message with
      | none => .error .disabled
      | some event => do
          let served ← dialogue.serve event
          return { served with
            reading := dialogue.readsOn message
            taken := dialogue.taken + 1 }

def respond (dialogue : Dialogue) (unhanded : List OrderEntryResponse)
    (event : WriterEvent OrderEntryResponse) : Except DialogueProblem Dialogue :=
  match ResponseQueue.step dialogue.responses event with
  | .error problem => .error (.writer problem)
  | .ok next =>
      .ok { dialogue with
        unhanded := unhanded
        responses := next }

def step (dialogue : Dialogue) : DialogueEvent → Except DialogueProblem Dialogue
  | .send message => .ok { dialogue with sent := dialogue.sent ++ [message] }
  | .read clock => dialogue.read clock
  | .elsewhere event =>
      if event.connection = dialogue.connection then .error .disabled else dialogue.serve event
  | .hand =>
      match dialogue.unhanded with
      | [] => .error .disabled
      | response :: rest => dialogue.respond rest (.enqueue response)
  | .complete position success =>
      dialogue.respond dialogue.unhanded (.complete position success)
  | .receive =>
      if dialogue.received < dialogue.responses.written.length then
        .ok { dialogue with received := dialogue.received + 1 }
      else .error .disabled

/-! ### The invariant -/

/-- The block of responses answers the message, with the books as it met them. -/
def Responds (message : OrderEntryRequest) (block : List OrderEntryResponse) : Prop :=
  ∃ books executions, AnswerTo books message executions block

/-- The messages that were read have been answered, and the answers are in the queue or on
their way into it. -/
structure Answering (dialogue : Dialogue) : Prop where
  own : OrderBookManager.AllOwn dialogue.session.exchange.orderbooks
  flowing : dialogue.responses.Flowing
  handed : dialogue.session.responsesTo dialogue.connection =
    dialogue.responses.enqueued ++ dialogue.unhanded
  within : dialogue.taken ≤ dialogue.sent.length
  answered : ∃ blocks, List.Forall₂ Responds (dialogue.sent.take dialogue.taken) blocks ∧
    dialogue.session.responsesTo dialogue.connection = blocks.flatten
  arrived : dialogue.received ≤ dialogue.responses.written.length

section Steps

variable {dialogue next : Dialogue}

/-- What an event adds to the responses is on its way to the queue. -/
theorem serve_eq_ok {event : Server.Event}
    (own : OrderBookManager.AllOwn dialogue.session.exchange.orderbooks)
    (taken : dialogue.serve event = .ok next) :
    ∃ session answer, AnsweredBy dialogue.session.exchange.orderbooks event answer ∧
      OrderBookManager.AllOwn session.exchange.orderbooks ∧
      session.responsesTo dialogue.connection =
        dialogue.session.responsesTo dialogue.connection ++
          (if event.connection == dialogue.connection then answer.responses else []) ∧
      next = { dialogue with
        session := session
        unhanded := dialogue.unhanded ++
          if event.connection == dialogue.connection then answer.responses else [] } := by
  unfold serve at taken
  split at taken
  · cases taken
  · rename_i session stepped
    obtain ⟨answer, answered, grown⟩ := Session.step_responsesTo own stepped
    have stillOwn := Session.step_eachBook OrderBook.call_ownIds own stepped
    cases taken
    refine ⟨session, answer, answered, stillOwn, grown dialogue.connection, ?_⟩
    rw [grown dialogue.connection, List.drop_left]

/-- The one event that a read is. -/
theorem reads_responds {clock : Nat → Int64} {message : OrderEntryRequest} {event : Server.Event}
    {books : OrderBooks} {answer : Answer} (wanted : dialogue.reads clock message = some event)
    (answered : AnsweredBy books event answer) :
    event.connection = dialogue.connection ∧ Responds message answer.responses := by
  unfold reads at wanted
  split at wanted
  · cases wanted
    cases answered with
    | verifyID clock answers => exact ⟨rfl, _, _, answers⟩
  · cases wanted
    cases answered with
    | readOrderEntry clock answers => exact ⟨rfl, _, _, answers⟩
  · cases wanted

namespace Answering

theorem read (answering : Answering dialogue) {clock : Nat → Int64}
    (taken : dialogue.read clock = .ok next) : Answering next := by
  unfold Dialogue.read at taken
  split at taken
  · cases taken
  · rename_i message found
    split at taken
    · cases taken
    · rename_i event wanted
      obtain ⟨served, serves, done⟩ := bind_eq_ok taken
      obtain ⟨session, answer, answered, stillOwn, grown, same⟩ := serve_eq_ok answering.own serves
      obtain ⟨here, responds⟩ := reads_responds wanted answered
      obtain ⟨blocks, blocksAnswer, all⟩ := answering.answered
      have inside := (List.getElem?_eq_some_iff.mp found).1
      rw [if_pos (beq_iff_eq.mpr here)] at grown same
      cases done
      rw [same]
      refine
        { own := stillOwn
          flowing := answering.flowing
          handed := ?_
          within := inside
          answered := ⟨blocks ++ [answer.responses], ?_, ?_⟩
          arrived := answering.arrived }
      · change session.responsesTo dialogue.connection = _ ++ (dialogue.unhanded ++ _)
        rw [grown, answering.handed, List.append_assoc]
      · change List.Forall₂ Responds (dialogue.sent.take (dialogue.taken + 1)) _
        rw [List.take_add_one, found]
        exact List.rel_append blocksAnswer (List.Forall₂.cons responds List.Forall₂.nil)
      · change session.responsesTo dialogue.connection = _
        rw [grown, all, List.flatten_append, List.flatten_singleton]

theorem elsewhere (answering : Answering dialogue) {event : Server.Event}
    (apart : ¬event.connection = dialogue.connection)
    (taken : dialogue.serve event = .ok next) : Answering next := by
  obtain ⟨session, answer, _answered, stillOwn, grown, same⟩ := serve_eq_ok answering.own taken
  rw [if_neg (fun here => apart (beq_iff_eq.mp here)), List.append_nil] at grown same
  rw [same]
  exact
    { own := stillOwn
      flowing := answering.flowing
      handed := grown.trans answering.handed
      within := answering.within
      answered := by
        obtain ⟨blocks, blocksAnswer, all⟩ := answering.answered
        exact ⟨blocks, blocksAnswer, grown.trans all⟩
      arrived := answering.arrived }

/-- A response that is handed over or written leaves what is to come. -/
theorem respond (answering : Answering dialogue) {unhanded : List OrderEntryResponse}
    {event : WriterEvent OrderEntryResponse}
    (allowed : dialogue.responses.failsAlone event = true)
    (moved : event.messages ++ unhanded = dialogue.unhanded)
    (taken : dialogue.respond unhanded event = .ok next) : Answering next := by
  unfold Dialogue.respond at taken
  split at taken
  · cases taken
  · rename_i after stepped
    cases taken
    rw [ResponseQueue.step_eq] at stepped
    obtain ⟨keeps, enqueued⟩ := Writer.step_extends stepped
    refine
      { answering with
        flowing := Writer.step_flowing answering.flowing allowed stepped
        handed := ?_
        arrived := Nat.le_trans answering.arrived keeps.length_le }
    rw [enqueued, List.append_assoc, moved]
    exact answering.handed

end Answering

end Steps

/-- No write fails while other responses wait. -/
def calm (dialogue : Dialogue) : DialogueEvent → Bool
  | .complete position success => dialogue.responses.failsAlone (.complete position success)
  | _ => true

theorem Answering.step {dialogue next : Dialogue} {event : DialogueEvent}
    (answering : Answering dialogue) (allowed : dialogue.calm event = true)
    (taken : dialogue.step event = .ok next) : Answering next := by
  cases event with
  | send message =>
      cases taken
      refine
        { answering with
          within := ?_
          answered := ?_ }
      · exact Nat.le_trans answering.within (List.length_append ▸ Nat.le_add_right _ _)
      · change ∃ blocks, List.Forall₂ Responds ((dialogue.sent ++ [message]).take _) _ ∧ _
        rw [List.take_append_of_le_length answering.within]
        exact answering.answered
  | read clock => exact answering.read taken
  | elsewhere event =>
      simp only [Dialogue.step] at taken
      split at taken
      · cases taken
      · rename_i apart
        exact answering.elsewhere apart taken
  | hand =>
      simp only [Dialogue.step] at taken
      split at taken
      · cases taken
      · rename_i response rest told
        exact answering.respond rfl told.symm taken
  | complete position success =>
      have alone : dialogue.responses.failsAlone (.complete position success) = true := allowed
      exact answering.respond alone rfl taken
  | receive =>
      simp only [Dialogue.step] at taken
      split at taken
      · rename_i more
        cases taken
        exact { answering with arrived := more }
      · cases taken

/-! ### What the client has heard -/

/-- The responses that the client has received. -/
def heard (dialogue : Dialogue) : List OrderEntryResponse :=
  dialogue.responses.written.take dialogue.received

/-- Nothing is on the way to the client. -/
structure Settled (dialogue : Dialogue) : Prop where
  handed : dialogue.unhanded = []
  written : dialogue.responses.queue = []
  received : dialogue.received = dialogue.responses.written.length

end Dialogue

end System
end SpotExchange
