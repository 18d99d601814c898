/-
The way of the market data: the server hands them to the dispatcher, which writes them to the
data platform one at a time; the data platform serialises each into its one buffer and sends
it to every subscriber; a client reads what arrives out of its receive buffer. The steps of the
four programs interleave.
-/

import SpotExchange.Client.ReceiveBuffer
import SpotExchange.Client.UpperBounds
import SpotExchange.DataPlatform.Sends
import SpotExchange.Server.WriteQueues

namespace SpotExchange
namespace System

open Bytes Client DataPlatform Engine Machine Server Wire

universe u

/-! ### The parties and their steps -/

inductive PipelineProblem where
  | disabled
  | server (problem : Fault)
  | dispatcher (problem : WriterProblem)
  | outsideBuffer
  | client (problem : Fault)

/-- What is said before it is handed to the dispatcher is `unhanded`. The data platform has
taken so many of the messages that were written, and the client at `endpoint` has received so
many datagrams. -/
structure Pipeline (Endpoint : Type u) where
  session : Session
  unhanded : List MarketDataResponse
  dispatcher : Writer MarketDataResponse
  taken : Nat
  platform : Platform Endpoint
  endpoint : Endpoint
  buffer : ReceiveBuffer
  feedhandler : ClientFeedHandler
  received : Nat

/-- A datagram that was sent to the client may be delivered at any time, and any number of
times. -/
inductive PipelineEvent where
  | serve (event : Server.Event)
  | hand
  | complete (position : Nat) (success : Bool)
  | read
  | carryOut (position : Nat)
  | deliver (number : Nat)

/-- What is behind the end of the receive buffer is cut off. -/
def arrived (bytes : List UInt8) : ReceivedDatagram where
  bytes := bytes.take 64
  fits := List.length_take_le 64 bytes

namespace Pipeline

variable {Endpoint : Type u} [DecidableEq Endpoint]

def start (tickers : List Ticker) (tempBuffer : TempBuffer) (subscribers : List Endpoint)
    (distinct : subscribers.Nodup) (endpoint : Endpoint) (buffer : ReceiveBuffer) :
    Pipeline Endpoint :=
  { session := Session.start tickers
    unhanded := []
    dispatcher := Writer.empty
    taken := 0
    platform := Platform.initial tempBuffer subscribers distinct
    endpoint := endpoint
    buffer := buffer
    feedhandler := ClientFeedHandler.fresh
    received := 0 }

def serve (pipeline : Pipeline Endpoint) (event : Server.Event) :
    Except PipelineProblem (Pipeline Endpoint) :=
  match pipeline.session.step event with
  | .error problem => .error (.server problem)
  | .ok next =>
      .ok { pipeline with
        session := next
        unhanded := pipeline.unhanded ++ next.feed.drop pipeline.session.feed.length }

def dispatch (pipeline : Pipeline Endpoint) (unhanded : List MarketDataResponse)
    (event : WriterEvent MarketDataResponse) : Except PipelineProblem (Pipeline Endpoint) :=
  match MarketDataDispatcher.step pipeline.dispatcher event with
  | .error problem => .error (.dispatcher problem)
  | .ok next =>
      .ok { pipeline with
        unhanded := unhanded
        dispatcher := next }

def deliver (pipeline : Pipeline Endpoint) (number : Nat) :
    Except PipelineProblem (Pipeline Endpoint) :=
  match (pipeline.platform.sentTo pipeline.endpoint)[number]? with
  | none => .error .disabled
  | some bytes =>
      match ReceiveBuffer.readMarketData pipeline.feedhandler pipeline.buffer (arrived bytes) with
      | none => .error .outsideBuffer
      | some (.error problem) => .error (.client problem)
      | some (.ok next) =>
          .ok { pipeline with
            buffer := pipeline.buffer.received (arrived bytes)
            feedhandler := next
            received := pipeline.received + 1 }

def step (pipeline : Pipeline Endpoint) :
    PipelineEvent → Except PipelineProblem (Pipeline Endpoint)
  | .serve event => pipeline.serve event
  | .hand =>
      match pipeline.unhanded with
      | [] => .error .disabled
      | message :: rest => pipeline.dispatch rest (.enqueue message)
  | .complete position success =>
      pipeline.dispatch pipeline.unhanded (.complete position success)
  | .read =>
      match pipeline.dispatcher.written[pipeline.taken]? with
      | none => .error .disabled
      | some message =>
          .ok { pipeline with
            taken := pipeline.taken + 1
            platform := pipeline.platform.read message }
  | .carryOut position =>
      match pipeline.platform.carryOut position with
      | .error _ => .error .disabled
      | .ok next => .ok { pipeline with platform := next }
  | .deliver number => pipeline.deliver number

/-- Writes succeed, a message is read when it does not disturb the pending sends, and the
datagrams for the client are delivered in order, each once. -/
def calm (pipeline : Pipeline Endpoint) : PipelineEvent → Bool
  | .serve _ => true
  | .hand => true
  | .complete _ success => success
  | .read =>
      match pipeline.dispatcher.written[pipeline.taken]? with
      | none => true
      | some message => pipeline.platform.undisturbing (.read message)
  | .carryOut _ => true
  | .deliver number => number == pipeline.received

/-! ### One datagram at the client -/

theorem found_in_front {α : Type u} {front whole : List α} {number : Nat} {item : α}
    (inside : front <+: whole) (found : front[number]? = some item) :
    whole[number]? = some item := by
  obtain ⟨rest, same⟩ := inside
  rw [← same, List.getElem?_append_left (List.getElem?_eq_some_iff.mp found).1]
  exact found

section Datagram

variable {message : MarketDataResponse} {handler : ClientFeedHandler}

theorem frameOf_isSome (isSet : message ≠ .notSet) : ∃ frame, frameOf message = some frame := by
  cases message with
  | notSet => exact absurd rfl isSet
  | _ => exact ⟨_, rfl⟩

/-- The datagram of a message fits the receive buffer, and is at least as long as the packet
that is read out of it. -/
theorem datagram_whole {frame : Frame} (found : frameOf message = some frame) (prior : TempBuffer) :
    (serialiseMarketData message prior).datagram.length ≤ 64 ∧
      (frame.packetType ∈ bookPackets → packetSize frame.packetType ≤
        (serialiseMarketData message prior).datagram.length) := by
  have sent : (serialiseMarketData message prior).datagram.length =
      min (frame.announced.toNat + 2) 255 := by
    rw [serialiseMarketData_of_frame found, TempBuffer.datagram,
      transmitted_serialise (frameOf_fits found), List.length_take, TempBuffer.size]
  have sizes : ∀ kind ∈ [('A'.toUInt8, 37), ('M'.toUInt8, 20), ('C'.toUInt8, 16),
      ('F'.toUInt8, 46), ('N'.toUInt8, 1)],
      min (kind.2 + 2) 255 ≤ 64 ∧
        (kind.1 ∈ bookPackets → packetSize kind.1 ≤ min (kind.2 + 2) 255) := by decide
  rw [sent]
  cases message with
  | notSet => cases found
  | add data =>
      cases found
      exact sizes ('A'.toUInt8, 37) (by decide)
  | mod data =>
      cases found
      exact sizes ('M'.toUInt8, 20) (by decide)
  | cancel data =>
      cases found
      exact sizes ('C'.toUInt8, 16) (by decide)
  | fill data =>
      cases found
      exact sizes ('F'.toUInt8, 46) (by decide)
  | notification data =>
      cases found
      exact sizes ('N'.toUInt8, 1) (by decide)

/-- A message that is sent and arrives is received. -/
theorem readMarketData_arrived {frame : Frame} (found : frameOf message = some frame)
    (prior : TempBuffer) (buffer : ReceiveBuffer) :
    ReceiveBuffer.readMarketData handler buffer
        (arrived (serialiseMarketData message prior).datagram) =
      some (handler.receive message) := by
  obtain ⟨fits, whole⟩ := datagram_whole found prior
  have uncut : (arrived (serialiseMarketData message prior).datagram).bytes =
      (serialiseMarketData message prior).datagram := List.take_of_length_le fits
  rw [ReceiveBuffer.readMarketData, ReceiveBuffer.received_bytes, uncut,
    processMarketData_front handler _ (packetType_datagram found prior) whole]
  exact processMarketData_datagram found handler prior

/-- A handler whose indices are valid receives every message. -/
theorem receive_total (indexed : handler.Indexed) (message : MarketDataResponse) :
    ∃ next, handler.receive message = .ok next ∧ next.Indexed := by
  rw [TradingClient.receive_eq_process]
  cases TradingClient.decoded message with
  | none => exact ⟨handler, rfl, indexed⟩
  | some inner =>
      obtain ⟨next, returned, does⟩ := ClientFeedHandler.process_does indexed inner
      exact ⟨next, returned, does.indexed indexed⟩

end Datagram

/-! ### The invariant -/

/-- The handler has what it has of the messages that were received, in order; each datagram
is that of its message; and the data platform is behind the dispatcher, which is behind the
feed. -/
structure Conveys (pipeline : Pipeline Endpoint) : Prop where
  flowing : pipeline.dispatcher.Flowing
  fed : pipeline.session.feed = pipeline.dispatcher.enqueued ++ pipeline.unhanded
  isSet : MarketDataResponse.notSet ∉ pipeline.session.feed
  current : pipeline.platform.Current
  subscribed : pipeline.endpoint ∈ pipeline.platform.subscribers
  within : pipeline.taken ≤ pipeline.dispatcher.written.length
  counted : pipeline.platform.serialised.length = pipeline.taken
  own : ∀ (number : Nat) (bytes : List UInt8), pipeline.platform.serialised[number]? = some bytes →
    ∃ message prior, pipeline.dispatcher.written[number]? = some message ∧
      bytes = (serialiseMarketData message prior).datagram
  behind : pipeline.received ≤ (pipeline.platform.sentTo pipeline.endpoint).length
  indexed : pipeline.feedhandler.Indexed
  heard : run ClientFeedHandler.receive ClientFeedHandler.fresh
    (pipeline.session.feed.take pipeline.received) = .ok pipeline.feedhandler

theorem start_conveys (tickers : List Ticker) (tempBuffer : TempBuffer)
    {subscribers : List Endpoint} (distinct : subscribers.Nodup) {endpoint : Endpoint}
    (subscribed : endpoint ∈ subscribers) (buffer : ReceiveBuffer) :
    Conveys (start tickers tempBuffer subscribers distinct endpoint buffer) where
  flowing := Writer.empty_flowing
  fed := rfl
  isSet := List.not_mem_nil
  current := Platform.initial_current tempBuffer subscribers distinct
  subscribed := subscribed
  within := Nat.le_refl 0
  counted := rfl
  own := by
    intro number bytes found
    cases found
  behind := Nat.zero_le _
  indexed := ClientFeedHandler.fresh_indexed
  heard := rfl

section Steps

variable {pipeline next : Pipeline Endpoint}

namespace Conveys

/-- No more is written than is told. -/
theorem written_told (conveys : Conveys pipeline) :
    pipeline.dispatcher.written <+: pipeline.session.feed := by
  rw [conveys.fed]
  exact conveys.flowing.ordered.in_order.trans (List.prefix_append _ _)

/-- What is sent to the client is a part of what was serialised, from its beginning. -/
theorem sent_serialised (conveys : Conveys pipeline) :
    pipeline.platform.sentTo pipeline.endpoint <+: pipeline.platform.serialised :=
  conveys.current.in_order conveys.subscribed

theorem received_le (conveys : Conveys pipeline) :
    pipeline.received ≤ pipeline.session.feed.length := by
  have sent := conveys.sent_serialised.length_le
  have told := conveys.written_told.length_le
  have behind := conveys.behind
  have within := conveys.within
  have counted := conveys.counted
  omega

theorem serve (conveys : Conveys pipeline) {event : Server.Event}
    (taken : pipeline.step (.serve event) = .ok next) : Conveys next := by
  change pipeline.serve event = .ok next at taken
  unfold Pipeline.serve at taken
  split at taken
  · cases taken
  · rename_i session stepped
    cases taken
    have grown : ∃ told, session.feed = pipeline.session.feed ++ told ∧
        MarketDataResponse.notSet ∉ told := by
      cases Session.step_feeds stepped with
      | apart _ _ sameFeed _ =>
          refine ⟨[], ?_, List.not_mem_nil⟩
          rw [sameFeed, List.append_nil]
      | called request book result _ _ _ calls _ _ fed _ =>
          exact ⟨_, fed, (OrderBook.call_tells calls).isSet⟩
    obtain ⟨told, same, isSet⟩ := grown
    have later : session.feed.drop pipeline.session.feed.length = told := by
      rw [same, List.drop_left]
    refine
      { conveys with
        fed := ?_
        isSet := ?_
        heard := ?_ }
    · change session.feed = pipeline.dispatcher.enqueued ++
        (pipeline.unhanded ++ session.feed.drop pipeline.session.feed.length)
      rw [later, ← List.append_assoc, ← conveys.fed]
      exact same
    · change MarketDataResponse.notSet ∉ session.feed
      rw [same]
      intro member
      rcases List.mem_append.mp member with earlier | new
      · exact conveys.isSet earlier
      · exact isSet new
    · change run _ _ (session.feed.take pipeline.received) = _
      rw [same, List.take_append_of_le_length conveys.received_le]
      exact conveys.heard

/-- A message that is handed over or written leaves what is to come. -/
theorem dispatched (conveys : Conveys pipeline) {unhanded : List MarketDataResponse}
    {event : WriterEvent MarketDataResponse}
    (allowed : pipeline.dispatcher.failsAlone event = true)
    (moved : event.messages ++ unhanded = pipeline.unhanded)
    (taken : pipeline.dispatch unhanded event = .ok next) : Conveys next := by
  unfold dispatch at taken
  split at taken
  · cases taken
  · rename_i after stepped
    cases taken
    rw [MarketDataDispatcher.step_eq] at stepped
    obtain ⟨keeps, enqueued⟩ := Writer.step_extends stepped
    refine
      { conveys with
        flowing := Writer.step_flowing conveys.flowing allowed stepped
        fed := ?_
        within := Nat.le_trans conveys.within keeps.length_le
        own := ?_ }
    · rw [enqueued, List.append_assoc, moved]
      exact conveys.fed
    · intro number bytes found
      obtain ⟨message, prior, written, isOwn⟩ := conveys.own number bytes found
      exact ⟨message, prior, found_in_front keeps written, isOwn⟩

theorem read (conveys : Conveys pipeline) (allowed : pipeline.calm .read = true)
    (taken : pipeline.step .read = .ok next) : Conveys next := by
  simp only [Pipeline.step, calm] at taken allowed
  split at taken
  · cases taken
  · rename_i message written
    cases taken
    rw [written] at allowed
    have below := (List.getElem?_eq_some_iff.mp written).1
    refine
      { conveys with
        current := Platform.step_current conveys.current allowed rfl
        within := below
        counted := ?_
        own := ?_ }
    · change (pipeline.platform.serialised ++ [_]).length = pipeline.taken + 1
      rw [List.length_append, conveys.counted]
      rfl
    · intro number bytes found
      change (pipeline.platform.serialised ++ [_])[number]? = some bytes at found
      rcases Nat.lt_or_ge number pipeline.platform.serialised.length with old | new
      · rw [List.getElem?_append_left old] at found
        exact conveys.own number bytes found
      · have last : number = pipeline.platform.serialised.length := by
          have inside := (List.getElem?_eq_some_iff.mp found).1
          rw [List.length_append, List.length_singleton] at inside
          omega
        rw [last, List.getElem?_concat_length] at found
        refine ⟨message, pipeline.platform.tempBuffer, ?_, (Option.some.inj found).symm⟩
        rw [last, conveys.counted]
        exact written

theorem carryOut (conveys : Conveys pipeline) {position : Nat}
    (taken : pipeline.step (.carryOut position) = .ok next) : Conveys next := by
  simp only [Pipeline.step] at taken
  split at taken
  · cases taken
  · rename_i platform carried
    cases taken
    obtain ⟨_sameBuffer, sameSerialised⟩ := Platform.carryOut_keeps carried
    obtain ⟨sameSubscribers, sent⟩ := Platform.carryOut_sends carried pipeline.endpoint
    refine
      { conveys with
        current := Platform.carryOut_current conveys.current carried
        subscribed := ?_
        counted := ?_
        own := ?_
        behind := Nat.le_trans conveys.behind sent.length_le }
    · rw [sameSubscribers]
      exact conveys.subscribed
    · rw [sameSerialised]
      exact conveys.counted
    · rw [sameSerialised]
      exact conveys.own

/-- The next datagram that is sent to the client is that of the next message. -/
theorem sent_message (conveys : Conveys pipeline) {number : Nat} {bytes : List UInt8}
    (found : (pipeline.platform.sentTo pipeline.endpoint)[number]? = some bytes) :
    ∃ message frame prior, pipeline.session.feed[number]? = some message ∧
      frameOf message = some frame ∧ bytes = (serialiseMarketData message prior).datagram := by
  obtain ⟨message, prior, written, isOwn⟩ :=
    conveys.own number bytes (found_in_front conveys.sent_serialised found)
  have told := found_in_front conveys.written_told written
  obtain ⟨frame, framed⟩ := frameOf_isSome (fun same : message = .notSet =>
    conveys.isSet (same ▸ List.mem_of_getElem? told))
  exact ⟨message, frame, prior, told, framed, isOwn⟩

theorem deliver (conveys : Conveys pipeline) {number : Nat}
    (allowed : pipeline.calm (.deliver number) = true)
    (taken : pipeline.step (.deliver number) = .ok next) : Conveys next := by
  have isNext : number = pipeline.received := beq_iff_eq.mp allowed
  change pipeline.deliver number = .ok next at taken
  unfold Pipeline.deliver at taken
  split at taken
  · cases taken
  · rename_i bytes found
    obtain ⟨message, frame, prior, told, framed, isOwn⟩ := conveys.sent_message found
    rw [isOwn, readMarketData_arrived framed] at taken
    obtain ⟨handler, received, indexed⟩ := receive_total conveys.indexed message
    rw [received] at taken
    cases taken
    have below := (List.getElem?_eq_some_iff.mp found).1
    rw [isNext] at below told
    refine
      { conveys with
        behind := below
        indexed := indexed
        heard := ?_ }
    change run _ _ (pipeline.session.feed.take (pipeline.received + 1)) = _
    rw [List.take_add_one, told, run_append conveys.heard]
    exact run_single received

/-- Every calm step conveys. -/
theorem step (conveys : Conveys pipeline) {event : PipelineEvent}
    (allowed : pipeline.calm event = true) (taken : pipeline.step event = .ok next) :
    Conveys next := by
  cases event with
  | serve event => exact conveys.serve taken
  | hand =>
      simp only [Pipeline.step] at taken
      split at taken
      · cases taken
      · rename_i message rest told
        exact conveys.dispatched rfl told.symm taken
  | complete position success =>
      have succeeded : success = true := allowed
      apply conveys.dispatched _ rfl taken
      rw [succeeded]
      rfl
  | read => exact conveys.read allowed taken
  | carryOut position => exact conveys.carryOut taken
  | deliver number => exact conveys.deliver allowed taken

end Conveys

end Steps

/-! ### What the client has -/

/-- Nothing is on the way to the client. -/
structure Settled (pipeline : Pipeline Endpoint) : Prop where
  handed : pipeline.unhanded = []
  written : pipeline.dispatcher.queue = []
  taken : pipeline.taken = pipeline.dispatcher.written.length
  sent : pipeline.platform.pending = []
  delivered : pipeline.received = (pipeline.platform.sentTo pipeline.endpoint).length

/-- The handler has taken so many messages of the feed from its beginning, and all of them
once nothing is on the way. -/
structure Conveyed (pipeline : Pipeline Endpoint) : Prop where
  within : pipeline.received ≤ pipeline.session.feed.length
  heard : run ClientFeedHandler.receive ClientFeedHandler.fresh
    (pipeline.session.feed.take pipeline.received) = .ok pipeline.feedhandler
  whole : Settled pipeline → run ClientFeedHandler.receive ClientFeedHandler.fresh
    pipeline.session.feed = .ok pipeline.feedhandler

namespace Conveys

variable {pipeline : Pipeline Endpoint}

/-- What is written is what is enqueued, once nothing waits. -/
theorem settled_received (conveys : Conveys pipeline) (settled : Settled pipeline) :
    pipeline.received = pipeline.session.feed.length := by
  have enqueued : pipeline.dispatcher.enqueued = pipeline.dispatcher.written := by
    cases conveys.flowing with
    | waiting _ _ _ complete => exact complete
    | writing message rest _ queued _ _ =>
        rw [settled.written] at queued
        cases queued
  have sent : pipeline.platform.sentTo pipeline.endpoint = pipeline.platform.serialised := by
    apply conveys.current.complete conveys.subscribed
    rw [Platform.pendingTo, settled.sent]
    rfl
  rw [settled.delivered, sent, conveys.counted, settled.taken, conveys.fed, settled.handed,
    List.append_nil, enqueued]

theorem conveyed (conveys : Conveys pipeline) : Conveyed pipeline where
  within := conveys.received_le
  heard := conveys.heard
  whole := by
    intro settled
    have heard := conveys.heard
    rw [conveys.settled_received settled, List.take_length] at heard
    exact heard

end Conveys

/-- In every state of every calm run a subscribed client has what a handler has that receives
the messages of the feed itself, as many of them as it was delivered datagrams. -/
theorem clients_follow_the_feed (tickers : List Ticker) (tempBuffer : TempBuffer)
    {subscribers : List Endpoint} (distinct : subscribers.Nodup) {endpoint : Endpoint}
    (subscribed : endpoint ∈ subscribers) (buffer : ReceiveBuffer) (events : List PipelineEvent)
    (guarded : Guarded step (fun pipeline event => pipeline.calm event = true)
      (start tickers tempBuffer subscribers distinct endpoint buffer) events) :
    Always step Conveyed (start tickers tempBuffer subscribers distinct endpoint buffer) events := by
  have sound : ∀ pipeline : Pipeline Endpoint, Conveys pipeline → Conveyed pipeline :=
    fun _ => Conveys.conveyed
  have preserved : ∀ (pipeline : Pipeline Endpoint) event next, Conveys pipeline →
      pipeline.calm event = true → pipeline.step event = .ok next → Conveys next :=
    fun _ _ _ conveys allowed taken => conveys.step allowed taken
  exact Guarded.always sound preserved
    (start_conveys tickers tempBuffer distinct subscribed buffer) guarded

def emptyBuffer : ReceiveBuffer :=
  { bytes := List.replicate 64 0
    size := List.length_replicate }

/-- Two subscribers, of which the second is the client. -/
def twoListeners : Pipeline Nat :=
  start [7, 8] (TempBuffer.filled 0) [6, 9] (by decide) 9 emptyBuffer

/-- A sell of which a buy takes a part: it is announced, and the buy is told by two fills. -/
def tradingDay : List PipelineEvent :=
  [.serve (.verifyID (fun _ => 0) 1 (orderOn 7 1 false 5)),
    .hand,
    .complete 0 true,
    .serve (.verifyID (fun _ => 0) 2 (orderOn 7 2 true 3)),
    .read,
    .carryOut 1,
    .hand,
    .deliver 0,
    .carryOut 0,
    .hand,
    .complete 0 true,
    .complete 0 true,
    .read,
    .carryOut 0,
    .carryOut 0,
    .read,
    .carryOut 1,
    .deliver 1,
    .carryOut 0,
    .deliver 2]

theorem tradingDay_followed : Always step Conveyed twoListeners tradingDay :=
  clients_follow_the_feed [7, 8] (TempBuffer.filled 0) _ (by decide) emptyBuffer tradingDay
    (by decide +kernel)

end Pipeline

end System
end SpotExchange
