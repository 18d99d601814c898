/-
The read loop of the data platform and the sends that it leaves pending. All sends share
one buffer, which a send reads when it is carried out; the sends are carried out in any
order, between any two iterations of the loop.
-/

import Mathlib.Data.List.Forall2
import Mathlib.Data.List.Nodup
import SpotExchange.DataPlatform.Datagrams
import SpotExchange.Machine.Run

namespace SpotExchange
namespace DataPlatform

open Machine Wire

universe u

/-- A send of the message with a number, for which so many bytes of the buffer are read. -/
structure PendingSend (Endpoint : Type u) where
  subscriber : Endpoint
  message : Nat
  length : Nat
  deriving DecidableEq, Repr

structure SentDatagram (Endpoint : Type u) where
  subscriber : Endpoint
  message : Nat
  bytes : List UInt8
  deriving DecidableEq, Repr

/-- The data platform with what it has sent so far, and with what the buffer held right
after each message was serialised. -/
structure Platform (Endpoint : Type u) where
  marketData : MarketDataResponse
  tempBuffer : TempBuffer
  subscribers : List Endpoint
  distinct : subscribers.Nodup
  pending : List (PendingSend Endpoint)
  sent : List (SentDatagram Endpoint)
  serialised : List (List UInt8)

inductive SendEvent where
  | read (message : MarketDataResponse)
  | carryOut (position : Nat)
  deriving DecidableEq, Repr

namespace Platform

variable {Endpoint : Type u}

def initial (tempBuffer : TempBuffer) (subscribers : List Endpoint)
    (distinct : subscribers.Nodup) : Platform Endpoint :=
  { marketData := .notSet
    tempBuffer := tempBuffer
    subscribers := subscribers
    distinct := distinct
    pending := []
    sent := []
    serialised := [] }

/-- One iteration of the loop: the message is serialised, and a send to each subscriber is
started. -/
def read (platform : Platform Endpoint) (message : MarketDataResponse) : Platform Endpoint :=
  let buffer := serialiseMarketData message platform.tempBuffer
  let asyncSendTo : Endpoint → PendingSend Endpoint := fun subscriber =>
    { subscriber := subscriber
      message := platform.serialised.length
      length := buffer.transmitted }
  { platform with
    marketData := message
    tempBuffer := buffer
    pending := platform.pending ++ platform.subscribers.map asyncSendTo
    serialised := platform.serialised ++ [buffer.datagram] }

def carryOut (platform : Platform Endpoint) (position : Nat) :
    Except Disabled (Platform Endpoint) :=
  match platform.pending[position]? with
  | none => .error .disabled
  | some send =>
      .ok { platform with
        pending := platform.pending.eraseIdx position
        sent := platform.sent ++
          [{ subscriber := send.subscriber
             message := send.message
             bytes := platform.tempBuffer.bytes.take send.length }] }

def step (platform : Platform Endpoint) : SendEvent → Except Disabled (Platform Endpoint)
  | .read message => .ok (platform.read message)
  | .carryOut position => platform.carryOut position

/-! ### What is serialised -/

theorem carryOut_keeps {platform next : Platform Endpoint} {position : Nat}
    (taken : platform.carryOut position = .ok next) :
    next.tempBuffer = platform.tempBuffer ∧ next.serialised = platform.serialised := by
  unfold carryOut at taken
  split at taken
  · cases taken
  · cases taken
    exact ⟨rfl, rfl⟩

section Delivered

variable [DecidableEq Endpoint]

def sentTo (platform : Platform Endpoint) (subscriber : Endpoint) : List (List UInt8) :=
  (platform.sent.filter (fun datagram => datagram.subscriber = subscriber)).map
    SentDatagram.bytes

def pendingTo (platform : Platform Endpoint) (subscriber : Endpoint) : Nat :=
  platform.pending.countP (fun send => send.subscriber = subscriber)

/-- Each message has a datagram that encodes it, made in a buffer with such bytes in it, and what
is sent for a message is its datagram. Each subscriber is sent the datagrams of the messages that
were read, in order, without a loss or a repeat. -/
structure Faithful (tempBuffer : TempBuffer) (messages : List MarketDataResponse)
    (platform : Platform Endpoint) : Prop where
  encoded : List.Forall₂ Encodes messages (datagrams tempBuffer messages)
  own : ∀ datagram ∈ platform.sent,
    (datagrams tempBuffer messages)[datagram.message]? = some datagram.bytes
  in_order : ∀ subscriber ∈ platform.subscribers,
    platform.sentTo subscriber <+: datagrams tempBuffer messages
  complete : ∀ subscriber ∈ platform.subscribers, platform.pendingTo subscriber = 0 →
    platform.sentTo subscriber = datagrams tempBuffer messages

/-- What is sent stays sent, to the same subscribers. -/
theorem carryOut_sends {platform next : Platform Endpoint} {position : Nat}
    (taken : platform.carryOut position = .ok next) (subscriber : Endpoint) :
    next.subscribers = platform.subscribers ∧
      platform.sentTo subscriber <+: next.sentTo subscriber := by
  unfold carryOut at taken
  split at taken
  · cases taken
  · cases taken
    refine ⟨rfl, ?_⟩
    simp only [sentTo, List.filter_append, List.map_append]
    exact List.prefix_append _ _

/-- A send that is carried out is no longer pending, and reaches at most this subscriber. -/
theorem carryOut_counts {platform next : Platform Endpoint} {position : Nat}
    (taken : platform.carryOut position = .ok next) (subscriber : Endpoint) :
    next.pending.length + 1 = platform.pending.length ∧
      (next.sentTo subscriber).length ≤ (platform.sentTo subscriber).length + 1 := by
  unfold carryOut at taken
  split at taken
  · cases taken
  · rename_i send found
    cases taken
    have below := (List.getElem?_eq_some_iff.mp found).1
    constructor
    · rw [List.length_eraseIdx_of_lt below]
      omega
    · simp only [sentTo, List.filter_append, List.map_append, List.length_append, List.length_map]
      exact Nat.add_le_add_left (List.length_filter_le _ _) _

end Delivered

/-! ### Messages that repeat -/

/-- The message has the same data as the last one, as far as they are serialised. -/
def repeats (last : MarketDataResponse) : MarketDataResponse → Bool
  | .notSet => false
  | .fill data =>
      match last with
      | .fill before =>
          data.timestamp == before.timestamp &&
            data.statusCommon.orderId == before.statusCommon.orderId &&
            data.statusCommon.ticker == before.statusCommon.ticker &&
            data.fillId == before.fillId && data.fillQuantity == before.fillQuantity
      | _ => false
  | message => message == last

/-- A message is read while no send is pending, unless it repeats the last one. -/
def undisturbing (platform : Platform Endpoint) : SendEvent → Bool
  | .read message => platform.pending.isEmpty || repeats platform.marketData message
  | .carryOut _ => true

theorem repeats_frame {last message : MarketDataResponse} (again : repeats last message = true) :
    frameOf message = frameOf last := by
  cases message with
  | notSet => cases again
  | fill data =>
      cases last with
      | fill before =>
          simp only [repeats, Bool.and_eq_true, beq_iff_eq] at again
          obtain ⟨⟨⟨⟨timestamp, orderId⟩, ticker⟩, fillId⟩, quantity⟩ := again
          simp only [frameOf, fillFrame, timestamp, orderId, ticker, fillId, quantity]
      | _ => cases again
  | _ =>
      have same := beq_iff_eq.mp again
      rw [same]

end Platform

theorem serialise_again {frame : Frame} (fits : frame.Fits) (buffer : TempBuffer) :
    (buffer.serialise frame).serialise frame = buffer.serialise frame := by
  have length : (frame.announced :: frame.packetType :: frame.payload).length =
      2 + frame.payload.length := by
    simp only [List.length_cons]
    omega
  apply TempBuffer.ext
  rw [fits.bytes, fits.bytes, List.drop_left' length]

namespace Platform

theorem serialiseMarketData_repeats {last message : MarketDataResponse}
    (again : repeats last message = true) (prior : TempBuffer) :
    serialiseMarketData message (serialiseMarketData last prior) =
      serialiseMarketData last prior := by
  have same := repeats_frame again
  cases found : frameOf message with
  | none =>
      cases message with
      | notSet => cases again
      | _ => cases found
  | some frame =>
      rw [found] at same
      rw [serialiseMarketData_of_frame found, serialiseMarketData_of_frame same.symm,
        serialise_again (frameOf_fits found)]

/-! ### Runs -/

variable {Endpoint : Type u} [DecidableEq Endpoint]

/-- Each pending send would be right now: the buffer holds its message. -/
structure Current (platform : Platform Endpoint) : Prop where
  written : ∃ prior, platform.tempBuffer = serialiseMarketData platform.marketData prior
  pending : ∀ send ∈ platform.pending, send.length = platform.tempBuffer.transmitted ∧
    platform.serialised[send.message]? = some platform.tempBuffer.datagram
  sent : ∀ datagram ∈ platform.sent,
    platform.serialised[datagram.message]? = some datagram.bytes
  accounted : ∀ subscriber ∈ platform.subscribers,
    platform.sentTo subscriber ++
        List.replicate (platform.pendingTo subscriber) platform.tempBuffer.datagram =
      platform.serialised

theorem initial_current (tempBuffer : TempBuffer) (subscribers : List Endpoint)
    (distinct : subscribers.Nodup) : (initial tempBuffer subscribers distinct).Current := by
  constructor
  · exact ⟨tempBuffer, rfl⟩
  · intro send member
    cases member
  · intro datagram member
    cases member
  · intro subscriber _
    rfl

theorem Current.in_order {platform : Platform Endpoint} (current : platform.Current)
    {subscriber : Endpoint} (member : subscriber ∈ platform.subscribers) :
    platform.sentTo subscriber <+: platform.serialised := by
  rw [← current.accounted subscriber member]
  exact List.prefix_append _ _

theorem Current.complete {platform : Platform Endpoint} (current : platform.Current)
    {subscriber : Endpoint} (member : subscriber ∈ platform.subscribers)
    (settled : platform.pendingTo subscriber = 0) :
    platform.sentTo subscriber = platform.serialised := by
  have accounted := current.accounted subscriber member
  rw [settled, List.replicate_zero, List.append_nil] at accounted
  exact accounted

/-- What the buffer held was sent, and it was the datagrams of the messages. -/
theorem Current.faithful {platform : Platform Endpoint} {tempBuffer : TempBuffer}
    {messages : List MarketDataResponse} (current : platform.Current)
    (serialised : platform.serialised = datagrams tempBuffer messages)
    (set : ∀ message ∈ messages, (frameOf message).isSome = true) :
    platform.Faithful tempBuffer messages where
  encoded := datagrams_encode tempBuffer set
  own := by
    rw [← serialised]
    exact current.sent
  in_order := by
    rw [← serialised]
    exact fun _ => current.in_order
  complete := by
    rw [← serialised]
    exact fun _ => current.complete

/-! #### The loop -/

theorem pendingTo_read (platform : Platform Endpoint) (message : MarketDataResponse)
    {subscriber : Endpoint} (member : subscriber ∈ platform.subscribers) :
    (platform.read message).pendingTo subscriber = platform.pendingTo subscriber + 1 := by
  have once := List.count_eq_one_of_mem platform.distinct member
  have started : (platform.subscribers.countP (fun other => other = subscriber)) = 1 := once
  simp only [pendingTo, read, List.countP_append, List.countP_map]
  exact congrArg (platform.pendingTo subscriber + ·) started

/-- While nothing is pending, or where the buffer is not changed, a message is read without
harm to the pending sends. -/
theorem read_current {platform : Platform Endpoint} {message : MarketDataResponse}
    (current : platform.Current)
    (harmless : platform.pending = [] ∨
      serialiseMarketData message platform.tempBuffer = platform.tempBuffer) :
    (platform.read message).Current := by
  have earlier : ∀ {number : Nat} {bytes : List UInt8},
      platform.serialised[number]? = some bytes →
        (platform.read message).serialised[number]? = some bytes := by
    intro number bytes found
    have below := (List.getElem?_eq_some_iff.mp found).1
    exact (List.getElem?_append_left below).trans found
  constructor
  · exact ⟨platform.tempBuffer, rfl⟩
  · intro send member
    rcases List.mem_append.mp member with old | new
    · rcases harmless with none | same
      · rw [none] at old
        cases old
      · have right := current.pending send old
        have kept : (platform.read message).tempBuffer = platform.tempBuffer := same
        rw [kept]
        exact ⟨right.1, earlier right.2⟩
    · obtain ⟨subscriber, -, rfl⟩ := List.mem_map.mp new
      exact ⟨rfl, List.getElem?_concat_length⟩
  · intro datagram member
    exact earlier (current.sent datagram member)
  · intro subscriber member
    have accounted := current.accounted subscriber member
    have sent : (platform.read message).sentTo subscriber = platform.sentTo subscriber := rfl
    have serialised : (platform.read message).serialised =
        platform.serialised ++ [(platform.read message).tempBuffer.datagram] := rfl
    rw [sent, serialised, pendingTo_read platform message member]
    rcases harmless with none | same
    · have settled : platform.pendingTo subscriber = 0 := by
        rw [pendingTo, none]
        rfl
      rw [settled, List.replicate_zero, List.append_nil] at accounted
      rw [accounted, settled]
      rfl
    · have kept : (platform.read message).tempBuffer = platform.tempBuffer := same
      rw [kept, List.replicate_succ', ← List.append_assoc, accounted]

/-! #### The sends -/

theorem countP_eraseIdx {α : Type*} {items : List α} {position : Nat} {item : α}
    (found : items[position]? = some item) (holds : α → Bool) :
    items.countP holds =
      (items.eraseIdx position).countP holds + if holds item = true then 1 else 0 := by
  induction items generalizing position with
  | nil => cases found
  | cons first rest ih =>
      cases position with
      | zero =>
          cases found
          rw [List.countP_cons, List.eraseIdx_cons_zero]
      | succ position =>
          have further := ih found
          rw [List.countP_cons, List.eraseIdx_cons_succ, List.countP_cons, further]
          omega

theorem carryOut_current {platform next : Platform Endpoint} {position : Nat}
    (current : platform.Current) (taken : platform.carryOut position = .ok next) :
    next.Current := by
  unfold carryOut at taken
  split at taken
  · cases taken
  · rename_i send found
    cases taken
    have right := current.pending send (List.mem_of_getElem? found)
    have bytes : platform.tempBuffer.bytes.take send.length = platform.tempBuffer.datagram := by
      rw [right.1]
      rfl
    constructor
    · exact current.written
    · intro other member
      exact current.pending other (List.mem_of_mem_eraseIdx member)
    · intro datagram member
      rcases List.mem_append.mp member with old | new
      · exact current.sent datagram old
      · rw [List.mem_singleton.mp new]
        simp only [bytes]
        exact right.2
    · intro subscriber member
      have accounted := current.accounted subscriber member
      have count := countP_eraseIdx found (fun other => other.subscriber = subscriber)
      simp only [sentTo, pendingTo, List.filter_append, List.map_append, bytes] at accounted ⊢
      rw [count] at accounted
      by_cases here : send.subscriber = subscriber
      · rw [← accounted]
        simp [here, List.replicate_succ]
      · rw [← accounted]
        simp [here]

theorem step_current {platform next : Platform Endpoint} {event : SendEvent}
    (current : platform.Current) (allowed : platform.undisturbing event = true)
    (taken : platform.step event = .ok next) : next.Current := by
  cases event with
  | read message =>
      cases taken
      apply read_current current
      simp only [undisturbing, Bool.or_eq_true, List.isEmpty_iff] at allowed
      rcases allowed with none | again
      · exact Or.inl none
      · right
        obtain ⟨prior, written⟩ := current.written
        rw [written, serialiseMarketData_repeats again]
  | carryOut position => exact carryOut_current current taken

def oneSubscriber : Platform Nat := initial (.filled 0) [8] (by decide)

end Platform
end DataPlatform
end SpotExchange
