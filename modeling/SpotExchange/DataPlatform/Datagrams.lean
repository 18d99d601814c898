/-
The datagrams that are made of a sequence of messages in one buffer. A datagram is its
message's own where the announced length is the length of what was serialised for it.
-/

import Mathlib.Data.List.Forall2
import SpotExchange.DataPlatform.Serialise

namespace SpotExchange
namespace DataPlatform

open Wire

/-- The datagram of each message that is read. -/
def datagrams : TempBuffer → List MarketDataResponse → List (List UInt8)
  | _, [] => []
  | buffer, message :: rest =>
      let serialised := serialiseMarketData message buffer
      serialised.datagram :: datagrams serialised rest

/-- The length byte counts what is serialised for the message, and the datagram is the
header and this. A message in which nothing is set has no datagram of its own. -/
def OwnDatagram (message : MarketDataResponse) (datagram : List UInt8) : Prop :=
  ∃ frame, frameOf message = some frame ∧
    frame.announced.toNat = frame.payload.length ∧
    datagram = frame.announced :: frame.packetType :: frame.payload

/-- The header and the data of a message, as they are serialised. -/
def Frame.encoding (frame : Frame) : List UInt8 :=
  frame.announced :: frame.packetType :: frame.payload

/-- The bytes are the encoding of the message, as many as its length byte announces. Where this
is less the encoding is cut off, and where it is more other bytes follow. A message in which
nothing is set has no encoding. -/
def Encodes (message : MarketDataResponse) (bytes : List UInt8) : Prop :=
  ∃ frame, frameOf message = some frame ∧ bytes.length = frame.announced.toNat + 2 ∧
    bytes.take frame.encoding.length = frame.encoding.take bytes.length

/-- Whatever was in the buffer, the datagram of a message encodes it. -/
theorem serialiseMarketData_encodes {message : MarketDataResponse} {frame : Frame}
    (found : frameOf message = some frame) (buffer : TempBuffer) :
    Encodes message (serialiseMarketData message buffer).datagram := by
  have fits := frameOf_fits found
  have length : (serialiseMarketData message buffer).datagram.length =
      frame.announced.toNat + 2 := by
    rw [serialiseMarketData_of_frame found, TempBuffer.datagram, List.length_take,
      transmitted_serialise fits, TempBuffer.size]
    have small := fits.announced
    omega
  refine ⟨frame, found, length, ?_⟩
  rw [length, serialiseMarketData_of_frame found, datagram_serialise fits, List.take_take,
    Nat.min_comm, ← List.take_take]
  exact congrArg (List.take _) (List.take_left' rfl)

/-- One after the other, each in the buffer that the one before has left. -/
theorem datagrams_encode (buffer : TempBuffer) {messages : List MarketDataResponse}
    (set : ∀ message ∈ messages, (frameOf message).isSome = true) :
    List.Forall₂ Encodes messages (datagrams buffer messages) := by
  induction messages generalizing buffer with
  | nil => exact List.Forall₂.nil
  | cons message rest ih =>
      obtain ⟨here, later⟩ := List.forall_mem_cons.mp set
      obtain ⟨frame, found⟩ := Option.isSome_iff_exists.mp here
      exact List.Forall₂.cons (serialiseMarketData_encodes found buffer) (ih _ later)

/-- The kinds of message whose length constant is the length of what is serialised. -/
def lengthAgrees : MarketDataResponse → Bool
  | .add _ => true
  | .mod _ => true
  | .cancel _ => true
  | .fill _ => false
  | .notification _ => false
  | .notSet => false

theorem lengthAgrees_iff (message : MarketDataResponse) :
    lengthAgrees message = true ↔
      ∃ frame, frameOf message = some frame ∧
        frame.announced.toNat = frame.payload.length := by
  cases message with
  | notSet =>
      constructor
      · intro agrees
        cases agrees
      · rintro ⟨frame, found, -⟩
        cases found
  | _ => simp [lengthAgrees, frameOf]

/-- Where the length agrees, the bytes that encode a message are its own datagram. -/
theorem Encodes.own {message : MarketDataResponse} {bytes : List UInt8}
    (encodes : Encodes message bytes) (agrees : lengthAgrees message = true) :
    OwnDatagram message bytes := by
  obtain ⟨frame, found, length, same⟩ := encodes
  obtain ⟨other, again, announced⟩ := (lengthAgrees_iff message).mp agrees
  rw [found] at again
  cases again
  have whole : frame.encoding.length = bytes.length := by
    rw [length, announced]
    rfl
  rw [whole, List.take_length, ← whole, List.take_length] at same
  exact ⟨frame, found, announced, same⟩

/-- The datagram that is sent for a message is its own exactly when its length agrees,
whatever was in the buffer. -/
theorem ownDatagram_iff (message : MarketDataResponse) (buffer : TempBuffer) :
    OwnDatagram message (serialiseMarketData message buffer).datagram ↔
      lengthAgrees message = true := by
  rw [lengthAgrees_iff]
  constructor
  · rintro ⟨frame, found, agrees, -⟩
    exact ⟨frame, found, agrees⟩
  · rintro ⟨frame, found, agrees⟩
    refine ⟨frame, found, agrees, ?_⟩
    rw [serialiseMarketData_of_frame found,
      datagram_serialise_of_le (frameOf_fits found) (Nat.le_of_eq agrees.symm), agrees,
      Nat.sub_self, List.take_zero, List.append_nil]

/-- The kinds of message of which no less is serialised than is announced. -/
def lengthCovered : MarketDataResponse → Bool
  | .add _ => true
  | .mod _ => true
  | .cancel _ => true
  | .fill _ => false
  | .notification _ => true
  | .notSet => false

/-- The datagram that is sent for a message does not depend on what was in the buffer
exactly when no less is serialised than is announced. -/
theorem datagram_alone_iff (message : MarketDataResponse) :
    (∀ left right, (serialiseMarketData message left).datagram =
        (serialiseMarketData message right).datagram) ↔
      lengthCovered message = true := by
  constructor
  · intro alone
    have same := alone (.filled 0) (.filled 1)
    cases message with
    | fill data =>
        have found : frameOf (.fill data) = some (fillFrame data) := rfl
        have enough : (fillFrame data).payload.length ≤ (fillFrame data).announced.toNat := by simp
        have whole := datagram_serialise_of_le (frameOf_fits found) enough
        rw [serialiseMarketData_of_frame found, serialiseMarketData_of_frame found, whole,
          whole] at same
        have rest := List.append_cancel_left same
        rw [fillFrame_announced, fillFrame_length] at rest
        exact absurd rest (by decide)
    | notSet => exact absurd same (by decide)
    | _ => rfl
  · intro covered left right
    cases found : frameOf message with
    | none =>
        cases message with
        | notSet => cases covered
        | _ => cases found
    | some frame =>
        have enough : frame.announced.toNat ≤ frame.payload.length := by
          cases message with
          | fill data => cases covered
          | notSet => cases covered
          | _ =>
              cases found
              simp
        rw [serialiseMarketData_of_frame found, serialiseMarketData_of_frame found,
          datagram_serialise_of_ge (frameOf_fits found) enough,
          datagram_serialise_of_ge (frameOf_fits found) enough]

/-- Every datagram is its message's own exactly when only orders are added, modified and
cancelled. -/
theorem datagrams_own_iff (buffer : TempBuffer) (messages : List MarketDataResponse) :
    List.Forall₂ OwnDatagram messages (datagrams buffer messages) ↔
      ∀ message ∈ messages, lengthAgrees message = true := by
  induction messages generalizing buffer with
  | nil =>
      constructor
      · intro _ message member
        cases member
      · intro _
        exact List.Forall₂.nil
  | cons message rest ih =>
      rw [datagrams, List.forall₂_cons, List.forall_mem_cons, ownDatagram_iff, ih]

def addedOrder (isBuySide : Bool) : MarketDataResponse :=
  .add
    { timestamp := 0
      orderId := 1
      ticker := 7
      price := 100
      quantity := 5
      isBuySide := isBuySide }

def filledOrder : MarketDataResponse :=
  .fill
    { timestamp := 0
      statusCommon :=
        { orderId := 1
          ticker := 7
          userId := 0 }
      completeFill := true
      fillQuantity := 5
      fillId := 2
      allocAlgo := .fifo }

/-- The fill of an order carries the side of the order that was added before, and a message
in which nothing is set repeats the datagram before it. -/
theorem earlier_bytes_sent :
    (datagrams (.filled 0) [addedOrder true, filledOrder])[1]? ≠
        (datagrams (.filled 0) [addedOrder false, filledOrder])[1]? ∧
      (∃ datagram, datagrams (.filled 0) [addedOrder true, .notSet] = [datagram, datagram]) ∧
      ¬List.Forall₂ OwnDatagram [addedOrder true, filledOrder]
        (datagrams (.filled 0) [addedOrder true, filledOrder]) := by
  refine ⟨by decide +kernel, ⟨_, rfl⟩, ?_⟩
  intro own
  have second := (List.forall₂_cons.mp (List.forall₂_cons.mp own).2).1
  have agrees := (ownDatagram_iff filledOrder _).mp second
  cases agrees

end DataPlatform
end SpotExchange
