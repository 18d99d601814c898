/-
The data platform: the serialisation of a market data message into the one buffer that is
sent, and the bytes of the buffer that are sent.
-/

import SpotExchange.Bytes.LittleEndian
import SpotExchange.Info.Messages

namespace SpotExchange
namespace DataPlatform

open Bytes Wire

/-! ### The buffer -/

@[ext]
structure TempBuffer where
  bytes : List UInt8
  size : bytes.length = 255

def TempBuffer.filled (byte : UInt8) : TempBuffer :=
  { bytes := List.replicate 255 byte
    size := List.length_replicate }

/-- How many bytes are sent. The first byte is read as a signed number, and a negative
count sends the whole buffer. -/
def TempBuffer.transmitted (buffer : TempBuffer) : Nat :=
  let count := (buffer.bytes.headD 0).toInt8.toInt + 2
  if count < 0 then 255 else min 255 count.toNat

def TempBuffer.datagram (buffer : TempBuffer) : List UInt8 :=
  buffer.bytes.take buffer.transmitted

/-! ### Data as it is copied into the buffer -/

def uint64Bytes (data : UInt64) : List UInt8 := littleEndian 8 data.toNat

def int64Bytes (data : Int64) : List UInt8 := littleEndian 8 data.toUInt64.toNat

def uint32Bytes (data : UInt32) : List UInt8 := littleEndian 4 data.toNat

def boolBytes (data : Bool) : List UInt8 := [data.toUInt8]

/-- What a serialiser writes: the length it announces, the packet type, and the data. -/
structure Frame where
  announced : UInt8
  packetType : UInt8
  fields : List (List UInt8)

def Frame.payload (frame : Frame) : List UInt8 := frame.fields.flatten

/-- The pointer is moved past the data that are copied to it. -/
def serialiseBytes (pointer : Cursor) (data : List UInt8) : Cursor := pointer.put data

def Frame.write (frame : Frame) (buffer : List UInt8) : Cursor :=
  let start : Cursor :=
    { buffer := buffer
      position := 0 }
  let announced := serialiseBytes start [frame.announced]
  let typed := serialiseBytes announced [frame.packetType]
  frame.fields.foldl serialiseBytes typed

theorem fields_wrote {original written : List UInt8} {pointer : Cursor}
    (fields : List (List UInt8)) (wrote : pointer.Wrote original written)
    (fits : written.length + fields.flatten.length ≤ original.length) :
    (fields.foldl serialiseBytes pointer).Wrote original (written ++ fields.flatten) := by
  induction fields generalizing written pointer with
  | nil =>
      rw [List.flatten_nil, List.append_nil]
      exact wrote
  | cons field rest ih =>
      rw [List.flatten_cons, List.length_append] at fits
      have here : written.length + field.length ≤ original.length := by omega
      have later : (written ++ field).length + rest.flatten.length ≤ original.length := by
        rw [List.length_append]
        omega
      rw [List.foldl_cons, List.flatten_cons, ← List.append_assoc]
      exact ih (wrote.put here) later

theorem Frame.write_buffer {frame : Frame} {buffer : List UInt8}
    (fits : 2 + frame.payload.length ≤ buffer.length) :
    (frame.write buffer).buffer =
      frame.announced :: frame.packetType :: frame.payload ++
        buffer.drop (2 + frame.payload.length) := by
  have first : ([] : List UInt8).length + [frame.announced].length ≤ buffer.length := by
    simp only [List.length_nil, List.length_singleton]
    omega
  have second : ([] ++ [frame.announced]).length + [frame.packetType].length ≤ buffer.length := by
    simp only [List.length_append, List.length_nil, List.length_singleton]
    omega
  have typed := ((Cursor.wrote_nothing buffer).put first).put second
  have room : ([] ++ [frame.announced] ++ [frame.packetType]).length +
      frame.fields.flatten.length ≤ buffer.length := by
    simp only [List.length_append, List.length_nil, List.length_singleton]
    exact fits
  have written := (fields_wrote frame.fields typed room).buffer
  have length : frame.fields.flatten.length + 1 + 1 = 2 + frame.payload.length := by
    unfold Frame.payload
    omega
  simp only [List.nil_append, List.cons_append, List.length_cons, length] at written
  exact written

theorem serialiseBytes_length (pointer : Cursor) (data : List UInt8) :
    (serialiseBytes pointer data).buffer.length = pointer.buffer.length :=
  overwrite_length pointer.buffer pointer.position data

theorem fields_length (fields : List (List UInt8)) (pointer : Cursor) :
    (fields.foldl serialiseBytes pointer).buffer.length = pointer.buffer.length := by
  induction fields generalizing pointer with
  | nil => rfl
  | cons field rest ih => rw [List.foldl_cons, ih, serialiseBytes_length]

theorem Frame.write_length (frame : Frame) (buffer : List UInt8) :
    (frame.write buffer).buffer.length = buffer.length := by
  simp only [Frame.write, fields_length, serialiseBytes_length]

def TempBuffer.serialise (buffer : TempBuffer) (frame : Frame) : TempBuffer :=
  { bytes := (frame.write buffer.bytes).buffer
    size := (frame.write_length buffer.bytes).trans buffer.size }

/-! ### The serialisers -/

def addDataLen : UInt8 := 37

def modDataLen : UInt8 := 20

def cancelDataLen : UInt8 := 16

def fillDataLen : UInt8 := 46

def notificationLen : UInt8 := 1

def addFrame (data : OrderAdded) : Frame :=
  { announced := addDataLen
    packetType := 'A'.toUInt8
    fields :=
      [uint64Bytes data.timestamp, uint64Bytes data.orderId, uint64Bytes data.ticker,
        uint64Bytes data.price, uint32Bytes data.quantity, boolBytes data.isBuySide] }

def modFrame (data : OrderModified) : Frame :=
  { announced := modDataLen
    packetType := 'M'.toUInt8
    fields :=
      [uint64Bytes data.timestamp, uint64Bytes data.orderId, uint32Bytes data.quantity] }

def fillFrame (data : OrderEntryFill) : Frame :=
  { announced := fillDataLen
    packetType := 'F'.toUInt8
    fields :=
      [int64Bytes data.timestamp, uint64Bytes data.statusCommon.orderId,
        uint64Bytes data.statusCommon.ticker, uint64Bytes data.fillId,
        uint32Bytes data.fillQuantity] }

def notificationFrame (data : Notification) : Frame :=
  { announced := notificationLen
    packetType := 'N'.toUInt8
    fields := [uint64Bytes data.timestamp, uint32Bytes data.flag] }

def cancelFrame (data : OrderCancelled) : Frame :=
  { announced := cancelDataLen
    packetType := 'C'.toUInt8
    fields := [uint64Bytes data.timestamp, uint64Bytes data.orderId] }

def serialiseAddOrder (data : OrderAdded) (buffer : TempBuffer) : TempBuffer :=
  buffer.serialise (addFrame data)

def serialiseModOrder (data : OrderModified) (buffer : TempBuffer) : TempBuffer :=
  buffer.serialise (modFrame data)

def serialiseFill (data : OrderEntryFill) (buffer : TempBuffer) : TempBuffer :=
  buffer.serialise (fillFrame data)

def serialiseNotification (data : Notification) (buffer : TempBuffer) : TempBuffer :=
  buffer.serialise (notificationFrame data)

def serialiseCancel (data : OrderCancelled) (buffer : TempBuffer) : TempBuffer :=
  buffer.serialise (cancelFrame data)

/-- A message in which nothing is set leaves the buffer. -/
def serialiseMarketData (marketData : MarketDataResponse) (buffer : TempBuffer) : TempBuffer :=
  match marketData with
  | .add data => serialiseAddOrder data buffer
  | .cancel data => serialiseCancel data buffer
  | .fill data => serialiseFill data buffer
  | .mod data => serialiseModOrder data buffer
  | .notification data => serialiseNotification data buffer
  | .notSet => buffer

/-! ### What is sent of a frame -/

/-- A frame fits the buffer, and the announced length is positive as a signed byte. -/
structure Frame.Fits (frame : Frame) : Prop where
  payload : 2 + frame.payload.length ≤ 255
  announced : frame.announced.toNat < 126

theorem Frame.Fits.bytes {frame : Frame} (fits : frame.Fits) (buffer : TempBuffer) :
    (buffer.serialise frame).bytes =
      frame.announced :: frame.packetType :: frame.payload ++
        buffer.bytes.drop (2 + frame.payload.length) := by
  apply Frame.write_buffer
  rw [buffer.size]
  exact fits.payload

theorem transmitted_serialise {frame : Frame} (fits : frame.Fits) (buffer : TempBuffer) :
    (buffer.serialise frame).transmitted = frame.announced.toNat + 2 := by
  have small := fits.announced
  have signed : frame.announced.toInt8.toInt = frame.announced.toNat := by
    have bits : frame.announced.toInt8.toInt = frame.announced.toBitVec.toInt := rfl
    rw [bits, BitVec.toInt_eq_toNat_of_lt]
    · rfl
    · have same : frame.announced.toBitVec.toNat = frame.announced.toNat := rfl
      omega
  have first : (buffer.serialise frame).bytes.headD 0 = frame.announced := by
    rw [fits.bytes, List.cons_append, List.headD_cons]
  have positive : ¬(frame.announced.toNat : Int) + 2 < 0 := by omega
  rw [TempBuffer.transmitted, first, signed]
  simp only [if_neg positive]
  omega

theorem datagram_serialise {frame : Frame} (fits : frame.Fits) (buffer : TempBuffer) :
    (buffer.serialise frame).datagram =
      (frame.announced :: frame.packetType :: frame.payload ++
        buffer.bytes.drop (2 + frame.payload.length)).take (frame.announced.toNat + 2) := by
  rw [TempBuffer.datagram, transmitted_serialise fits, fits.bytes]

/-- A frame that announces no less than it has is sent whole, and what was in the buffer
before fills the rest. -/
theorem datagram_serialise_of_le {frame : Frame} (fits : frame.Fits)
    (enough : frame.payload.length ≤ frame.announced.toNat) (buffer : TempBuffer) :
    (buffer.serialise frame).datagram =
      frame.announced :: frame.packetType :: frame.payload ++
        (buffer.bytes.drop (2 + frame.payload.length)).take
          (frame.announced.toNat - frame.payload.length) := by
  have header : (frame.announced :: frame.packetType :: frame.payload).length ≤
      frame.announced.toNat + 2 := by
    simp only [List.length_cons]
    omega
  have rest : frame.announced.toNat + 2 -
      (frame.announced :: frame.packetType :: frame.payload).length =
      frame.announced.toNat - frame.payload.length := by
    simp only [List.length_cons]
    omega
  rw [datagram_serialise fits, List.take_append, List.take_of_length_le header, rest]

/-- A frame that announces no more than it has is sent without what was in the buffer. -/
theorem datagram_serialise_of_ge {frame : Frame} (fits : frame.Fits)
    (enough : frame.announced.toNat ≤ frame.payload.length) (buffer : TempBuffer) :
    (buffer.serialise frame).datagram =
      (frame.announced :: frame.packetType :: frame.payload).take (frame.announced.toNat + 2) := by
  rw [datagram_serialise fits, List.take_append_of_le_length]
  simp only [List.length_cons]
  omega

/-! ### The frames of the messages -/

def frameOf : MarketDataResponse → Option Frame
  | .add data => some (addFrame data)
  | .mod data => some (modFrame data)
  | .cancel data => some (cancelFrame data)
  | .fill data => some (fillFrame data)
  | .notification data => some (notificationFrame data)
  | .notSet => none

theorem serialiseMarketData_of_frame {message : MarketDataResponse} {frame : Frame}
    (found : frameOf message = some frame) (buffer : TempBuffer) :
    serialiseMarketData message buffer = buffer.serialise frame := by
  cases message with
  | notSet => cases found
  | _ =>
      cases found
      rfl

@[simp]
theorem uint64Bytes_length (data : UInt64) : (uint64Bytes data).length = 8 :=
  littleEndian_length 8 data.toNat

@[simp]
theorem int64Bytes_length (data : Int64) : (int64Bytes data).length = 8 :=
  littleEndian_length 8 data.toUInt64.toNat

@[simp]
theorem uint32Bytes_length (data : UInt32) : (uint32Bytes data).length = 4 :=
  littleEndian_length 4 data.toNat

@[simp]
theorem boolBytes_length (data : Bool) : (boolBytes data).length = 1 := rfl

@[simp]
theorem addFrame_length (data : OrderAdded) : (addFrame data).payload.length = 37 := by
  simp [Frame.payload, addFrame]

@[simp]
theorem modFrame_length (data : OrderModified) : (modFrame data).payload.length = 20 := by
  simp [Frame.payload, modFrame]

@[simp]
theorem cancelFrame_length (data : OrderCancelled) : (cancelFrame data).payload.length = 16 := by
  simp [Frame.payload, cancelFrame]

@[simp]
theorem fillFrame_length (data : OrderEntryFill) : (fillFrame data).payload.length = 36 := by
  simp [Frame.payload, fillFrame]

@[simp]
theorem notificationFrame_length (data : Notification) :
    (notificationFrame data).payload.length = 12 := by
  simp [Frame.payload, notificationFrame]

@[simp]
theorem addFrame_announced (data : OrderAdded) : (addFrame data).announced.toNat = 37 := rfl

@[simp]
theorem modFrame_announced (data : OrderModified) : (modFrame data).announced.toNat = 20 := rfl

@[simp]
theorem cancelFrame_announced (data : OrderCancelled) :
    (cancelFrame data).announced.toNat = 16 := rfl

@[simp]
theorem fillFrame_announced (data : OrderEntryFill) : (fillFrame data).announced.toNat = 46 := rfl

@[simp]
theorem notificationFrame_announced (data : Notification) :
    (notificationFrame data).announced.toNat = 1 := rfl

theorem frameOf_fits {message : MarketDataResponse} {frame : Frame}
    (found : frameOf message = some frame) : frame.Fits := by
  cases message with
  | notSet => cases found
  | _ =>
      cases found
      constructor
      · simp
      · simp

end DataPlatform
end SpotExchange
