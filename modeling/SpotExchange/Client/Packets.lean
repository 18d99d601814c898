/-
The structures that the client reads out of a datagram, and what becomes of the messages
that the data platform serialises.
-/

import SpotExchange.Client.FeedHandler
import SpotExchange.DataPlatform.Serialise

namespace SpotExchange
namespace Client

open Bytes DataPlatform Engine Wire

/-! ### Reading -/

structure NotificationData where
  timestamp : Int64
  flag : UInt8
  deriving DecidableEq, Repr

def headerLen : Nat := 2

def uint64Of (bytes : List UInt8) : UInt64 := UInt64.ofNat (value bytes)

def int64Of (bytes : List UInt8) : Int64 := (uint64Of bytes).toInt64

def int32Of (bytes : List UInt8) : Int32 := (UInt32.ofNat (value bytes)).toInt32

def uint8Of (bytes : List UInt8) : UInt8 := UInt8.ofNat (value bytes)

/-- The index of the book is not in the datagram. -/
def readAddOrderData (buffer : List UInt8) : Option AddOrderData :=
  match members buffer headerLen [8, 8, 8, 8, 4, 1] with
  | some [timestamp, orderId, ticker, price, quantity, isBuySide] =>
      some
        { timestamp := int64Of timestamp
          orderId := uint64Of orderId
          ticker := uint64Of ticker
          price := uint64Of price
          quantity := int32Of quantity
          isBuySide := uint8Of isBuySide
          bookIndex := 0 }
  | _ => none

def readModOrderData (buffer : List UInt8) : Option ModOrderData :=
  match members buffer headerLen [8, 8, 4] with
  | some [timestamp, orderId, quantity] =>
      some
        { timestamp := int64Of timestamp
          orderId := uint64Of orderId
          quantity := int32Of quantity }
  | _ => none

def readCancelOrderData (buffer : List UInt8) : Option CancelOrderData :=
  match members buffer headerLen [8, 8] with
  | some [timestamp, orderId] =>
      some
        { timestamp := int64Of timestamp
          orderId := uint64Of orderId }
  | _ => none

def readFillOrderData (buffer : List UInt8) : Option FillOrderData :=
  match members buffer headerLen [8, 8, 8, 8, 4] with
  | some [timestamp, orderId, ticker, fillId, quantity] =>
      some
        { timestamp := int64Of timestamp
          orderId := uint64Of orderId
          ticker := uint64Of ticker
          fillId := uint64Of fillId
          quantity := int32Of quantity }
  | _ => none

def readNotificationData (buffer : List UInt8) : Option NotificationData :=
  match members buffer headerLen [8, 1] with
  | some [timestamp, flag] =>
      some
        { timestamp := int64Of timestamp
          flag := uint8Of flag }
  | _ => none

/-- What a packet does to the feed handler, where the structure of its type lies within the
buffer. A notification is not looked at, nor is a packet of an unknown type. -/
def processMarketData (feedhandler : ClientFeedHandler) (buffer : List UInt8) :
    Option (Except Fault ClientFeedHandler) :=
  match buffer[1]? with
  | none => none
  | some packetType =>
      if packetType = 'A'.toUInt8 then (readAddOrderData buffer).map feedhandler.addOrder
      else if packetType = 'M'.toUInt8 then (readModOrderData buffer).map feedhandler.modifyOrder
      else if packetType = 'C'.toUInt8 then
        (readCancelOrderData buffer).map feedhandler.cancelOrder
      else if packetType = 'F'.toUInt8 then (readFillOrderData buffer).map feedhandler.fillOrder
      else some (.ok feedhandler)

/-! ### Words are read as they were written -/

@[simp]
theorem uint64Of_uint64Bytes (data : UInt64) : uint64Of (uint64Bytes data) = data := by
  have small : data.toNat < 256 ^ 8 := data.toNat_lt
  rw [uint64Of, uint64Bytes, value_of_lt small, UInt64.ofNat_toNat]

@[simp]
theorem int64Of_uint64Bytes (data : UInt64) : int64Of (uint64Bytes data) = data.toInt64 := by
  rw [int64Of, uint64Of_uint64Bytes]

@[simp]
theorem int64Of_int64Bytes (data : Int64) : int64Of (int64Bytes data) = data :=
  int64Of_uint64Bytes data.toUInt64

@[simp]
theorem int32Of_uint32Bytes (data : UInt32) : int32Of (uint32Bytes data) = data.toInt32 := by
  have small : data.toNat < 256 ^ 4 := data.toNat_lt
  rw [int32Of, uint32Bytes, value_of_lt small, UInt32.ofNat_toNat]

@[simp]
theorem uint8Of_boolBytes (data : Bool) : uint8Of (boolBytes data) = data.toUInt8 := by
  cases data <;> rfl

/-! ### Packets are read as they were serialised -/

/-- The data of a frame that is sent whole are read back. -/
theorem members_datagram {message : MarketDataResponse} {frame : Frame} {sizes : List Nat}
    (found : frameOf message = some frame)
    (enough : frame.payload.length ≤ frame.announced.toNat)
    (sized : frame.fields.map List.length = sizes) (packed : unpadded 0 sizes = true)
    (buffer : TempBuffer) :
    members (buffer.serialise frame).datagram headerLen sizes = some frame.fields := by
  rw [datagram_serialise_of_le (frameOf_fits found) enough, ← sized]
  rw [← sized] at packed
  exact @members_packed [frame.announced, frame.packetType] frame.fields _ packed

theorem readAddOrderData_datagram (data : OrderAdded) (buffer : TempBuffer) :
    readAddOrderData (serialiseAddOrder data buffer).datagram =
      some
        { timestamp := data.timestamp.toInt64
          orderId := data.orderId
          ticker := data.ticker
          price := data.price
          quantity := data.quantity.toInt32
          isBuySide := data.isBuySide.toUInt8
          bookIndex := 0 } := by
  have found : frameOf (.add data) = some (addFrame data) := rfl
  have sized : (addFrame data).fields.map List.length = [8, 8, 8, 8, 4, 1] := by simp [addFrame]
  have read := members_datagram found (by simp) sized (by decide) buffer
  rw [readAddOrderData, serialiseAddOrder, read]
  simp [addFrame]

theorem readModOrderData_datagram (data : OrderModified) (buffer : TempBuffer) :
    readModOrderData (serialiseModOrder data buffer).datagram =
      some
        { timestamp := data.timestamp.toInt64
          orderId := data.orderId
          quantity := data.quantity.toInt32 } := by
  have found : frameOf (.mod data) = some (modFrame data) := rfl
  have sized : (modFrame data).fields.map List.length = [8, 8, 4] := by simp [modFrame]
  have read := members_datagram found (by simp) sized (by decide) buffer
  rw [readModOrderData, serialiseModOrder, read]
  simp [modFrame]

theorem readCancelOrderData_datagram (data : OrderCancelled) (buffer : TempBuffer) :
    readCancelOrderData (serialiseCancel data buffer).datagram =
      some
        { timestamp := data.timestamp.toInt64
          orderId := data.orderId } := by
  have found : frameOf (.cancel data) = some (cancelFrame data) := rfl
  have sized : (cancelFrame data).fields.map List.length = [8, 8] := by simp [cancelFrame]
  have read := members_datagram found (by simp) sized (by decide) buffer
  rw [readCancelOrderData, serialiseCancel, read]
  simp [cancelFrame]

theorem readFillOrderData_datagram (data : OrderEntryFill) (buffer : TempBuffer) :
    readFillOrderData (serialiseFill data buffer).datagram =
      some
        { timestamp := data.timestamp
          orderId := data.statusCommon.orderId
          ticker := data.statusCommon.ticker
          fillId := data.fillId
          quantity := data.fillQuantity.toInt32 } := by
  have found : frameOf (.fill data) = some (fillFrame data) := rfl
  have sized : (fillFrame data).fields.map List.length = [8, 8, 8, 8, 4] := by simp [fillFrame]
  have read := members_datagram found (by simp) sized (by decide) buffer
  rw [readFillOrderData, serialiseFill, read]
  simp [fillFrame]

/-- The datagram of a notification ends within the timestamp. -/
theorem readNotificationData_datagram (data : Notification) (buffer : TempBuffer) :
    readNotificationData (serialiseNotification data buffer).datagram = none := by
  have found : frameOf (.notification data) = some (notificationFrame data) := rfl
  have fits := frameOf_fits found
  have short : (serialiseNotification data buffer).datagram.length ≤ 3 := by
    rw [serialiseNotification, datagram_serialise fits, List.length_take,
      notificationFrame_announced]
    exact Nat.min_le_left _ _
  have past : (serialiseNotification data buffer).datagram.length < headerLen + 8 :=
    Nat.lt_of_le_of_lt short (by decide)
  rw [readNotificationData, members_eq_none [1] past]

theorem packetType_datagram {message : MarketDataResponse} {frame : Frame}
    (found : frameOf message = some frame) (buffer : TempBuffer) :
    (serialiseMarketData message buffer).datagram[1]? = some frame.packetType := by
  rw [serialiseMarketData_of_frame found, datagram_serialise (frameOf_fits found)]
  rfl

/-- What is serialised is handled as the message it was made from. -/
theorem processMarketData_datagram {message : MarketDataResponse} {frame : Frame}
    (found : frameOf message = some frame) (feedhandler : ClientFeedHandler)
    (buffer : TempBuffer) :
    processMarketData feedhandler (serialiseMarketData message buffer).datagram =
      some (feedhandler.receive message) := by
  rw [processMarketData, packetType_datagram found]
  dsimp only
  cases message with
  | notSet => cases found
  | add data =>
      cases found
      have tag : (addFrame data).packetType = 'A'.toUInt8 := rfl
      rw [tag, if_pos rfl, serialiseMarketData, readAddOrderData_datagram]
      rfl
  | mod data =>
      cases found
      have tag : (modFrame data).packetType = 'M'.toUInt8 := rfl
      rw [tag, if_neg (by decide), if_pos rfl, serialiseMarketData,
        readModOrderData_datagram]
      rfl
  | cancel data =>
      cases found
      have tag : (cancelFrame data).packetType = 'C'.toUInt8 := rfl
      rw [tag, if_neg (by decide), if_neg (by decide), if_pos rfl, serialiseMarketData,
        readCancelOrderData_datagram]
      rfl
  | fill data =>
      cases found
      have tag : (fillFrame data).packetType = 'F'.toUInt8 := rfl
      rw [tag, if_neg (by decide), if_neg (by decide), if_neg (by decide), if_pos rfl,
        serialiseMarketData, readFillOrderData_datagram]
      rfl
  | notification data =>
      cases found
      have tag : (notificationFrame data).packetType = 'N'.toUInt8 := rfl
      rw [tag, if_neg (by decide), if_neg (by decide), if_neg (by decide),
        if_neg (by decide)]
      rfl

/-! ### Numbers are read as they were sent -/

/-- The structure of the packet's type lies within the datagram, and each of its members is
the number that was sent. -/
def ReadsBack (datagram : List UInt8) : MarketDataResponse → Prop
  | .add data =>
      datagram[1]? = some 'A'.toUInt8 ∧ ∃ read, readAddOrderData datagram = some read ∧
        read.timestamp.toInt = data.timestamp.toNat ∧ read.orderId.toNat = data.orderId.toNat ∧
        read.ticker.toNat = data.ticker.toNat ∧ read.price.toNat = data.price.toNat ∧
        read.quantity.toInt = data.quantity.toNat ∧ read.isBuySide.toNat = data.isBuySide.toNat
  | .mod data =>
      datagram[1]? = some 'M'.toUInt8 ∧ ∃ read, readModOrderData datagram = some read ∧
        read.timestamp.toInt = data.timestamp.toNat ∧ read.orderId.toNat = data.orderId.toNat ∧
        read.quantity.toInt = data.quantity.toNat
  | .cancel data =>
      datagram[1]? = some 'C'.toUInt8 ∧ ∃ read, readCancelOrderData datagram = some read ∧
        read.timestamp.toInt = data.timestamp.toNat ∧ read.orderId.toNat = data.orderId.toNat
  | .fill data =>
      datagram[1]? = some 'F'.toUInt8 ∧ ∃ read, readFillOrderData datagram = some read ∧
        read.timestamp.toInt = data.timestamp.toInt ∧
        read.orderId.toNat = data.statusCommon.orderId.toNat ∧
        read.ticker.toNat = data.statusCommon.ticker.toNat ∧
        read.fillId.toNat = data.fillId.toNat ∧ read.quantity.toInt = data.fillQuantity.toNat
  | .notification data =>
      datagram[1]? = some 'N'.toUInt8 ∧ ∃ read, readNotificationData datagram = some read ∧
        read.timestamp.toInt = data.timestamp.toNat ∧ read.flag.toNat = data.flag.toNat
  | .notSet => True

/-- Timestamps and quantities fit the signed members that they are read into, and the
message is no notification. -/
def Representable : MarketDataResponse → Prop
  | .add data => data.timestamp.toNat < 2 ^ 63 ∧ data.quantity.toNat < 2 ^ 31
  | .mod data => data.timestamp.toNat < 2 ^ 63 ∧ data.quantity.toNat < 2 ^ 31
  | .cancel data => data.timestamp.toNat < 2 ^ 63
  | .fill data => data.fillQuantity.toNat < 2 ^ 31
  | .notification _ => False
  | .notSet => True

/-- A message is read back from its datagram exactly when it is representable. -/
theorem readsBack_iff (message : MarketDataResponse) (buffer : TempBuffer) :
    ReadsBack (serialiseMarketData message buffer).datagram message ↔
      Representable message := by
  cases message with
  | add data =>
      have found : frameOf (.add data) = some (addFrame data) := rfl
      have typed : (serialiseAddOrder data buffer).datagram[1]? = some 'A'.toUInt8 :=
        packetType_datagram found buffer
      have read := readAddOrderData_datagram data buffer
      have flag : data.isBuySide.toUInt8.toNat = data.isBuySide.toNat := by
        cases data.isBuySide <;> rfl
      simp only [ReadsBack, Representable, serialiseMarketData, typed, read, Option.some.injEq,
        exists_eq_left', toInt64_toInt_iff, toInt32_toInt_iff, flag, true_and, and_true]
  | mod data =>
      have found : frameOf (.mod data) = some (modFrame data) := rfl
      have typed : (serialiseModOrder data buffer).datagram[1]? = some 'M'.toUInt8 :=
        packetType_datagram found buffer
      have read := readModOrderData_datagram data buffer
      simp only [ReadsBack, Representable, serialiseMarketData, typed, read, Option.some.injEq,
        exists_eq_left', toInt64_toInt_iff, toInt32_toInt_iff, true_and]
  | cancel data =>
      have found : frameOf (.cancel data) = some (cancelFrame data) := rfl
      have typed : (serialiseCancel data buffer).datagram[1]? = some 'C'.toUInt8 :=
        packetType_datagram found buffer
      have read := readCancelOrderData_datagram data buffer
      simp only [ReadsBack, Representable, serialiseMarketData, typed, read, Option.some.injEq,
        exists_eq_left', toInt64_toInt_iff, true_and, and_true]
  | fill data =>
      have found : frameOf (.fill data) = some (fillFrame data) := rfl
      have typed : (serialiseFill data buffer).datagram[1]? = some 'F'.toUInt8 :=
        packetType_datagram found buffer
      have read := readFillOrderData_datagram data buffer
      simp only [ReadsBack, Representable, serialiseMarketData, typed, read, Option.some.injEq,
        exists_eq_left', toInt32_toInt_iff, true_and]
  | notification data =>
      have cut := readNotificationData_datagram data buffer
      constructor
      · rintro ⟨-, read, found, -⟩
        rw [serialiseMarketData, cut] at found
        cases found
      · intro representable
        exact absurd representable id
  | notSet => exact Iff.rfl

/-- A notification is cut off within its timestamp, and a large quantity is read as a
negative one. -/
theorem notification_not_readBack :
    ¬ReadsBack (serialiseMarketData (.notification
        { timestamp := 5
          flag := 1 }) (.filled 0)).datagram (.notification
        { timestamp := 5
          flag := 1 }) ∧
      ¬ReadsBack (serialiseMarketData (.mod
        { timestamp := 5
          orderId := 1
          quantity := 2147483648 }) (.filled 0)).datagram (.mod
        { timestamp := 5
          orderId := 1
          quantity := 2147483648 }) := by
  constructor
  · rintro ⟨-, read, found, -⟩
    have cut := readNotificationData_datagram
      { timestamp := 5
        flag := 1 } (.filled 0)
    cases cut.symm.trans found
  · rintro ⟨-, read, found, -, -, same⟩
    have whole := readModOrderData_datagram
      { timestamp := 5
        orderId := 1
        quantity := 2147483648 } (.filled 0)
    cases whole.symm.trans found
    exact absurd same (by decide)

end Client
end SpotExchange
