/-
The client's receive buffer. A datagram overwrites the front of it, and what a packet is read
from reaches as far as the structure of its type does.
-/

import SpotExchange.Client.Packets
import SpotExchange.Client.Subscription

namespace SpotExchange
namespace Client

open Bytes Engine Machine

/-! ### Receiving -/

structure ReceiveBuffer where
  bytes : List UInt8
  size : bytes.length = 64

structure ReceivedDatagram where
  bytes : List UInt8
  fits : bytes.length ≤ 64

namespace ReceiveBuffer

def received (buffer : ReceiveBuffer) (datagram : ReceivedDatagram) : ReceiveBuffer :=
  { bytes := overwrite buffer.bytes 0 datagram.bytes
    size := by rw [overwrite_length, buffer.size] }

/-- What a datagram does to the feed handler. The number of its bytes is not looked at, and
its first byte is stored and not used. -/
def readMarketData (handler : ClientFeedHandler) (buffer : ReceiveBuffer)
    (datagram : ReceivedDatagram) : Option (Except Fault ClientFeedHandler) :=
  processMarketData handler (buffer.received datagram).bytes

theorem received_bytes (buffer : ReceiveBuffer) (datagram : ReceivedDatagram) :
    (buffer.received datagram).bytes =
      datagram.bytes ++ buffer.bytes.drop datagram.bytes.length := by
  have fits : datagram.bytes.length ≤ buffer.bytes.length := by
    rw [buffer.size]
    exact datagram.fits
  have written := overwrite_append [] buffer.bytes datagram.bytes fits
  rw [List.nil_append, List.length_nil, List.nil_append] at written
  exact written

end ReceiveBuffer

/-! ### Datagrams of the right size -/

/-- The types of the packets that change books. -/
def bookPackets : List UInt8 := ['A'.toUInt8, 'M'.toUInt8, 'C'.toUInt8, 'F'.toUInt8]

/-- The members that a packet of a type is read from. -/
def sizesOf (packetType : UInt8) : List Nat :=
  if packetType = 'A'.toUInt8 then [8, 8, 8, 8, 4, 1]
  else if packetType = 'M'.toUInt8 then [8, 8, 4]
  else if packetType = 'C'.toUInt8 then [8, 8]
  else if packetType = 'F'.toUInt8 then [8, 8, 8, 8, 4]
  else if packetType = 'N'.toUInt8 then [8, 1]
  else []

/-- The size of a whole packet of a type. -/
def packetSize (packetType : UInt8) : Nat := headerLen + (sizesOf packetType).sum

namespace ReceivedDatagram

/-- The datagram has no type, or ends before its packet does. -/
def Short (datagram : ReceivedDatagram) : Prop :=
  ∀ packetType, datagram.bytes[1]? = some packetType →
    datagram.bytes.length < packetSize packetType

/-- The length byte is not the number of the bytes behind the header. -/
def Disagrees (datagram : ReceivedDatagram) : Prop :=
  ∃ dataLength, datagram.bytes[0]? = some dataLength ∧
    headerLen + dataLength.toNat ≠ datagram.bytes.length

/-- The datagram has a type and, where the type is that of a packet that changes books, is as
long as the type and its length byte say. -/
def Sound (datagram : ReceivedDatagram) : Prop :=
  ∃ packetType, datagram.bytes[1]? = some packetType ∧
    (packetType ∈ bookPackets →
      packetSize packetType ≤ datagram.bytes.length ∧ ¬datagram.Disagrees)

/-- What the datagram does depends on nothing that was in the buffer before; nothing, where it
is too short or has another size than its length byte says. -/
structure OwnBytesOnly (datagram : ReceivedDatagram) : Prop where
  alone : ∀ handler messages, run ClientFeedHandler.process ClientFeedHandler.fresh messages =
    .ok handler → ∀ first second : ReceiveBuffer,
      ReceiveBuffer.readMarketData handler first datagram =
        ReceiveBuffer.readMarketData handler second datagram
  refused : datagram.Short ∨ datagram.Disagrees →
    ∀ handler messages, run ClientFeedHandler.process ClientFeedHandler.fresh messages =
      .ok handler → ∀ buffer : ReceiveBuffer,
        ReceiveBuffer.readMarketData handler buffer datagram = some (.ok handler)

end ReceivedDatagram

/-! ### Reading the front of a buffer -/

theorem within_packetSize {packetType : UInt8} (tagged : packetType ∈ bookPackets) :
    Within headerLen (sizesOf packetType) (packetSize packetType) := by
  revert tagged
  rw [bookPackets, List.mem_cons, List.mem_cons, List.mem_cons, List.mem_singleton]
  rintro (rfl | rfl | rfl | rfl) <;> decide

section Reading

variable {front : List UInt8} {packetType : UInt8}

/-- A packet that is whole is read from its own bytes. -/
theorem processMarketData_front (handler : ClientFeedHandler) (back : List UInt8)
    (typed : front[1]? = some packetType)
    (whole : packetType ∈ bookPackets → packetSize packetType ≤ front.length) :
    processMarketData handler (front ++ back) = processMarketData handler front := by
  have typedBoth : (front ++ back)[1]? = some packetType := by
    obtain ⟨inside, -⟩ := List.getElem?_eq_some_iff.mp typed
    rw [List.getElem?_append_left inside, typed]
  have same : packetType ∈ bookPackets → members (front ++ back) headerLen (sizesOf packetType) =
      members front headerLen (sizesOf packetType) := by
    intro tagged
    exact members_front back ((within_packetSize tagged).mono (whole tagged))
  rw [processMarketData, processMarketData, typed, typedBoth]
  dsimp only
  by_cases isAdd : packetType = 'A'.toUInt8
  · subst isAdd
    have read := same (by decide)
    change members (front ++ back) headerLen [8, 8, 8, 8, 4, 1] = _ at read
    rw [if_pos rfl, if_pos rfl, readAddOrderData, readAddOrderData, read]
    rfl
  rw [if_neg isAdd, if_neg isAdd]
  by_cases isModify : packetType = 'M'.toUInt8
  · subst isModify
    have read := same (by decide)
    change members (front ++ back) headerLen [8, 8, 4] = _ at read
    rw [if_pos rfl, if_pos rfl, readModOrderData, readModOrderData, read]
    rfl
  rw [if_neg isModify, if_neg isModify]
  by_cases isCancel : packetType = 'C'.toUInt8
  · subst isCancel
    have read := same (by decide)
    change members (front ++ back) headerLen [8, 8] = _ at read
    rw [if_pos rfl, if_pos rfl, readCancelOrderData, readCancelOrderData, read]
    rfl
  rw [if_neg isCancel, if_neg isCancel]
  by_cases isFill : packetType = 'F'.toUInt8
  · subst isFill
    have read := same (by decide)
    change members (front ++ back) headerLen [8, 8, 8, 8, 4] = _ at read
    rw [if_pos rfl, if_pos rfl, readFillOrderData, readFillOrderData, read]
    rfl
  rw [if_neg isFill, if_neg isFill]

/-- A packet of another type is passed over. -/
theorem processMarketData_other (handler : ClientFeedHandler)
    (typed : front[1]? = some packetType) (other : packetType ∉ bookPackets) :
    processMarketData handler front = some (.ok handler) := by
  simp only [bookPackets, List.mem_cons, List.not_mem_nil, or_false, not_or] at other
  rw [processMarketData, typed]
  dsimp only
  rw [if_neg other.1, if_neg other.2.1, if_neg other.2.2.1, if_neg other.2.2.2]

end Reading

/-! ### A packet that is acted upon -/

section Acting

variable {bytes : List UInt8}

theorem readAddOrderData_total (size : bytes.length = 64) :
    ∃ data, readAddOrderData bytes = some data := by
  obtain ⟨fields, found, length⟩ := @members_inside bytes headerLen [8, 8, 8, 8, 4, 1] (by
    rw [size]
    decide)
  match fields, length with
  | [timestamp, orderId, ticker, price, quantity, isBuySide], _ =>
      rw [readAddOrderData, found]
      exact ⟨_, rfl⟩

theorem readModOrderData_total (size : bytes.length = 64) :
    ∃ data, readModOrderData bytes = some data := by
  obtain ⟨fields, found, length⟩ := @members_inside bytes headerLen [8, 8, 4] (by
    rw [size]
    decide)
  match fields, length with
  | [timestamp, orderId, quantity], _ =>
      rw [readModOrderData, found]
      exact ⟨_, rfl⟩

theorem readCancelOrderData_total (size : bytes.length = 64) :
    ∃ data, readCancelOrderData bytes = some data := by
  obtain ⟨fields, found, length⟩ := @members_inside bytes headerLen [8, 8] (by
    rw [size]
    decide)
  match fields, length with
  | [timestamp, orderId], _ =>
      rw [readCancelOrderData, found]
      exact ⟨_, rfl⟩

theorem readFillOrderData_total (size : bytes.length = 64) :
    ∃ data, readFillOrderData bytes = some data := by
  obtain ⟨fields, found, length⟩ := @members_inside bytes headerLen [8, 8, 8, 8, 4] (by
    rw [size]
    decide)
  match fields, length with
  | [timestamp, orderId, ticker, fillId, quantity], _ =>
      rw [readFillOrderData, found]
      exact ⟨_, rfl⟩

/-- A handler that tracks an order. -/
theorem exists_tracking (orderId : OrderId) (quantity : Int32) :
    ∃ messages handler data,
      run ClientFeedHandler.process ClientFeedHandler.fresh messages = .ok handler ∧
        handler.orders.lookup orderId = some data ∧ data.quantity = quantity := by
  let newOrder : AddOrderData :=
    { timestamp := 0
      orderId := orderId
      ticker := 1
      price := 100
      quantity := quantity
      isBuySide := 1
      bookIndex := 0 }
  obtain ⟨next, returned, -, rewrites⟩ :=
    ClientFeedHandler.addOrder_adds ClientFeedHandler.fresh_indexed newOrder
  refine ⟨[.add newOrder], next,
    { newOrder with bookIndex := (ClientFeedHandler.fresh.openBook newOrder.ticker).2 }, ?_, ?_,
    rfl⟩
  · simp only [run, ClientFeedHandler.process, returned]
  · have untracked : (ClientFeedHandler.fresh.orders.lookup newOrder.orderId).isSome = false := rfl
    rw [rewrites.orders, untracked, if_neg Bool.false_ne_true]
    exact AList.lookup_insert _

/-- Every message changes some handler. -/
theorem exists_process_changed (message : FeedMessage) :
    ∃ messages handler,
      run ClientFeedHandler.process ClientFeedHandler.fresh messages = .ok handler ∧
        handler.process message ≠ .ok handler := by
  cases message with
  | add data =>
      obtain ⟨next, returned, -, rewrites⟩ :=
        ClientFeedHandler.addOrder_adds ClientFeedHandler.fresh_indexed data
      refine ⟨[], ClientFeedHandler.fresh, rfl, ?_⟩
      intro same
      have unchanged : next = ClientFeedHandler.fresh :=
        Except.ok.inj (returned.symm.trans same)
      have length := rewrites.length
      rw [unchanged] at length
      cases length
  | modify data =>
      obtain ⟨messages, handler, order, reached, found, quantity⟩ :=
        exists_tracking data.orderId (data.quantity + 1)
      refine ⟨messages, handler, reached, ?_⟩
      intro returned
      have does := ClientFeedHandler.does_of_process (ClientFeedHandler.indexed_of_run reached)
        returned
      have kept : (handler.orders.lookup data.orderId).map AddOrderData.quantity =
          some data.quantity := by
        cases does with
        | modifiesUnknown modifyOrder unknown => cases found.symm.trans unknown
        | increases modifyOrder order next known more grows rewrites =>
            rw [rewrites.orders, AList.lookup_insert]
            rfl
        | decreases modifyOrder order next known noMore shrinks rewrites =>
            rw [rewrites.orders, AList.lookup_insert]
            rfl
      rw [found, Option.map_some, quantity] at kept
      exact absurd (Option.some.inj kept) (by simp)
  | cancel data =>
      obtain ⟨messages, handler, order, reached, found, -⟩ := exists_tracking data.orderId 1
      refine ⟨messages, handler, reached, ?_⟩
      intro returned
      have does := ClientFeedHandler.does_of_process (ClientFeedHandler.indexed_of_run reached)
        returned
      have gone : handler.orders.lookup data.orderId = none := by
        cases does with
        | cancelsUnknown cancelOrder unknown => exact unknown
        | cancels cancelOrder order next known shrinks rewrites =>
            rw [rewrites.orders]
            exact AList.lookup_erase _ _
      cases found.symm.trans gone
  | fill data =>
      obtain ⟨messages, handler, order, reached, found, quantity⟩ :=
        exists_tracking data.orderId data.quantity
      refine ⟨messages, handler, reached, ?_⟩
      intro returned
      have does := ClientFeedHandler.does_of_process (ClientFeedHandler.indexed_of_run reached)
        returned
      have gone : handler.orders.lookup data.orderId = none := by
        cases does with
        | fillsUnknown filled unknown => exact unknown
        | fills filled known next isKnown shrinks rewrites =>
            have isOrder : known = order := Option.some.inj (isKnown.symm.trans found)
            have usedUp : known.quantity - data.quantity ≤ 0 := by
              rw [isOrder, quantity, Int32.sub_self]
              exact Int32.le_refl 0
            rw [rewrites.orders, if_pos usedUp]
            exact AList.lookup_erase _ _
      cases found.symm.trans gone

/-- A buffer with the type of a packet that changes books is read as some message. -/
theorem processMarketData_tagged (size : bytes.length = 64) {packetType : UInt8}
    (typed : bytes[1]? = some packetType) (tagged : packetType ∈ bookPackets) :
    ∃ message : FeedMessage, ∀ handler : ClientFeedHandler,
      processMarketData handler bytes = some (handler.process message) := by
  simp only [bookPackets, List.mem_cons, List.not_mem_nil, or_false] at tagged
  rcases tagged with rfl | rfl | rfl | rfl
  · obtain ⟨data, read⟩ := readAddOrderData_total size
    refine ⟨.add data, ?_⟩
    intro handler
    rw [processMarketData, typed]
    simp only [read]
    rfl
  · obtain ⟨data, read⟩ := readModOrderData_total size
    refine ⟨.modify data, ?_⟩
    intro handler
    rw [processMarketData, typed]
    simp only [read]
    rfl
  · obtain ⟨data, read⟩ := readCancelOrderData_total size
    refine ⟨.cancel data, ?_⟩
    intro handler
    rw [processMarketData, typed]
    simp only [read]
    rfl
  · obtain ⟨data, read⟩ := readFillOrderData_total size
    refine ⟨.fill data, ?_⟩
    intro handler
    rw [processMarketData, typed]
    simp only [read]
    rfl

/-- Whatever is read as a packet that changes books does so in some handler. -/
theorem exists_changed (size : bytes.length = 64) {packetType : UInt8}
    (typed : bytes[1]? = some packetType) (tagged : packetType ∈ bookPackets) :
    ∃ messages handler,
      run ClientFeedHandler.process ClientFeedHandler.fresh messages = .ok handler ∧
        processMarketData handler bytes ≠ some (.ok handler) := by
  obtain ⟨message, processes⟩ := processMarketData_tagged size typed tagged
  obtain ⟨messages, handler, reached, changed⟩ := exists_process_changed message
  refine ⟨messages, handler, reached, ?_⟩
  rw [processes handler]
  intro same
  exact changed (Option.some.inj same)

end Acting

/-! ### Every datagram -/

namespace ReceivedDatagram

/-- A buffer of packets that add an order. -/
def staleBuffer : ReceiveBuffer :=
  { bytes := List.replicate 64 'A'.toUInt8
    size := List.length_replicate }

/-- A datagram that is not sound changes books that it should leave. -/
theorem OwnBytesOnly.sound {datagram : ReceivedDatagram} (own : datagram.OwnBytesOnly) :
    datagram.Sound := by
  have changes : ∀ {packetType}, (staleBuffer.received datagram).bytes[1]? = some packetType →
      packetType ∈ bookPackets → ¬(datagram.Short ∨ datagram.Disagrees) := by
    intro packetType typed tagged refusable
    obtain ⟨messages, handler, reached, changed⟩ :=
      exists_changed (staleBuffer.received datagram).size typed tagged
    exact changed (own.refused refusable handler messages reached staleBuffer)
  have bytes := staleBuffer.received_bytes datagram
  cases typed : datagram.bytes[1]? with
  | none =>
      have short : datagram.Short := by
        intro packetType found
        cases typed.symm.trans found
      have small := List.getElem?_eq_none_iff.mp typed
      have stale : (staleBuffer.received datagram).bytes[1]? = some 'A'.toUInt8 := by
        rw [bytes, List.getElem?_append_right small, List.getElem?_drop]
        have index : datagram.bytes.length + (1 - datagram.bytes.length) = 1 := by omega
        rw [index]
        rfl
      exact absurd (Or.inl short) (changes stale (by decide))
  | some packetType =>
      refine ⟨packetType, typed, ?_⟩
      intro tagged
      have received : (staleBuffer.received datagram).bytes[1]? = some packetType := by
        obtain ⟨inside, -⟩ := List.getElem?_eq_some_iff.mp typed
        rw [bytes, List.getElem?_append_left inside, typed]
      have kept := changes received tagged
      rw [not_or] at kept
      refine ⟨?_, kept.2⟩
      by_contra short
      apply kept.1
      intro other found
      cases typed.symm.trans found
      exact Nat.not_le.mp short

/-- The datagrams that are interpreted from their own bytes only are the sound ones. -/
theorem ownBytesOnly_iff_sound (datagram : ReceivedDatagram) :
    datagram.OwnBytesOnly ↔ datagram.Sound := by
  constructor
  · exact OwnBytesOnly.sound
  · rintro ⟨packetType, typed, whole⟩
    constructor
    · intro handler messages _reached first second
      have alone := fun back => processMarketData_front handler back typed
        (fun tagged => (whole tagged).1)
      rw [ReceiveBuffer.readMarketData, ReceiveBuffer.readMarketData,
        ReceiveBuffer.received_bytes, ReceiveBuffer.received_bytes, alone, alone]
    · intro refusable handler messages _reached buffer
      by_cases tagged : packetType ∈ bookPackets
      · obtain ⟨fits, agrees⟩ := whole tagged
        rcases refusable with short | disagrees
        · exact absurd fits (Nat.not_le.mpr (short packetType typed))
        · exact absurd disagrees agrees
      · obtain ⟨inside, -⟩ := List.getElem?_eq_some_iff.mp typed
        rw [ReceiveBuffer.readMarketData, ReceiveBuffer.received_bytes]
        apply processMarketData_other handler _ tagged
        rw [List.getElem?_append_left inside, typed]

/-- Two bytes that announce a packet which does not follow. -/
def bareHeader : ReceivedDatagram :=
  { bytes := [37, 'A'.toUInt8]
    fits := by decide }

theorem bareHeader_not_ownBytesOnly : ¬bareHeader.OwnBytesOnly := by
  intro own
  obtain ⟨packetType, typed, whole⟩ := own.sound
  have isAdd : packetType = 'A'.toUInt8 := (Option.some.inj typed).symm
  have fits := (whole (by rw [isAdd]; decide)).1
  rw [isAdd] at fits
  exact absurd fits (by decide)

end ReceivedDatagram

end Client
end SpotExchange
