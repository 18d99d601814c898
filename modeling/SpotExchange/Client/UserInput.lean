/-
Lines that the user types: commands, and orders whose fields stand in any order.
-/

import SpotExchange.Bytes.Text
import SpotExchange.Client.TradingClient
import SpotExchange.Util.EightBytes

namespace SpotExchange
namespace Client

open Bytes Engine Machine Util Wire

/-! ### Reading a line -/

/-- A message, or what is printed of the subscribed book. -/
inductive Printed where
  | text (text : String)
  | book (lines : List Text)
  deriving DecidableEq, Repr

def addorderFields : List Text :=
  [literal "-side ", literal "-price ", literal "-quantity ", literal "-ticker "]

def modorderFields : List Text :=
  [literal "-side ", literal "-price ", literal "-quantity ", literal "-ticker ",
    literal "-orderid "]

def cancelorderFields : List Text := [literal "-ticker ", literal "-orderid "]

def element (values : List Text) (index : Nat) : Except ClientFault Text :=
  match values[index]? with
  | none => .error (.element index)
  | some value => .ok value

def number (text : Text) : Except ClientFault Int32 :=
  match stoi text with
  | .error problem => .error (.number problem)
  | .ok read => .ok read

/-- The token behind the first place of a field's name; empty where there is none. -/
def findField (field input : Text) : Except ClientFault Text :=
  match find input field 0 with
  | none => .ok []
  | some fieldpos =>
      match find input [32] fieldpos with
      | none => .ok []
      | some valpos =>
          match find input [32] (valpos + 1) with
          | none => subText input (valpos + 1) (input.length - (valpos + 1))
          | some endValpos => subText input (valpos + 1) (endValpos - (valpos + 1))

/-- The loop over the fields, with the values so far. -/
def orderValuesFrom (input : Text) : List Text → List Text → Except ClientFault (List Text)
  | [], values => .ok values
  | field :: fields, values => do
      let value ← findField field input
      if value = [] then return []
      orderValuesFrom input fields (values ++ [value])

def getOrderValues (input : Text) (fields : List Text) : Except ClientFault (List Text) :=
  orderValuesFrom input fields []

/-- The first character of a string; of the empty one, the zero behind it. -/
def firstCharacter (text : Text) : UInt8 := text.headD 0

def setSide (ordertype : NewOrder) (side : UInt8) : Option NewOrder :=
  if side = 66 then some { ordertype with isBuySide := true }
  else if side = 83 then some { ordertype with isBuySide := false }
  else none

/-- The new order in a request, which is put there where it has another variant or none. -/
def mutableNewOrder : OrderEntryRequest → NewOrder
  | .newOrder neworder => neworder
  | _ =>
      { orderCommon :=
          { orderId := 0
            userId := 0
            ticker := 0 }
        quantity := 0
        isBuySide := false
        price := 0 }

/-- Whether a request was made, and what it holds. -/
abbrev Constructed := Bool × OrderEntryRequest

/-- A request with a side, a price and a quantity; the last argument reads its order id. -/
def constructPriced (userID : UserId) (request : OrderEntryRequest) (input : Text)
    (fields : List Text) (orderId : List Text → Except ClientFault UInt64) :
    Except ClientFault Constructed := do
  let neworder := mutableNewOrder request
  let values ← getOrderValues input fields
  if values = [] then return (false, .newOrder neworder)
  let side ← element values 0
  match setSide neworder (firstCharacter side) with
  | none => return (false, .newOrder neworder)
  | some sided => do
      let price ← element values 1 >>= number
      let quantity ← element values 2 >>= number
      let ticker ← element values 3
      let id ← orderId values
      return (true, .newOrder
        { sided with
          price := price.toInt64
          quantity := quantity.toUInt32
          orderCommon :=
            { ticker := convertStrToEightBytes ticker
              userId := userID
              orderId := id } })

def constructNewOrderRequest (userID : UserId) (request : OrderEntryRequest) (input : Text) :
    Except ClientFault Constructed :=
  constructPriced userID request input addorderFields (fun _ => .ok 0)

/-- The request is made as a new order. The values have the indices 0 to 4. -/
def constructModifyOrderRequest (userID : UserId) (request : OrderEntryRequest) (input : Text) :
    Except ClientFault Constructed :=
  constructPriced userID request input modorderFields (fun values => do
    let id ← element values 5 >>= number
    return id.toInt64.toUInt64)

/-- The request is made as a new order. The values have the indices 0 and 1. -/
def constructCancelOrderRequest (userID : UserId) (request : OrderEntryRequest) (input : Text) :
    Except ClientFault Constructed := do
  let cancelorder := mutableNewOrder request
  let values ← getOrderValues input cancelorderFields
  if values = [] then return (false, .newOrder cancelorder)
  let ticker ← element values 0
  let id ← element values 2 >>= number
  return (true, .newOrder
    { cancelorder with
      orderCommon :=
        { ticker := convertStrToEightBytes ticker
          userId := userID
          orderId := id.toInt64.toUInt64 } })

/-- The token behind the order flag, where the line has both. -/
def ordertype (input : Text) : Except ClientFault (Option Text) :=
  match find input (literal "-order ") 0 with
  | none => .ok none
  | some orderpos =>
      match find input [32] orderpos with
      | none => .ok none
      | some ordertypepos =>
          match find input [32] (ordertypepos + 1) with
          | none => .ok none
          | some endOrdertypepos =>
              (subText input (ordertypepos + 1) (endOrdertypepos - (ordertypepos + 1))).map some

/-- What a line leaves: the result, the request, the client and what is printed. -/
structure Outcome where
  result : Bool
  request : OrderEntryRequest
  client : TradingClient
  printed : List Printed

/-- The book of a ticker is subscribed to, and printed where there is one. -/
def enterSubscription (surroundings : Surroundings) (client : TradingClient) (ticker : Text) :
    Except ClientFault (TradingClient × List Printed) :=
  match client.feedhandler.subscription (convertStrToEightBytes ticker) with
  | .error fault => .error (.feed fault)
  | .ok none => .ok ({ client with subscription := none }, [.text "Subscription failed!"])
  | .ok (some subscription) => do
      let (reprinted, lines) ←
        { client with subscription := some subscription }.reprintInterface surroundings
      return (reprinted, [.book lines])

/-- The client and what is printed, where the line is a command. -/
def userEnteredCommand (surroundings : Surroundings) (client : TradingClient) (command : Text) :
    Except ClientFault (Option (TradingClient × List Printed)) :=
  if firstCharacter command ≠ 47 then .ok none
  else do
    let args := split command 32
    let name ← element args 0
    if name = literal "/subscribe" then
      let ticker ← element args 1
      (enterSubscription surroundings client ticker).map some
    else if name = literal "/help" then .ok (some (client, []))
    else .ok (some (client, [.text "Invalid command"]))

/-- The order of a line, by its type. -/
def constructOrder (userID : UserId) (request : OrderEntryRequest) (input ordertype : Text) :
    Except ClientFault (Constructed × List Printed) :=
  if ordertype = literal "add" then
    (constructNewOrderRequest userID request input).map (·, [])
  else if ordertype = literal "cancel" then
    (constructModifyOrderRequest userID request input).map (·, [])
  else if ordertype = literal "modify" then
    (constructCancelOrderRequest userID request input).map (·, [])
  else .ok ((false, request), [.text "Invalid order type"])

/-- A line that is no command. -/
def enterOrder (client : TradingClient) (input : Text) (request : OrderEntryRequest) :
    Except ClientFault Outcome := do
  let found ← ordertype input
  match found with
  | none =>
      .ok
        { result := false
          request := request
          client := client
          printed := [] }
  | some type => do
      let constructed ← constructOrder client.userID request input type
      .ok
        { result := constructed.1.1
          request := constructed.1.2
          client := client
          printed := constructed.2 }

def getUserInput (surroundings : Surroundings) (client : TradingClient) (line : Text)
    (request : OrderEntryRequest) : Except ClientFault Outcome := do
  let entered ← userEnteredCommand surroundings client (line ++ [32])
  match entered with
  | some (next, printed) =>
      .ok
        { result := false
          request := request
          client := next
          printed := printed }
  | none => enterOrder client (line ++ [32]) request

/-! ### Fields -/

inductive Field where
  | side
  | price
  | quantity
  | ticker
  | orderid
  deriving DecidableEq, Repr

namespace Field

def name : Field → Text
  | .side => literal "side"
  | .price => literal "price"
  | .quantity => literal "quantity"
  | .ticker => literal "ticker"
  | .orderid => literal "orderid"

def flag (field : Field) : Text := 45 :: field.name

/-- What the client looks for. -/
def key (field : Field) : Text := field.flag ++ [32]

theorem addorderFields_eq : addorderFields = [side, price, quantity, ticker].map key := by decide

theorem modorderFields_eq :
    modorderFields = [side, price, quantity, ticker, orderid].map key := by decide

theorem cancelorderFields_eq : cancelorderFields = [ticker, orderid].map key := by decide

end Field

section Values

variable {input : Text}

/-- A field is looked for within the line. -/
theorem findField_total (field input : Text) : ∃ value, findField field input = .ok value := by
  rw [findField]
  split
  · exact ⟨[], rfl⟩
  · split
    · exact ⟨[], rfl⟩
    · next valpos found =>
        have inside : valpos + 1 ≤ input.length := find_inside found
        split
        · exact subText_inside inside _
        · exact subText_inside inside _

theorem ordertype_total (input : Text) : ∃ type, ordertype input = .ok type := by
  rw [ordertype]
  split
  · exact ⟨none, rfl⟩
  · split
    · exact ⟨none, rfl⟩
    · next ordertypepos found =>
        have inside : ordertypepos + 1 ≤ input.length := find_inside found
        split
        · exact ⟨none, rfl⟩
        · obtain ⟨part, isPart⟩ := subText_inside inside _
          refine ⟨some part, ?_⟩
          rw [isPart]
          rfl

theorem orderValuesFrom_given {fields : List Field} {value : Field → Text}
    (given : ∀ field ∈ fields, findField field.key input = .ok (value field) ∧ value field ≠ [])
    (values : List Text) :
    orderValuesFrom input (fields.map Field.key) values = .ok (values ++ fields.map value) := by
  induction fields generalizing values with
  | nil => rw [List.map_nil, List.map_nil, List.append_nil, orderValuesFrom]
  | cons field rest ih =>
      obtain ⟨found, some⟩ := given field List.mem_cons_self
      have later := ih (fun other member => given other (List.mem_cons_of_mem field member))
        (values ++ [value field])
      rw [List.map_cons, orderValuesFrom, found, ok_bind, if_neg some, later, List.append_assoc,
        List.singleton_append, List.map_cons]

/-- One field that is missing is enough for there to be no values. -/
theorem orderValuesFrom_missing {fields : List Field} {missing : Field}
    (member : missing ∈ fields) (empty : findField missing.key input = .ok [])
    (values : List Text) : orderValuesFrom input (fields.map Field.key) values = .ok [] := by
  induction fields generalizing values with
  | nil => cases member
  | cons field rest ih =>
      obtain ⟨value, found⟩ := findField_total field.key input
      rw [List.map_cons, orderValuesFrom, found, ok_bind]
      by_cases none : value = []
      · rw [if_pos none]
        rfl
      · rw [if_neg none]
        rcases List.mem_cons.mp member with same | later
        · rw [← same, empty] at found
          exact absurd (Except.ok.inj found).symm none
        · exact ih later (values ++ [value])

end Values

end Client
end SpotExchange
