/-
Which lines end the client, and which it takes for orders although a number in them is not
one.
-/

import SpotExchange.Client.OrderLines
import SpotExchange.Client.Subscription

namespace SpotExchange
namespace Client

open Bytes Engine Machine Util Wire

/-! ### Commands -/

/-- The line asks for the book of a ticker. -/
def Subscribes (line ticker : Text) : Prop :=
  ∃ rest, split (line ++ [32]) 32 = literal "/subscribe" :: ticker :: rest

section Commands

variable {surroundings : Surroundings} {client : TradingClient} {line ticker : Text}

/-- The items of a line: the line itself, or what is before its first space and something
behind it. -/
theorem split_line (line : Text) :
    (32 : UInt8) ∉ line ∧ split (line ++ [32]) 32 = [line] ∨
      ∃ first second rest, line ≠ first ∧ first <+: line ∧
        split (line ++ [32]) 32 = first :: second :: rest := by
  by_cases spaced : (32 : UInt8) ∈ line
  · obtain ⟨front, back, whole, absent⟩ := List.eq_append_cons_of_mem spaced
    have cut : split (line ++ [32]) 32 = front :: splitFrom 32 [] (back ++ [32]) := by
      rw [whole, List.append_assoc, List.cons_append, split, splitFrom_behind absent,
        List.nil_append]
    have some : splitFrom 32 [] (back ++ [32]) ≠ [] :=
      splitFrom_ne_nil 32
        (Or.inr (List.append_ne_nil_of_right_ne_nil back (List.cons_ne_nil 32 [])))
    obtain ⟨second, rest, items⟩ := List.exists_cons_of_ne_nil some
    refine Or.inr ⟨front, second, rest, ?_, ⟨32 :: back, whole.symm⟩, ?_⟩
    · intro same
      exact absent (same ▸ spaced)
    · rw [cut, items]
  · refine Or.inl ⟨spaced, ?_⟩
    rw [split, splitFrom_behind spaced]
    rfl

theorem Subscribes.first (subscribes : Subscribes line ticker) :
    firstCharacter (line ++ [32]) = 47 := by
  obtain ⟨others, items⟩ := subscribes
  rcases split_line line with ⟨-, one⟩ | ⟨name, second, rest, -, ⟨back, begins⟩, more⟩
  · rw [one] at items
    cases items
  · rw [more] at items
    rw [← begins, (List.cons.inj items).1]
    rfl

theorem no_command_of_first (first : firstCharacter (line ++ [32]) ≠ 47) :
    userEnteredCommand surroundings client (line ++ [32]) = .ok none := by
  rw [userEnteredCommand, if_pos first]

/-- Where the indices are those of books, only the picture of the book is in the way of a
subscription. -/
theorem enterSubscription_iff (indexed : client.feedhandler.Indexed) (ticker : Text) :
    (∃ entered, enterSubscription surroundings client ticker = .ok entered) ↔
      ∀ book, client.feedhandler.subscribe (convertStrToEightBytes ticker) = some book →
        book.Drawable surroundings.width.toNat := by
  cases listed : client.feedhandler.tickers.lookup (convertStrToEightBytes ticker) with
  | none =>
      have refused : client.feedhandler.subscription (convertStrToEightBytes ticker) =
          .ok none := by
        simp only [ClientFeedHandler.subscription, listed]
      have absent : client.feedhandler.subscribe (convertStrToEightBytes ticker) = none := by
        simp only [ClientFeedHandler.subscribe, listed]
      rw [enterSubscription, refused, absent]
      refine iff_of_true ⟨_, rfl⟩ ?_
      intro book isBook
      cases isBook
  | some index =>
      have inside := indexed.tickers _ index listed
      have isBook := List.getElem?_eq_getElem inside
      have taken : client.feedhandler.subscription (convertStrToEightBytes ticker) = .ok (some
          { index := index.toNat
            among := client.feedhandler.orderbooks.length }) := by
        simp only [ClientFeedHandler.subscription, listed, if_pos inside]
      have found : client.feedhandler.subscribe (convertStrToEightBytes ticker) =
          some client.feedhandler.orderbooks[index.toNat] := by
        simp only [ClientFeedHandler.subscribe, listed, isBook]
      have live : Subscription.Live surroundings.moves
          { index := index.toNat
            among := client.feedhandler.orderbooks.length }
          client.feedhandler.orderbooks.length :=
        fun size less more => absurd less (Nat.not_lt_of_le more)
      have entered : enterSubscription surroundings client ticker = (do
          let lines ← client.feedhandler.orderbooks[index.toNat].draw surroundings.width.toNat
          return (TradingClient.printInfoBox
            { client with
              subscription := some
                { index := index.toNat
                  among := client.feedhandler.orderbooks.length } }, [.book lines])) := by
        simp only [enterSubscription, taken, TradingClient.reprintInterface,
          ClientFeedHandler.bookAt, if_pos live, isBook, ok_bind]
        cases client.feedhandler.orderbooks[index.toNat].draw surroundings.width.toNat <;> rfl
      rw [entered, found]
      constructor
      · rintro ⟨entered, returned⟩ book same
        obtain ⟨lines, drawn, -⟩ := bind_eq_ok returned
        rw [← Option.some.inj same]
        exact ClientOrderBook.draw_iff.mp ⟨lines, drawn⟩
      · intro drawable
        obtain ⟨lines, drawn⟩ := ClientOrderBook.draw_iff.mpr (drawable _ rfl)
        rw [drawn]
        exact ⟨_, rfl⟩

/-- A command is handled unless it is a subscription without an argument, or to a book that
cannot be drawn. -/
theorem command_handled_iff (indexed : client.feedhandler.Indexed)
    (first : firstCharacter (line ++ [32]) = 47) :
    (∃ handled, userEnteredCommand surroundings client (line ++ [32]) = .ok (some handled)) ↔
      line ≠ literal "/subscribe" ∧ ∀ ticker, Subscribes line ticker → ∀ book,
        client.feedhandler.subscribe (convertStrToEightBytes ticker) = some book →
          book.Drawable surroundings.width.toNat := by
  have isCommand : ¬firstCharacter (line ++ [32]) ≠ 47 := fun different => different first
  rw [userEnteredCommand, if_neg isCommand]
  rcases split_line line with ⟨-, one⟩ | ⟨name, ticker, rest, different, begins, more⟩
  · have subscribesNot : ∀ ticker, ¬Subscribes line ticker := by
      rintro ticker ⟨rest, items⟩
      rw [one] at items
      cases items
    rw [one]
    simp only [element, List.getElem?_cons_zero, ok_bind]
    by_cases bare : line = literal "/subscribe"
    · rw [if_pos bare]
      refine iff_of_false ?_ (fun both => both.1 bare)
      rintro ⟨handled, returned⟩
      cases returned
    · rw [if_neg bare]
      refine iff_of_true ?_
        ⟨bare, fun ticker subscribes => absurd subscribes (subscribesNot ticker)⟩
      split <;> exact ⟨_, rfl⟩
  · have bare : name = literal "/subscribe" → line ≠ literal "/subscribe" :=
      fun isName same => different (same.trans isName.symm)
    have only : ∀ other, Subscribes line other → name = literal "/subscribe" ∧ ticker = other := by
      rintro other ⟨others, items⟩
      rw [more] at items
      injection items with sameName sameRest
      exact ⟨sameName, (List.cons.inj sameRest).1⟩
    rw [more]
    simp only [element, List.getElem?_cons_zero, List.getElem?_cons_succ, ok_bind]
    by_cases subscribes : name = literal "/subscribe"
    · rw [if_pos subscribes]
      have entered := @enterSubscription_iff surroundings client indexed ticker
      constructor
      · rintro ⟨handled, returned⟩
        obtain ⟨entering, enters, -⟩ := map_eq_ok returned
        refine ⟨bare subscribes, ?_⟩
        intro other asks
        rw [← (only other asks).2]
        exact entered.mp ⟨entering, enters⟩
      · rintro ⟨-, drawable⟩
        obtain ⟨entering, enters⟩ :=
          entered.mpr (drawable ticker ⟨rest, by rw [more, subscribes]⟩)
        rw [enters]
        exact ⟨entering, rfl⟩
    · rw [if_neg subscribes]
      have notBare : line ≠ literal "/subscribe" := by
        intro same
        have items : split (literal "/subscribe" ++ [32]) 32 = [literal "/subscribe"] := rfl
        rw [same, items] at more
        cases more
      refine iff_of_true ?_
        ⟨notBare, fun other asks => absurd (only other asks).1 subscribes⟩
      split <;> exact ⟨_, rfl⟩

end Commands

/-! ### Fields of any line -/

/-- What the client takes for the value of a field. -/
def fieldValue (input : Text) (field : Field) : Text :=
  (findField field.key input).toOption.getD []

def Given (input : Text) (fields : List Field) : Prop :=
  ∀ field ∈ fields, fieldValue input field ≠ []

/-- The side begins with the letter of one. -/
def Sided (input : Text) : Prop :=
  firstCharacter (fieldValue input .side) = 66 ∨ firstCharacter (fieldValue input .side) = 83

/-- Prices are signed 32-bit numbers, quantities and ids such numbers that are not negative. -/
def Field.Readable : Field → Text → Prop
  | .side, _ => True
  | .price, value => IsNumber (-2147483648) 2147483647 value
  | .quantity, value => IsNumber 0 2147483647 value
  | .ticker, _ => True
  | .orderid, value => IsNumber 0 2147483647 value

section Fields

variable {input : Text} {userID : UserId} {request : OrderEntryRequest}

theorem findField_eq (input : Text) (field : Field) :
    findField field.key input = .ok (fieldValue input field) := by
  obtain ⟨value, found⟩ := findField_total field.key input
  rw [fieldValue, found]
  rfl

theorem orderValues_given {fields : List Field} (given : Given input fields) :
    getOrderValues input (fields.map Field.key) = .ok (fields.map (fieldValue input)) := by
  apply orderValuesFrom_given
  intro field member
  exact ⟨findField_eq input field, given field member⟩

theorem orderValues_missing {fields : List Field} (missing : ¬Given input fields) :
    getOrderValues input (fields.map Field.key) = .ok [] := by
  rw [Given] at missing
  push Not at missing
  obtain ⟨field, member, empty⟩ := missing
  apply orderValuesFrom_missing member
  rw [findField_eq, empty]

theorem number_of_isNumber {value : Text} {least most : Int} (isNumber : IsNumber least most value)
    (low : -2147483648 ≤ least) (high : most ≤ 2147483647) : ∃ read, number value = .ok read := by
  obtain ⟨whole, named, above, below⟩ := isNumber
  refine ⟨Int32.ofInt whole, ?_⟩
  rw [number, stoi_of_wholeNumber named (by omega) (by omega)]

theorem setSide_of_sided (sided : Sided input) (neworder : NewOrder) :
    ∃ after, setSide neworder (firstCharacter (fieldValue input .side)) = some after := by
  rcases sided with isBuy | isSell
  · exact ⟨_, if_pos isBuy⟩
  · refine ⟨{ neworder with isBuySide := false }, ?_⟩
    rw [setSide, isSell, if_neg (by decide), if_pos rfl]

theorem setSide_of_not_sided (notSided : ¬Sided input) (neworder : NewOrder) :
    setSide neworder (firstCharacter (fieldValue input .side)) = none := by
  rw [Sided, not_or] at notSided
  rw [setSide, if_neg notSided.1, if_neg notSided.2]

/-- The fields of an order with a price. -/
def pricedFields (more : List Field) : List Field := .side :: .price :: .quantity :: .ticker :: more

section Priced

variable {more : List Field} {orderId : List Text → Except ClientFault UInt64}

/-- Without a field or a side there is no request. -/
theorem constructPriced_refuses
    (incomplete : ¬(Given input (pricedFields more) ∧ Sided input)) :
    constructPriced userID request input ((pricedFields more).map Field.key) orderId =
      .ok (false, .newOrder (mutableNewOrder request)) := by
  by_cases given : Given input (pricedFields more)
  · have notSided : ¬Sided input := fun sided => incomplete ⟨given, sided⟩
    rw [constructPriced, orderValues_given given]
    simp only [pricedFields, ok_bind, List.map_cons, List.cons_ne_nil, if_false, element,
      List.getElem?_cons_zero, setSide_of_not_sided notSided]
    rfl
  · rw [constructPriced, orderValues_missing given]
    rfl

/-- With them, only a number that is read amiss is in the way. -/
theorem constructPriced_complete (given : Given input (pricedFields more)) (sided : Sided input) :
    ∃ filled : Int32 → Int32 → UInt64 → NewOrder,
      constructPriced userID request input ((pricedFields more).map Field.key) orderId = (do
        let price ← number (fieldValue input .price)
        let quantity ← number (fieldValue input .quantity)
        let id ← orderId ((pricedFields more).map (fieldValue input))
        return (true, .newOrder (filled price quantity id))) := by
  obtain ⟨after, isSet⟩ := setSide_of_sided sided (mutableNewOrder request)
  refine ⟨fun price quantity id =>
    { after with
      price := price.toInt64
      quantity := quantity.toUInt32
      orderCommon :=
        { ticker := convertStrToEightBytes (fieldValue input .ticker)
          userId := userID
          orderId := id } }, ?_⟩
  rw [constructPriced, orderValues_given given]
  simp only [pricedFields, ok_bind, List.map_cons, List.cons_ne_nil, if_false, element,
    List.getElem?_cons_zero, List.getElem?_cons_succ, isSet]

end Priced

/-- There are five values, and the sixth is asked for. -/
theorem constructModify_complete (given : Given input (pricedFields [.orderid]))
    (sided : Sided input) (constructed : Constructed) :
    constructModifyOrderRequest userID request input ≠ .ok constructed := by
  intro returned
  obtain ⟨filled, same⟩ := @constructPriced_complete input userID request [.orderid]
    (fun values => do
      let id ← element values 5 >>= number
      return id.toInt64.toUInt64) given sided
  rw [constructModifyOrderRequest, Field.modorderFields_eq] at returned
  rw [pricedFields] at same
  rw [same] at returned
  obtain ⟨price, -, returned⟩ := bind_eq_ok returned
  obtain ⟨quantity, -, returned⟩ := bind_eq_ok returned
  cases returned

/-- There are two values, and the third is asked for. -/
theorem constructCancel_complete (given : Given input [.ticker, .orderid]) :
    constructCancelOrderRequest userID request input = .error (.element 2) := by
  rw [constructCancelOrderRequest, Field.cancelorderFields_eq, orderValues_given given]
  rfl

theorem constructCancel_refuses (missing : ¬Given input [.ticker, .orderid]) :
    constructCancelOrderRequest userID request input =
      .ok (false, .newOrder (mutableNewOrder request)) := by
  rw [constructCancelOrderRequest, Field.cancelorderFields_eq, orderValues_missing missing]
  rfl

end Fields

/-! ### Lines -/

/-- The line names an order with all the fields that it requires, and the numbers among them
are numbers in range. -/
def NamesOrder (line : Text) : Prop :=
  ∃ command : Command, ordertype (line ++ [32]) = .ok (some command.word) ∧
    Given (line ++ [32]) command.required ∧
    ∀ field ∈ command.required, field.Readable (fieldValue (line ++ [32]) field)

/-- The line comes to an end, and is sent as an order only where it names one. -/
def Handled (surroundings : Surroundings) (client : TradingClient) (line : Text)
    (request : OrderEntryRequest) : Prop :=
  ∃ outcome, getUserInput surroundings client line request = .ok outcome ∧
    (outcome.result = true → NamesOrder line)

/-- The line is read as an order of a type. -/
def Orders (line : Text) (command : Command) : Prop :=
  firstCharacter (line ++ [32]) ≠ 47 ∧ ordertype (line ++ [32]) = .ok (some command.word)

/-- What keeps a line from doing harm: a subscription has an argument, and the book that it asks
for can be drawn, if there is one; a complete new order has numbers for its price and quantity;
and cancellations and modifications lack one of the fields that are looked for. -/
structure Harmless (width : UInt16) (handler : ClientFeedHandler) (line : Text) : Prop where
  argument : line ≠ literal "/subscribe"
  drawn : ∀ ticker, Subscribes line ticker → ∀ book,
    handler.subscribe (convertStrToEightBytes ticker) = some book → book.Drawable width.toNat
  add : Orders line .add → Given (line ++ [32]) (pricedFields []) → Sided (line ++ [32]) →
    Field.price.Readable (fieldValue (line ++ [32]) .price) ∧
      Field.quantity.Readable (fieldValue (line ++ [32]) .quantity)
  cancel : Orders line .cancel →
    ¬(Given (line ++ [32]) (pricedFields [.orderid]) ∧ Sided (line ++ [32]))
  modify : Orders line .modify → ¬Given (line ++ [32]) [.ticker, .orderid]

section Lines

variable {surroundings : Surroundings} {client : TradingClient} {line : Text}
  {request : OrderEntryRequest}

theorem word_injective {command other : Command} (same : command.word = other.word) :
    command = other := by
  revert same
  cases command <;> cases other <;> decide

/-- A command is handled or not, and no order is made of it. -/
theorem handled_command_iff (first : firstCharacter (line ++ [32]) = 47) :
    Handled surroundings client line request ↔
      ∃ handled, userEnteredCommand surroundings client (line ++ [32]) = .ok (some handled) := by
  constructor
  · rintro ⟨outcome, returned, -⟩
    obtain ⟨entered, enters, -⟩ := bind_eq_ok returned
    cases entered with
    | some handled => exact ⟨handled, enters⟩
    | none =>
        have isCommand : ¬firstCharacter (line ++ [32]) ≠ 47 := fun different => different first
        rw [userEnteredCommand, if_neg isCommand] at enters
        obtain ⟨name, -, rest⟩ := bind_eq_ok enters
        split at rest
        · obtain ⟨ticker, -, entersToo⟩ := bind_eq_ok rest
          obtain ⟨entering, -, same⟩ := map_eq_ok entersToo
          cases same
        · split at rest <;> cases rest
  · rintro ⟨⟨next, printed⟩, entered⟩
    refine ⟨
      { result := false
        request := request
        client := next
        printed := printed }, ?_, fun isTrue => absurd isTrue Bool.false_ne_true⟩
    rw [getUserInput, entered]
    rfl

theorem handled_untyped (first : firstCharacter (line ++ [32]) ≠ 47)
    (untyped : ordertype (line ++ [32]) = .ok none) : Handled surroundings client line request := by
  refine ⟨
    { result := false
      request := request
      client := client
      printed := [] }, ?_, fun isTrue => absurd isTrue Bool.false_ne_true⟩
  rw [getUserInput, no_command_of_first first, ok_bind]
  simp only [enterOrder, untyped, ok_bind]

theorem handled_typed {type : Text} (first : firstCharacter (line ++ [32]) ≠ 47)
    (typed : ordertype (line ++ [32]) = .ok (some type)) :
    Handled surroundings client line request ↔
      ∃ constructed, constructOrder client.userID request (line ++ [32]) type = .ok constructed ∧
        (constructed.1.1 = true → NamesOrder line) := by
  have input : getUserInput surroundings client line request = (do
      let constructed ← constructOrder client.userID request (line ++ [32]) type
      .ok
        { result := constructed.1.1
          request := constructed.1.2
          client := client
          printed := constructed.2 }) := by
    rw [getUserInput, no_command_of_first first, ok_bind]
    simp only [enterOrder, typed, ok_bind]
  constructor
  · rintro ⟨outcome, returned, sound⟩
    rw [input] at returned
    obtain ⟨constructed, made, same⟩ := bind_eq_ok returned
    cases same
    exact ⟨constructed, made, sound⟩
  · rintro ⟨constructed, made, sound⟩
    refine ⟨
      { result := constructed.1.1
        request := constructed.1.2
        client := client
        printed := constructed.2 }, ?_, sound⟩
    rw [input, made, ok_bind]

/-- A request is made, or none, and one that is made is that of a line that names it. -/
def Sound (line : Text) (computation : Except ClientFault Constructed) : Prop :=
  ∃ constructed, computation = .ok constructed ∧ (constructed.1 = true → NamesOrder line)

theorem handled_built {type : Text} {computation : Except ClientFault Constructed}
    (first : firstCharacter (line ++ [32]) ≠ 47)
    (typed : ordertype (line ++ [32]) = .ok (some type))
    (chosen : constructOrder client.userID request (line ++ [32]) type =
      computation.map (·, [])) :
    Handled surroundings client line request ↔ Sound line computation := by
  rw [handled_typed first typed, chosen]
  constructor
  · rintro ⟨constructed, returned, sound⟩
    obtain ⟨made, isMade, same⟩ := map_eq_ok returned
    rw [← same] at sound
    exact ⟨made, isMade, sound⟩
  · rintro ⟨constructed, returned, sound⟩
    refine ⟨(constructed, []), ?_, sound⟩
    rw [returned]
    rfl

/-- A line that is refused says nothing about its numbers. -/
theorem sound_refused (line : Text) (filled : OrderEntryRequest) :
    Sound line (.ok (false, filled)) :=
  ⟨(false, filled), rfl, fun isTrue => absurd isTrue Bool.false_ne_true⟩

theorem handled_add (orders : Orders line .add) :
    Handled surroundings client line request ↔
      (Given (line ++ [32]) (pricedFields []) → Sided (line ++ [32]) →
        Field.price.Readable (fieldValue (line ++ [32]) .price) ∧
          Field.quantity.Readable (fieldValue (line ++ [32]) .quantity)) := by
  have chosen : constructOrder client.userID request (line ++ [32]) (Command.word .add) =
      (constructPriced client.userID request (line ++ [32]) ((pricedFields []).map Field.key)
        (fun _ => .ok 0)).map (·, []) := by
    rw [constructOrder, if_pos (by decide), constructNewOrderRequest, Field.addorderFields_eq]
    rfl
  rw [handled_built orders.1 orders.2 chosen]
  by_cases complete : Given (line ++ [32]) (pricedFields []) ∧ Sided (line ++ [32])
  · obtain ⟨filled, made⟩ := @constructPriced_complete (line ++ [32]) client.userID request []
      (fun _ => .ok 0) complete.1 complete.2
    rw [made]
    constructor
    · rintro ⟨constructed, returned, sound⟩ - -
      obtain ⟨price, -, returned⟩ := bind_eq_ok returned
      obtain ⟨quantity, -, returned⟩ := bind_eq_ok returned
      cases returned
      obtain ⟨command, typed, -, readable⟩ := sound rfl
      have isAdd : Command.add = command :=
        word_injective (Option.some.inj (Except.ok.inj (orders.2.symm.trans typed)))
      subst isAdd
      exact ⟨readable .price (by decide), readable .quantity (by decide)⟩
    · intro readable
      obtain ⟨readablePrice, readableQuantity⟩ := readable complete.1 complete.2
      obtain ⟨price, isPrice⟩ :=
        number_of_isNumber readablePrice (Int.le_refl _) (Int.le_refl _)
      obtain ⟨quantity, isQuantity⟩ :=
        number_of_isNumber readableQuantity (by decide) (Int.le_refl _)
      refine ⟨(true, .newOrder (filled price quantity 0)), ?_, ?_⟩
      · rw [isPrice, isQuantity]
        rfl
      · intro _isTrue
        refine ⟨.add, orders.2, complete.1, ?_⟩
        intro field member
        cases field with
        | side => trivial
        | price => exact readablePrice
        | quantity => exact readableQuantity
        | ticker => trivial
        | orderid => exact absurd member (by decide)
  · rw [constructPriced_refuses complete]
    exact iff_of_true (sound_refused line _) (fun given sided => absurd ⟨given, sided⟩ complete)

theorem handled_cancel (orders : Orders line .cancel) :
    Handled surroundings client line request ↔
      ¬(Given (line ++ [32]) (pricedFields [.orderid]) ∧ Sided (line ++ [32])) := by
  have chosen : constructOrder client.userID request (line ++ [32]) (Command.word .cancel) =
      (constructModifyOrderRequest client.userID request (line ++ [32])).map (·, []) := by
    rw [constructOrder, if_neg (by decide), if_pos (by decide)]
  rw [handled_built orders.1 orders.2 chosen]
  constructor
  · rintro ⟨constructed, returned, -⟩ ⟨given, sided⟩
    exact constructModify_complete given sided constructed returned
  · intro incomplete
    have refuses := @constructPriced_refuses (line ++ [32]) client.userID request [.orderid]
      (fun values => do
        let id ← element values 5 >>= number
        return id.toInt64.toUInt64) incomplete
    rw [constructModifyOrderRequest, Field.modorderFields_eq]
    rw [pricedFields] at refuses
    rw [refuses]
    exact sound_refused line _

theorem handled_modify (orders : Orders line .modify) :
    Handled surroundings client line request ↔ ¬Given (line ++ [32]) [.ticker, .orderid] := by
  have chosen : constructOrder client.userID request (line ++ [32]) (Command.word .modify) =
      (constructCancelOrderRequest client.userID request (line ++ [32])).map (·, []) := by
    rw [constructOrder, if_neg (by decide), if_neg (by decide), if_pos (by decide)]
  rw [handled_built orders.1 orders.2 chosen]
  constructor
  · rintro ⟨constructed, returned, -⟩ given
    rw [constructCancel_complete given] at returned
    cases returned
  · intro missing
    rw [constructCancel_refuses missing]
    exact sound_refused line _

theorem handled_other {type : Text} (first : firstCharacter (line ++ [32]) ≠ 47)
    (typed : ordertype (line ++ [32]) = .ok (some type))
    (other : ∀ command : Command, type ≠ command.word) :
    Handled surroundings client line request := by
  have chosen : constructOrder client.userID request (line ++ [32]) type =
      .ok ((false, request), [.text "Invalid order type"]) := by
    rw [constructOrder]
    exact (if_neg (other .add)).trans ((if_neg (other .cancel)).trans (if_neg (other .modify)))
  rw [handled_typed first typed, chosen]
  exact ⟨_, rfl, fun isTrue => absurd isTrue Bool.false_ne_true⟩

end Lines

/-- A client that was fed with any messages handles exactly the harmless lines. -/
theorem handled_iff_harmless {surroundings : Surroundings} {client : TradingClient}
    {messages : List FeedMessage}
    (fed : run ClientFeedHandler.process ClientFeedHandler.fresh messages =
      .ok client.feedhandler) (line : Text) (request : OrderEntryRequest) :
    Handled surroundings client line request ↔
      Harmless surroundings.width client.feedhandler line := by
  have indexed : client.feedhandler.Indexed := ClientFeedHandler.indexed_of_run fed
  by_cases first : firstCharacter (line ++ [32]) = 47
  · have noOrders : ∀ command, ¬Orders line command := fun command orders => orders.1 first
    rw [handled_command_iff first, command_handled_iff indexed first]
    constructor
    · rintro ⟨argument, drawn⟩
      exact
        { argument := argument
          drawn := drawn
          add := fun orders => absurd orders (noOrders .add)
          cancel := fun orders => absurd orders (noOrders .cancel)
          modify := fun orders => absurd orders (noOrders .modify) }
    · intro harmless
      exact ⟨harmless.argument, harmless.drawn⟩
  · have argument : line ≠ literal "/subscribe" := by
      intro same
      rw [same] at first
      exact first rfl
    have drawn : ∀ ticker, Subscribes line ticker → ∀ book,
        client.feedhandler.subscribe (convertStrToEightBytes ticker) = some book →
          book.Drawable surroundings.width.toNat :=
      fun ticker subscribes => absurd subscribes.first first
    obtain ⟨found, typed⟩ := ordertype_total (line ++ [32])
    have isType : ∀ {command : Command}, Orders line command → found = some command.word :=
      fun orders => Except.ok.inj (typed.symm.trans orders.2)
    have only : ∀ {command other : Command}, Orders line command → Orders line other →
        command = other :=
      fun orders others => word_injective (Option.some.inj ((isType orders).symm.trans
        (isType others)))
    by_cases ofType : ∃ command, Orders line command
    · obtain ⟨command, orders⟩ := ofType
      cases command with
      | add =>
          rw [handled_add orders]
          constructor
          · intro numbers
            exact
              { argument := argument
                drawn := drawn
                add := fun _orders => numbers
                cancel := fun others => nomatch only orders others
                modify := fun others => nomatch only orders others }
          · intro harmless
            exact harmless.add orders
      | cancel =>
          rw [handled_cancel orders]
          constructor
          · intro incomplete
            exact
              { argument := argument
                drawn := drawn
                add := fun others => nomatch only orders others
                cancel := fun _orders => incomplete
                modify := fun others => nomatch only orders others }
          · intro harmless
            exact harmless.cancel orders
      | modify =>
          rw [handled_modify orders]
          constructor
          · intro missing
            exact
              { argument := argument
                drawn := drawn
                add := fun others => nomatch only orders others
                cancel := fun others => nomatch only orders others
                modify := fun _orders => missing }
          · intro harmless
            exact harmless.modify orders
    · have handled : Handled surroundings client line request := by
        cases found with
        | none => exact handled_untyped first typed
        | some type =>
            apply handled_other first typed
            intro command same
            exact ofType ⟨command, first, same ▸ typed⟩
      refine iff_of_true handled ?_
      exact
        { argument := argument
          drawn := drawn
          add := fun orders => absurd ⟨_, orders⟩ ofType
          cancel := fun orders => absurd ⟨_, orders⟩ ofType
          modify := fun orders => absurd ⟨_, orders⟩ ofType }

/-- An order of each side. -/
def bothSides (ticker : Ticker) : List FeedMessage :=
  [.add
    { timestamp := 0
      orderId := 2
      ticker := ticker
      price := 100
      quantity := 5
      isBuySide := 1
      bookIndex := 0 },
  .add
    { timestamp := 0
      orderId := 3
      ticker := ticker
      price := 105
      quantity := 4
      isBuySide := 0
      bookIndex := 0 }]

/-- A client that was fed with them. -/
def fedClient (ticker : Ticker) : TradingClient :=
  { TradingClient.start 7 with
    feedhandler := (run ClientFeedHandler.process ClientFeedHandler.fresh
      (bothSides ticker)).toOption.getD ClientFeedHandler.fresh }

def buyLine : Text := literal "-order add -side B -price 101 -quantity 5 -ticker AB"

def subscribeLine : Text := literal "/subscribe AB"

theorem buyLine_harmless (width : UInt16) (handler : ClientFeedHandler) :
    Harmless width handler buyLine := by
  have typed : ordertype (buyLine ++ [32]) = .ok (some Command.add.word) := rfl
  have others : ∀ command, Orders buyLine command → command = .add :=
    fun command orders =>
      word_injective (Option.some.inj (Except.ok.inj (orders.2.symm.trans typed)))
  exact
    { argument := by decide
      drawn := by
        intro ticker subscribes
        exact absurd subscribes.first (by decide)
      add := by
        intro _orders _given _sided
        exact ⟨⟨101, by decide +kernel, by decide, by decide⟩,
          ⟨5, by decide +kernel, by decide, by decide⟩⟩
      cancel := fun orders => nomatch others .cancel orders
      modify := fun orders => nomatch others .modify orders }

theorem subscribeLine_harmless :
    Harmless eightyColumns.width (fedClient (convertStrToEightBytes (literal "AB"))).feedhandler
      subscribeLine := by
  have noOrders : ∀ command, ¬Orders subscribeLine command :=
    fun command orders => orders.1 (by decide)
  have items : split (subscribeLine ++ [32]) 32 = [literal "/subscribe", literal "AB"] := rfl
  exact
    { argument := by decide
      drawn := by
        rintro ticker ⟨rest, asked⟩ book found
        rw [items] at asked
        have isName : literal "AB" = ticker := (List.cons.inj (List.cons.inj asked).2).1
        have titled : ((fedClient (convertStrToEightBytes (literal "AB"))).feedhandler.subscribe
            (convertStrToEightBytes (literal "AB"))).map ClientOrderBook.ticker =
              some (convertStrToEightBytes (literal "AB")) := by decide +kernel
        rw [← isName] at found
        rw [found] at titled
        refine ⟨literal "AB", ?_, by decide⟩
        rw [Option.some.inj titled]
        decide +kernel
      add := fun orders => absurd orders (noOrders .add)
      cancel := fun orders => absurd orders (noOrders .cancel)
      modify := fun orders => absurd orders (noOrders .modify) }

/-- The client sends the order, and shows the book. -/
theorem handled_iff_harmless_lines :
    Handled eightyColumns (fedClient (convertStrToEightBytes (literal "AB"))) buyLine .notSet ∧
      Handled eightyColumns (fedClient (convertStrToEightBytes (literal "AB"))) subscribeLine
        .notSet := by
  have fed : run ClientFeedHandler.process ClientFeedHandler.fresh
      (bothSides (convertStrToEightBytes (literal "AB"))) =
        .ok (fedClient (convertStrToEightBytes (literal "AB"))).feedhandler := rfl
  exact ⟨(handled_iff_harmless fed buyLine .notSet).mpr (buyLine_harmless _ _),
    (handled_iff_harmless fed subscribeLine .notSet).mpr subscribeLine_harmless⟩

/-- How a line ends the client. -/
theorem not_handled_of_error {surroundings : Surroundings} {client : TradingClient} {line : Text}
    {request : OrderEntryRequest} {fault : ClientFault}
    (ends : getUserInput surroundings client line request = .error fault) :
    ¬Handled surroundings client line request := by
  rintro ⟨outcome, returned, -⟩
  rw [ends] at returned
  cases returned

/-- A subscription without an argument, a modification, a price that is no number, a book with
a name of eight characters, and a terminal without columns. -/
theorem lines_not_handled :
    ¬Handled eightyColumns (TradingClient.start 7) (literal "/subscribe") .notSet ∧
      ¬Handled eightyColumns (TradingClient.start 7)
        (literal "-order modify -ticker A -orderid 5") .notSet ∧
      ¬Handled eightyColumns (TradingClient.start 7)
        (literal "-order add -side B -price x -quantity 5 -ticker A") .notSet ∧
      ¬Handled eightyColumns (fedClient (convertStrToEightBytes (literal "ABCDEFGH")))
        (literal "/subscribe ABCDEFGH") .notSet ∧
      ¬Handled { eightyColumns with width := 0 }
        (fedClient (convertStrToEightBytes (literal "AB"))) subscribeLine .notSet := by
  refine ⟨?_, ?_, ?_, ?_, ?_⟩
  · exact @not_handled_of_error _ _ _ _ (.element 1) rfl
  · exact @not_handled_of_error _ _ _ _ (.element 2) rfl
  · exact @not_handled_of_error _ _ _ _ (.number .invalidArgument) rfl
  · exact @not_handled_of_error _ _ _ _
      (.overread (convertStrToEightBytes (literal "ABCDEFGH"))) rfl
  · exact @not_handled_of_error _ _ _ _ (.position 3) rfl

end Client
end SpotExchange
