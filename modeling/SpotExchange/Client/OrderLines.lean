/-
Lines that name an order: a command, and the fields it requires in any order.
-/

import Mathlib.Data.List.Perm.Basic
import SpotExchange.Client.UserInput

namespace SpotExchange
namespace Client

open Bytes Engine Machine Util Wire

/-! ### Order lines -/

inductive Command where
  | add
  | modify
  | cancel
  deriving DecidableEq, Repr

namespace Command

def word : Command → Text
  | .add => literal "add"
  | .modify => literal "modify"
  | .cancel => literal "cancel"

def required : Command → List Field
  | .add => [.side, .price, .quantity, .ticker]
  | .modify => [.side, .price, .quantity, .ticker, .orderid]
  | .cancel => [.ticker, .orderid]

end Command

/-- Digits that name a number below `2 ^ 31`. -/
def Digits (value : Text) : Prop :=
  (∀ byte ∈ value, isDigit byte = true) ∧ decimal value < 2 ^ 31

instance (value : Text) : Decidable (Digits value) :=
  @instDecidableAnd _ _ (List.decidableBAll (fun byte => isDigit byte = true) value)
    (Nat.decLt _ _)

def Field.Fits : Field → Text → Prop
  | .side, value => value = literal "B" ∨ value = literal "S"
  | .price, value => Digits value
  | .quantity, value => Digits value
  | .ticker, _ => True
  | .orderid, value => Digits value

instance (field : Field) (value : Text) : Decidable (field.Fits value) := by
  cases field <;> unfold Field.Fits <;> infer_instance

/-- A value is a token that holds no dash. -/
def Plain (value : Text) : Prop := value ≠ [] ∧ 32 ∉ value ∧ 45 ∉ value

instance (value : Text) : Decidable (Plain value) := inferInstanceAs (Decidable (_ ∧ _))

structure OrderLine where
  command : Command
  fields : List (Field × Text)
  complete : (fields.map Prod.fst).Perm command.required
  plain : ∀ entry ∈ fields, Plain entry.2
  fits : ∀ entry ∈ fields, entry.1.Fits entry.2

namespace OrderLine

def fieldTokens (fields : List (Field × Text)) : List Text :=
  fields.flatMap (fun entry => [entry.1.flag, entry.2])

def tokens (line : OrderLine) : List Text :=
  literal "-order" :: line.command.word :: fieldTokens line.fields

def text (line : OrderLine) : Text := [32].intercalate line.tokens

/-- What the line gives for a field; nothing where it has none. -/
def value (line : OrderLine) (field : Field) : Text := (line.fields.lookup field).getD []

/-- The request that the line names. -/
def named (line : OrderLine) (userID : UserId) : OrderEntryRequest :=
  let orderCommon : Info.OrderCommon :=
    { orderId := UInt64.ofNat (decimal (line.value .orderid))
      userId := userID
      ticker := convertStrToEightBytes (line.value .ticker) }
  let quantity := UInt32.ofNat (decimal (line.value .quantity))
  let isBuySide := decide (line.value .side = literal "B")
  let price := Int64.ofNat (decimal (line.value .price))
  match line.command with
  | .add =>
      .newOrder
        { orderCommon := orderCommon
          quantity := quantity
          isBuySide := isBuySide
          price := price }
  | .modify =>
      .modifyOrder
        { orderCommon := orderCommon
          quantity := quantity
          isBuySide := isBuySide
          price := price }
  | .cancel => .cancelOrder { orderCommon := orderCommon }

end OrderLine

/-! ### Tokens of a line -/

/-- The places at which a flag, the separator behind it and the end of the next token are
found. -/
theorem found_behind (front back : List Text) {name token : Text}
    (noSpace : (32 : UInt8) ∉ 45 :: name)
    (others : ∀ other ∈ front, Other 32 45 (45 :: name) other) (whole : (32 : UInt8) ∉ token) :
    ∃ place, find (terminated 32 (front ++ (45 :: name) :: token :: back))
        (45 :: name ++ [32]) 0 = some place ∧
      find (terminated 32 (front ++ (45 :: name) :: token :: back)) [32] place =
        some (place + (name.length + 1)) ∧
      find (terminated 32 (front ++ (45 :: name) :: token :: back)) [32]
        (place + (name.length + 1) + 1) = some (place + (name.length + 1) + 1 + token.length) ∧
      subText (terminated 32 (front ++ (45 :: name) :: token :: back))
        (place + (name.length + 1) + 1) token.length = .ok token := by
  have whole' : terminated 32 (front ++ (45 :: name) :: token :: back) =
      terminated 32 front ++ (45 :: name ++ 32 :: (token ++ 32 :: terminated 32 back)) := by
    rw [terminated_append, terminated_cons, terminated_cons]
  have behindFlag : terminated 32 (front ++ (45 :: name) :: token :: back) =
      terminated 32 front ++ (45 :: name) ++ 32 :: (token ++ 32 :: terminated 32 back) := by
    rw [whole', List.append_assoc]
  have behindToken : terminated 32 (front ++ (45 :: name) :: token :: back) =
      (terminated 32 front ++ (45 :: name) ++ [32]) ++ token ++ 32 :: terminated 32 back := by
    rw [behindFlag]
    simp only [List.append_assoc, List.cons_append, List.nil_append]
  have length : (terminated 32 front ++ (45 :: name) ++ [32]).length =
      (terminated 32 front).length + (name.length + 1) + 1 := by
    simp only [List.length_append, List.length_cons, List.length_nil]
  refine ⟨(terminated 32 front).length, ?_, ?_, ?_, ?_⟩
  · rw [find_zero, whole']
    exact firstPlace_token (by decide) noSpace others _
  · rw [behindFlag]
    exact find_byte _ noSpace _ rfl
  · rw [behindToken]
    exact find_byte _ whole _ length
  · rw [subText, behindToken, ← length, substr_append]

theorem findField_behind {front back : List Text} {field : Field} {token : Text}
    (noSpace : (32 : UInt8) ∉ field.flag)
    (others : ∀ other ∈ front, Other 32 45 field.flag other) (whole : (32 : UInt8) ∉ token) :
    findField field.key (terminated 32 (front ++ field.flag :: token :: back)) = .ok token := by
  obtain ⟨place, here, space, ends, taken⟩ := found_behind _ back noSpace others whole
  rw [Field.key, Field.flag, findField, here]
  simp only [space, ends]
  rw [Nat.add_sub_cancel_left, taken]

theorem findField_nowhere {tokens : List Text} {field : Field} (noSpace : (32 : UInt8) ∉ field.flag)
    (others : ∀ other ∈ tokens, Other 32 45 field.flag other) :
    findField field.key (terminated 32 tokens) = .ok [] := by
  have nothing := firstPlace_no_token (by decide) noSpace others
  rw [Field.key, Field.flag, findField, find_zero, nothing]

theorem flag_noSpace (field : Field) : (32 : UInt8) ∉ field.flag := by
  cases field <;> decide

namespace OrderLine

theorem other_order (field : Field) : Other 32 45 field.flag (literal "-order") where
  whole := by decide
  unmarked := by decide
  different := by cases field <;> decide

theorem other_word (field : Field) (command : Command) : Other 32 45 field.flag command.word where
  whole := by cases command <;> decide
  unmarked := by cases command <;> decide
  different := by cases field <;> cases command <;> decide

theorem other_flag {field present : Field} (different : field ≠ present) :
    Other 32 45 field.flag present.flag where
  whole := flag_noSpace present
  unmarked := by cases present <;> decide
  different := by
    revert different
    cases field <;> cases present <;> decide

theorem other_value (field : Field) {value : Text} (plain : Plain value) :
    Other 32 45 field.flag value where
  whole := plain.2.1
  unmarked := fun inside => plain.2.2 (List.mem_of_mem_tail inside)
  different := by
    intro same
    exact plain.2.2 (same ▸ List.mem_cons_self)

/-- The tokens of fields other than one are not taken for its flag. -/
theorem others_of_fields {fields : List (Field × Text)} {field : Field}
    (plain : ∀ entry ∈ fields, Plain entry.2) (absent : field ∉ fields.map Prod.fst) :
    ∀ token ∈ fieldTokens fields, Other 32 45 field.flag token := by
  intro token member
  obtain ⟨entry, present, isToken⟩ := List.mem_flatMap.mp member
  have different : field ≠ entry.1 := by
    intro same
    exact absent (same ▸ List.mem_map_of_mem present)
  rcases List.mem_cons.mp isToken with isFlag | rest
  · rw [isFlag]
    exact other_flag different
  · rw [List.mem_singleton.mp rest]
    exact other_value field (plain entry present)

section Line

variable (line : OrderLine)

theorem text_terminated : line.text ++ [32] = terminated 32 line.tokens :=
  terminated_joined 32 (literal "-order") _

theorem required_nodup (command : Command) : command.required.Nodup := by
  cases command <;> decide

theorem fields_nodup : (line.fields.map Prod.fst).Nodup :=
  line.complete.nodup_iff.mpr (required_nodup line.command)

theorem others_of_front {fields : List (Field × Text)} {field : Field}
    (plain : ∀ entry ∈ fields, Plain entry.2) (absent : field ∉ fields.map Prod.fst) :
    ∀ token ∈ literal "-order" :: line.command.word :: fieldTokens fields,
      Other 32 45 field.flag token := by
  intro token member
  rcases List.mem_cons.mp member with isOrder | member
  · rw [isOrder]
    exact other_order field
  · rcases List.mem_cons.mp member with isWord | member
    · rw [isWord]
      exact other_word field line.command
    · exact others_of_fields plain absent token member

theorem lookup_split {before after : List (Field × Text)} {field : Field} {given : Text}
    (absent : field ∉ before.map Prod.fst) :
    (before ++ (field, given) :: after).lookup field = some given := by
  induction before with
  | nil => rw [List.nil_append, List.lookup_cons_self]
  | cons entry rest ih =>
      rw [List.map_cons, List.mem_cons, not_or] at absent
      have different : (field == entry.1) = false := beq_false_of_ne absent.1
      rw [List.cons_append, List.lookup_cons, different]
      exact ih absent.2

/-- A field that the command requires is read as the line gives it. -/
theorem findField_required {field : Field} (required : field ∈ line.command.required) :
    findField field.key (line.text ++ [32]) = .ok (line.value field) ∧
      line.value field ≠ [] ∧ field.Fits (line.value field) := by
  obtain ⟨⟨present, given⟩, member, same⟩ := List.mem_map.mp (line.complete.mem_iff.mpr required)
  change present = field at same
  rw [same] at member
  obtain ⟨before, after, split⟩ := List.append_of_mem member
  have absent : field ∉ before.map Prod.fst := by
    have nodup := line.fields_nodup
    rw [split, List.map_append, List.map_cons] at nodup
    intro inside
    exact (List.nodup_append.mp nodup).2.2 field inside field List.mem_cons_self rfl
  have isGiven : line.value field = given := by
    rw [value, split, lookup_split absent, Option.getD_some]
  have plainBefore : ∀ entry ∈ before, Plain entry.2 := by
    intro entry inside
    exact line.plain entry (split ▸ List.mem_append_left _ inside)
  have tokens : line.tokens = (literal "-order" :: line.command.word :: fieldTokens before) ++
      field.flag :: given :: fieldTokens after := by
    rw [OrderLine.tokens, split]
    simp only [fieldTokens, List.flatMap_append, List.flatMap_cons, List.cons_append,
      List.nil_append]
  have plain := line.plain (field, given) member
  rw [isGiven, text_terminated, tokens]
  exact ⟨findField_behind (flag_noSpace field)
    (line.others_of_front plainBefore absent) plain.2.1, plain.1,
    line.fits (field, given) member⟩

theorem findField_unrequired {field : Field} (unrequired : field ∉ line.command.required) :
    findField field.key (line.text ++ [32]) = .ok [] := by
  have absent : field ∉ line.fields.map Prod.fst :=
    fun inside => unrequired (line.complete.mem_iff.mp inside)
  rw [text_terminated]
  exact findField_nowhere (flag_noSpace field) (line.others_of_front line.plain absent)

theorem ordertype_word : ordertype (line.text ++ [32]) = .ok (some line.command.word) := by
  have whole : (32 : UInt8) ∉ line.command.word := by cases line.command <;> decide
  have noSpace : (32 : UInt8) ∉ 45 :: literal "order" := by decide
  obtain ⟨place, here, space, ends, taken⟩ := found_behind [] (fieldTokens line.fields) noSpace
    (fun _ inside => absurd inside List.not_mem_nil) whole
  have tokens : terminated 32 line.tokens = terminated 32
      ([] ++ (45 :: literal "order") :: line.command.word :: fieldTokens line.fields) := rfl
  have key : literal "-order " = 45 :: literal "order" ++ [32] := by decide
  rw [text_terminated, tokens, ordertype, key, here]
  simp only [space, ends]
  rw [Nat.add_sub_cancel_left, taken]
  rfl

theorem no_command (surroundings : Surroundings) (client : TradingClient) :
    userEnteredCommand surroundings client (line.text ++ [32]) = .ok none := by
  have first : firstCharacter (line.text ++ [32]) = 45 := by
    rw [text_terminated]
    rfl
  rw [userEnteredCommand, first, if_pos (by decide)]

end Line

/-! ### What becomes of a line -/

theorem number_digits {value : Text} (some : value ≠ []) (digits : Digits value) :
    number value = .ok (Int32.ofInt (decimal value)) := by
  have whole := wholeNumber_of_digits some digits.1
  have small := digits.2
  rw [number, stoi_of_wholeNumber whole (by omega) (by omega)]

theorem toInt64_ofInt {count : Nat} (small : count < 2 ^ 31) :
    (Int32.ofInt count).toInt64 = Int64.ofNat count := by
  apply Int64.toInt_inj.mp
  rw [Int32.toInt_toInt64, Int32.toInt_ofInt_of_le (by omega) (by omega),
    Int64.toInt_ofNat_of_lt (by omega)]

theorem toUInt32_ofInt (count : Nat) : (Int32.ofInt count).toUInt32 = UInt32.ofNat count := by
  apply UInt32.toBitVec_inj.mp
  exact BitVec.ofInt_natCast 32 count

section Outcomes

variable {line : OrderLine} {userID : UserId} {request : OrderEntryRequest}
  {surroundings : Surroundings} {client : TradingClient}

/-- The side that a line gives is set. -/
theorem setSide_value {value : Text} (fits : Field.side.Fits value) (neworder : NewOrder) :
    setSide neworder (firstCharacter value) =
      some { neworder with isBuySide := decide (value = literal "B") } := by
  rcases fits with isBuy | isSell
  · rw [isBuy]
    rfl
  · rw [isSell]
    rfl

theorem constructs_add (isAdd : line.command = .add) :
    constructNewOrderRequest userID request (line.text ++ [32]) =
      .ok (true, line.named userID) := by
  have required : ∀ field ∈ [Field.side, .price, .quantity, .ticker],
      findField field.key (line.text ++ [32]) = .ok (line.value field) ∧
        line.value field ≠ [] ∧ field.Fits (line.value field) := by
    intro field member
    apply line.findField_required
    rw [isAdd]
    exact member
  have values : getOrderValues (line.text ++ [32]) addorderFields =
      .ok [line.value .side, line.value .price, line.value .quantity, line.value .ticker] := by
    rw [getOrderValues, Field.addorderFields_eq]
    apply orderValuesFrom_given
    intro field member
    exact ⟨(required field member).1, (required field member).2.1⟩
  obtain ⟨-, -, side⟩ := required .side (by decide)
  obtain ⟨-, somePrice, price⟩ := required .price (by decide)
  obtain ⟨-, someQuantity, quantity⟩ := required .quantity (by decide)
  have noId : line.value .orderid = [] := by
    have absent : Field.orderid ∉ line.fields.map Prod.fst := by
      intro inside
      have needed := line.complete.mem_iff.mp inside
      rw [isAdd] at needed
      exact absurd needed (by decide)
    have unlisted : line.fields.lookup .orderid = none := by
      rw [List.lookup_eq_none_iff]
      intro entry member
      apply bne_iff_ne.mpr
      intro same
      exact absent (same ▸ List.mem_map_of_mem member)
    rw [value, unlisted]
    rfl
  rw [constructNewOrderRequest, constructPriced, values]
  simp only [ok_bind, List.cons_ne_nil, if_false, element, List.getElem?_cons_zero,
    List.getElem?_cons_succ, setSide_value side, number_digits somePrice price,
    number_digits someQuantity quantity, named, isAdd, noId, toInt64_ofInt price.2,
    toUInt32_ofInt]
  rfl

/-- The values of a modification have no third one. -/
theorem constructs_modify (isModify : line.command = .modify) :
    constructCancelOrderRequest userID request (line.text ++ [32]) = .error (.element 2) := by
  have required : ∀ field ∈ [Field.ticker, .orderid],
      findField field.key (line.text ++ [32]) = .ok (line.value field) ∧
        line.value field ≠ [] := by
    intro field member
    have needed : field ∈ line.command.required := by
      rw [isModify]
      revert member
      cases field <;> decide
    obtain ⟨found, some, -⟩ := line.findField_required needed
    exact ⟨found, some⟩
  have values : getOrderValues (line.text ++ [32]) cancelorderFields =
      .ok [line.value .ticker, line.value .orderid] := by
    rw [getOrderValues, Field.cancelorderFields_eq]
    exact orderValuesFrom_given required []
  rw [constructCancelOrderRequest, values]
  rfl

/-- A cancellation has no side. -/
theorem constructs_cancel (isCancel : line.command = .cancel) :
    constructModifyOrderRequest userID request (line.text ++ [32]) =
      .ok (false, .newOrder (mutableNewOrder request)) := by
  have noSide : findField Field.side.key (line.text ++ [32]) = .ok [] := by
    apply line.findField_unrequired
    rw [isCancel]
    decide
  have values : getOrderValues (line.text ++ [32]) modorderFields = .ok [] := by
    rw [getOrderValues, Field.modorderFields_eq]
    exact orderValuesFrom_missing List.mem_cons_self noSide []
  rw [constructModifyOrderRequest, constructPriced, values]
  rfl

theorem getUserInput_eq (surroundings : Surroundings) (client : TradingClient) (line : OrderLine)
    (request : OrderEntryRequest) :
    getUserInput surroundings client line.text request = (do
      let constructed ← constructOrder client.userID request (line.text ++ [32]) line.command.word
      .ok
        { result := constructed.1.1
          request := constructed.1.2
          client := client
          printed := constructed.2 }) := by
  rw [getUserInput, no_command, ok_bind]
  simp only [enterOrder, ordertype_word, ok_bind]

/-- The line has the result true, and the request is the one that it names. -/
def Obeyed (surroundings : Surroundings) (client : TradingClient) (line : OrderLine)
    (request : OrderEntryRequest) : Prop :=
  ∃ outcome, getUserInput surroundings client line.text request = .ok outcome ∧
    outcome.result = true ∧ outcome.request = line.named client.userID

theorem cancel_not_obeyed (isCancel : line.command = .cancel) :
    ¬Obeyed surroundings client line request := by
  rintro ⟨outcome, returned, isTrue, -⟩
  have chosen : constructOrder client.userID request (line.text ++ [32]) (Command.word .cancel) =
      (constructModifyOrderRequest client.userID request (line.text ++ [32])).map (·, []) := by
    rw [constructOrder, if_neg (by decide), if_pos (by decide)]
  rw [getUserInput_eq, isCancel, chosen, constructs_cancel isCancel] at returned
  cases returned
  cases isTrue

theorem modify_not_obeyed (isModify : line.command = .modify) :
    ¬Obeyed surroundings client line request := by
  rintro ⟨outcome, returned, -⟩
  have chosen : constructOrder client.userID request (line.text ++ [32]) (Command.word .modify) =
      (constructCancelOrderRequest client.userID request (line.text ++ [32])).map (·, []) := by
    rw [constructOrder, if_neg (by decide), if_neg (by decide), if_pos (by decide)]
  rw [getUserInput_eq, isModify, chosen, constructs_modify isModify] at returned
  cases returned

/-- Of the commands only `add` becomes the request that it names: `cancel` is handed to the
builder of modifications and `modify` to that of cancellations. -/
theorem obeyed_iff_add (surroundings : Surroundings) (client : TradingClient) (line : OrderLine)
    (request : OrderEntryRequest) :
    Obeyed surroundings client line request ↔ line.command = .add := by
  constructor
  · intro obeyed
    cases command : line.command with
    | add => rfl
    | modify => exact absurd obeyed (modify_not_obeyed command)
    | cancel => exact absurd obeyed (cancel_not_obeyed command)
  · intro isAdd
    have chosen : constructOrder client.userID request (line.text ++ [32]) (Command.word .add) =
        (constructNewOrderRequest client.userID request (line.text ++ [32])).map (·, []) := by
      rw [constructOrder, if_pos (by decide)]
    refine ⟨
      { result := true
        request := line.named client.userID
        client := client
        printed := [] }, ?_, rfl, rfl⟩
    rw [getUserInput_eq, isAdd, chosen, constructs_add isAdd]
    rfl

end Outcomes

/-- A cancellation of order five. -/
def cancelFive : OrderLine where
  command := .cancel
  fields := [(.ticker, literal "A"), (.orderid, literal "5")]
  complete := by decide
  plain := by decide +kernel
  fits := by decide +kernel

/-- The line of a complete cancellation makes no request. -/
theorem cancelFive_not_obeyed :
    cancelFive.text = literal "-order cancel -ticker A -orderid 5" ∧
      ¬Obeyed eightyColumns (TradingClient.start 7) cancelFive .notSet :=
  ⟨by decide +kernel, cancel_not_obeyed rfl⟩

end OrderLine

end Client
end SpotExchange
