/-
Which requests are rejected. A rejected request leaves every book as it was and is
answered with reasons that hold; a request that is not rejected is answered with no
rejection. Nothing is assumed of the books.
-/

import SpotExchange.Engine.LiveOrders
import SpotExchange.Engine.Modification
import SpotExchange.Server.OrderBookManager

namespace SpotExchange

open Machine

namespace Wire

def Emission.isRejection : Emission → Bool
  | .toClient _ (.rejection _) => true
  | _ => false

def NoRejection (emitted : List Emission) : Prop :=
  ∀ emission ∈ emitted, emission.isRejection = false

theorem NoRejection.append {front back : List Emission} (first : NoRejection front)
    (second : NoRejection back) : NoRejection (front ++ back) := by
  intro emission member
  rcases List.mem_append.mp member with inFront | inBack
  · exact first emission inFront
  · exact second emission inBack

theorem NoRejection.single {emission : Emission} (other : emission.isRejection = false) :
    NoRejection [emission] := by
  intro sent member
  rw [List.mem_singleton.mp member]
  exact other

end Wire

/-! ### Calls that are let in -/

namespace Engine
namespace OrderBook

open Wire

variable {book : OrderBook} {clock : Nat → Int64}

theorem communicateMatchResults_noRejection (result : MatchResult) (order : Order) :
    NoRejection (communicateMatchResults result order) := by
  intro emission member
  obtain ⟨fill, _filled, sent⟩ := List.mem_flatMap.mp member
  rcases List.mem_cons.mp sent with response | rest
  · rw [response]
    rfl
  · rw [List.mem_singleton.mp rest]
    rfl

theorem restOrder_noRejection {order : Order} {addSide : BookSide} {reading : Nat}
    {executions : List Execution} {emitted : List Emission} {result : Order × CallResult}
    (before : NoRejection emitted)
    (returned : restOrder clock book addSide order reading executions emitted = .ok result) :
    NoRejection result.2.emitted := by
  obtain ⟨placed, _places, done⟩ := bind_eq_ok returned
  cases done
  apply before.append
  apply NoRejection.single
  rfl

theorem addOrderTo_noRejection {order : Order} {matchSide addSide : BookSide}
    {result : Order × CallResult}
    (returned : addOrderTo clock book order matchSide addSide = .ok result) :
    NoRejection result.2.emitted := by
  unfold addOrderTo at returned
  split at returned
  · obtain ⟨matched, _matches, rest⟩ := bind_eq_ok returned
    have trades := communicateMatchResults_noRejection matched.matchResult matched.order
    simp only at rest
    split at rest
    · cases rest
      exact trades
    · exact restOrder_noRejection trades rest
  · apply restOrder_noRejection _ returned
    intro emission member
    cases member

/-- An add whose id is not in the book sends no rejection. -/
theorem addOrder_noRejection {order : Order} {result : Order × CallResult}
    (fresh : book.limitOrders.lookup order.orderId = none)
    (returned : addOrder clock book order = .ok result) : NoRejection result.2.emitted := by
  unfold addOrder at returned
  rw [if_neg (by rw [fresh]; exact Bool.false_ne_true)] at returned
  split at returned
  · exact addOrderTo_noRejection returned
  · split at returned
    · exact addOrderTo_noRejection returned
    · cases returned
      intro emission member
      cases member

/-- A cancel by the owner sends no rejection, and its id is not in the book afterwards. -/
theorem cancelOrder_noRejection {cancel : Info.CancelOrder} {limit : Limit} {result : CallResult}
    (found : book.limitOrders.lookup cancel.orderId = some limit)
    (owner : limit.order.userId = cancel.userId)
    (returned : cancelOrder clock book cancel = .ok result) :
    NoRejection result.emitted ∧ result.book.limitOrders.lookup cancel.orderId = none := by
  unfold cancelOrder at returned
  rw [found] at returned
  simp only at returned
  rw [if_neg (not_not.mpr owner)] at returned
  obtain ⟨unlinked, _unlinks, done⟩ := bind_eq_ok returned
  cases done
  constructor
  · apply NoRejection.single
    rfl
  · exact AList.lookup_erase _ _

/-- A modify that passes the three checks sends no rejection. Where it cancels and adds,
the cancel is by the owner and takes out the id that is added. -/
theorem modifyOrder_noRejection {changes : Info.ModifyOrder} {limit : Limit}
    {result : CallResult} (found : book.limitOrders.lookup changes.orderId = some limit)
    (sameSide : limit.order.isBuySide = changes.isBuySide)
    (owner : limit.order.userId = changes.userId)
    (notTrivial : modifyOrderTrivial changes limit.order = false)
    (returned : modifyOrder clock book changes = .ok result) : NoRejection result.emitted := by
  unfold modifyOrder at returned
  rw [found] at returned
  simp only [owner, sameSide, notTrivial, bne_self_eq_false, Bool.or_self, Bool.false_eq_true,
    if_false] at returned
  split at returned
  · obtain ⟨changed, _changes, done⟩ := bind_eq_ok returned
    cases done
    apply NoRejection.single
    rfl
  · obtain ⟨cancelled, cancels, rest⟩ := bind_eq_ok returned
    obtain ⟨added, adds, done⟩ := bind_eq_ok rest
    cases done
    have resting : book.limitOrders.lookup (Info.CancelOrder.ofModify changes).orderId =
        some limit := found
    obtain ⟨quiet, gone⟩ := cancelOrder_noRejection resting owner cancels
    exact quiet.append (addOrder_noRejection gone adds)

end OrderBook
end Engine

/-! ### The requests that are rejected -/

namespace Server
namespace OrderBookManager

open Engine Wire

/-- The order that rests under an id in the book of a ticker. -/
def resting (books : OrderBooks) (common : Info.OrderCommon) : Option Order :=
  (books.lookup common.ticker).bind (fun book =>
    (book.limitOrders.lookup common.orderId).map Limit.order)

/-- When a request is to be rejected. -/
def Refused (books : OrderBooks) : Request → Prop
  | .add _ order =>
      books.lookup order.ticker = none ∨ ∃ old, resting books order.common = some old
  | .cancel _ cancel =>
      books.lookup cancel.ticker = none ∨ resting books cancel.toOrderCommon = none ∨
        ∃ order, resting books cancel.toOrderCommon = some order ∧ order.userId ≠ cancel.userId
  | .modify _ changes =>
      changes.quantity = 0 ∨ books.lookup changes.ticker = none ∨
        resting books changes.toOrderCommon = none ∨
        ∃ order, resting books changes.toOrderCommon = some order ∧
          (order.isBuySide ≠ changes.isBuySide ∨ order.userId ≠ changes.userId ∨
            changes.price = order.price ∧ changes.quantity = order.currentQuantity)

/-- When a reason holds of a request. -/
def ReasonHolds (books : OrderBooks) : Request → RejectionReason → Prop
  | .add _ order, .orderbookNotFound => books.lookup order.ticker = none
  | .add _ order, .orderIdAlreadyPresent => ∃ old, resting books order.common = some old
  | .cancel _ cancel, .orderbookNotFound => books.lookup cancel.ticker = none
  | .cancel _ cancel, .orderNotFound =>
      books.lookup cancel.ticker ≠ none ∧ resting books cancel.toOrderCommon = none
  | .cancel _ cancel, .wrongUserId =>
      ∃ order, resting books cancel.toOrderCommon = some order ∧ order.userId ≠ cancel.userId
  | .modify _ changes, .orderbookNotFound => books.lookup changes.ticker = none
  | .modify _ changes, .orderNotFound =>
      books.lookup changes.ticker ≠ none ∧ resting books changes.toOrderCommon = none
  | .modify _ changes, .modifyWrongSide =>
      ∃ order, resting books changes.toOrderCommon = some order ∧
        order.isBuySide ≠ changes.isBuySide
  | .modify _ changes, .wrongUserId =>
      ∃ order, resting books changes.toOrderCommon = some order ∧ order.userId ≠ changes.userId
  | .modify _ changes, .modificationTrivial =>
      changes.quantity = 0 ∨
        ∃ order, resting books changes.toOrderCommon = some order ∧
          changes.price = order.price ∧ changes.quantity = order.currentQuantity
  | _, _ => False

/-- What a rejected request leaves: every book as it was, no executions, no market data,
and to the requester at least one rejection, each with a reason that holds. -/
structure RejectedWithoutEffect (books : OrderBooks) (request : Request) (handled : Handled) :
    Prop where
  unchanged : ∀ ticker, handled.books.lookup ticker = books.lookup ticker
  executions : handled.executions = []
  silent : marketDataOf handled.emitted = []
  answered : handled.emitted ≠ []
  reasons : ∀ emission ∈ handled.emitted, ∃ reason,
    emission = OrderBook.rejection request.connection request.common reason ∧
      ReasonHolds books request reason

variable {books : OrderBooks} {request : Request}

/-- A rejection for one reason, with the books as they were. -/
theorem RejectedWithoutEffect.single {handled : Handled} {reason : RejectionReason}
    (sameBooks : ∀ ticker, handled.books.lookup ticker = books.lookup ticker)
    (noTrade : handled.executions = [])
    (emitted : handled.emitted =
      [OrderBook.rejection request.connection request.common reason])
    (holds : ReasonHolds books request reason) : RejectedWithoutEffect books request handled where
  unchanged := sameBooks
  executions := noTrade
  silent := by
    rw [emitted]
    rfl
  answered := by
    rw [emitted]
    exact List.cons_ne_nil _ _
  reasons := by
    intro emission member
    rw [emitted] at member
    exact ⟨reason, List.mem_singleton.mp member, holds⟩

/-- Handing a request to a book that leaves itself as it was leaves all books so. -/
theorem lookup_insert_same {ticker : Ticker} {book : OrderBook}
    (found : books.lookup ticker = some book) (other : Ticker) :
    (books.insert ticker book).lookup other = books.lookup other := by
  by_cases same : other = ticker
  · rw [same, found]
    exact AList.lookup_insert books
  · exact AList.lookup_insert_ne same

theorem resting_eq (common : Info.OrderCommon) {book : OrderBook}
    (found : books.lookup common.ticker = some book) :
    resting books common = (book.limitOrders.lookup common.orderId).map Limit.order := by
  rw [resting, found]
  rfl

/-! ### Rejections -/

theorem toOrderBook_absent {ticker : Ticker} {notFound : Emission}
    (absent : books.lookup ticker = none) :
    toOrderBook books ticker notFound request =
      .ok { books := books
            executions := []
            emitted := [notFound] } := by
  unfold toOrderBook
  rw [absent]

theorem toOrderBook_found {ticker : Ticker} {notFound : Emission} {book : OrderBook}
    {result : CallResult} (found : books.lookup ticker = some book)
    (called : book.call request = .ok result) :
    toOrderBook books ticker notFound request =
      .ok { books := books.insert ticker result.book
            executions := result.executions.map (fun execution => (ticker, execution))
            emitted := result.emitted } := by
  unfold toOrderBook
  rw [found]
  simp only
  rw [called]
  rfl

/-- Where there is a book, what rests under an id is what its id map holds. -/
theorem book_of_present {ticker : Ticker} (present : books.lookup ticker ≠ none) :
    ∃ book, books.lookup ticker = some book := Option.ne_none_iff_exists'.mp present

theorem addOrder_rejected {clock : Nat → Int64} {order : Order}
    (refused : Refused books (.add clock order)) :
    ∃ handled, handle books (.add clock order) = .ok handled ∧
      RejectedWithoutEffect books (.add clock order) handled := by
  cases found : books.lookup order.ticker with
  | none =>
      refine ⟨_, toOrderBook_absent found, RejectedWithoutEffect.single (fun _ => rfl) rfl rfl ?_⟩
      exact found
  | some book =>
      have refusal : books.lookup order.ticker = none ∨ ∃ old,
          resting books order.common = some old := refused
      rw [found] at refusal
      obtain ⟨old, rests⟩ := refusal.resolve_left (Option.some_ne_none book)
      have present : (book.limitOrders.lookup order.orderId).isSome = true := by
        have inBook := (resting_eq order.common found).symm.trans rests
        obtain ⟨limit, stored, _same⟩ := Option.map_eq_some_iff.mp inBook
        exact Option.isSome_of_mem stored
      have called : book.call (.add clock order) =
          .ok { book := book
                executions := []
                emitted := [OrderBook.rejection order.connection order.common
                  .orderIdAlreadyPresent] } := by
        simp only [OrderBook.call, OrderBook.addOrder, if_pos present]
        rfl
      refine ⟨_, toOrderBook_found found called,
        RejectedWithoutEffect.single (lookup_insert_same found) rfl rfl ?_⟩
      exact ⟨old, rests⟩

theorem cancelOrder_rejected {clock : Nat → Int64} {cancel : Info.CancelOrder}
    (refused : Refused books (.cancel clock cancel)) :
    ∃ handled, handle books (.cancel clock cancel) = .ok handled ∧
      RejectedWithoutEffect books (.cancel clock cancel) handled := by
  cases found : books.lookup cancel.ticker with
  | none =>
      refine ⟨_, toOrderBook_absent found, RejectedWithoutEffect.single (fun _ => rfl) rfl rfl ?_⟩
      exact found
  | some book =>
      have present : books.lookup cancel.ticker ≠ none := by
        rw [found]
        exact Option.some_ne_none book
      have inBook := resting_eq cancel.toOrderCommon found
      cases stored : book.limitOrders.lookup cancel.orderId with
      | none =>
          have called : book.call (.cancel clock cancel) =
              .ok { book := book
                    executions := []
                    emitted := [OrderBook.rejection cancel.connection cancel.toOrderCommon
                      .orderNotFound] } := by
            simp only [OrderBook.call, OrderBook.cancelOrder, stored]
          rw [stored] at inBook
          refine ⟨_, toOrderBook_found found called,
            RejectedWithoutEffect.single (lookup_insert_same found) rfl rfl ?_⟩
          exact ⟨present, inBook⟩
      | some limit =>
          rw [stored] at inBook
          have foreign : ∃ order, resting books cancel.toOrderCommon = some order ∧
              order.userId ≠ cancel.userId := by
            rcases refused with absent | none | other
            · exact absurd absent present
            · rw [inBook] at none
              cases none
            · exact other
          obtain ⟨order, rests, wrongUser⟩ := foreign
          have wrong : limit.order.userId ≠ cancel.userId := by
            rw [inBook] at rests
            rw [Option.some.inj rests]
            exact wrongUser
          have called : book.call (.cancel clock cancel) =
              .ok { book := book
                    executions := []
                    emitted := [OrderBook.rejection cancel.connection cancel.toOrderCommon
                      .wrongUserId] } := by
            simp only [OrderBook.call, OrderBook.cancelOrder, stored, if_pos wrong]
          refine ⟨_, toOrderBook_found found called,
            RejectedWithoutEffect.single (lookup_insert_same found) rfl rfl ?_⟩
          exact ⟨order, rests, wrongUser⟩

/-- Each rejection of a modify is for an error that holds, and there is one for each. -/
theorem processModifyError_reasons (wrongSide wrongUserId trivialModify : Bool)
    (changes : Info.ModifyOrder) {emission : Emission}
    (member : emission ∈ OrderBook.processModifyError wrongSide wrongUserId trivialModify changes) :
    ∃ reason, emission =
        OrderBook.rejection changes.connection changes.toOrderCommon reason ∧
      (reason = .modifyWrongSide ∧ wrongSide = true ∨
        reason = .wrongUserId ∧ wrongUserId = true ∨
        reason = .modificationTrivial ∧ trivialModify = true) := by
  unfold OrderBook.processModifyError at member
  rw [List.mem_append, List.mem_append] at member
  rcases member with (side | user) | unchanged
  · cases wrongSide with
    | false => cases side
    | true => exact ⟨.modifyWrongSide, List.mem_singleton.mp side, Or.inl ⟨rfl, rfl⟩⟩
  · cases wrongUserId with
    | false => cases user
    | true => exact ⟨.wrongUserId, List.mem_singleton.mp user, Or.inr (Or.inl ⟨rfl, rfl⟩)⟩
  · cases trivialModify with
    | false => cases unchanged
    | true =>
        exact ⟨.modificationTrivial, List.mem_singleton.mp unchanged, Or.inr (Or.inr ⟨rfl, rfl⟩)⟩

theorem processModifyError_ne_nil {wrongSide wrongUserId trivialModify : Bool}
    (changes : Info.ModifyOrder) (wrong : (wrongSide || wrongUserId || trivialModify) = true) :
    OrderBook.processModifyError wrongSide wrongUserId trivialModify changes ≠ [] := by
  cases wrongSide <;> cases wrongUserId <;> cases trivialModify <;>
    first | exact List.cons_ne_nil _ _ | cases wrong

theorem modifyOrder_rejected {clock : Nat → Int64} {changes : Info.ModifyOrder}
    (refused : Refused books (.modify clock changes)) :
    ∃ handled, handle books (.modify clock changes) = .ok handled ∧
      RejectedWithoutEffect books (.modify clock changes) handled := by
  simp only [handle, modifyOrder]
  by_cases nothing : changes.quantity = 0
  · rw [if_pos nothing]
    refine ⟨_, rfl, RejectedWithoutEffect.single (fun _ => rfl) rfl rfl ?_⟩
    exact Or.inl nothing
  · rw [if_neg nothing]
    cases found : books.lookup changes.ticker with
    | none =>
        refine ⟨_, toOrderBook_absent found,
          RejectedWithoutEffect.single (fun _ => rfl) rfl rfl ?_⟩
        exact found
    | some book =>
        have present : books.lookup changes.ticker ≠ none := by
          rw [found]
          exact Option.some_ne_none book
        have inBook := resting_eq changes.toOrderCommon found
        cases stored : book.limitOrders.lookup changes.orderId with
        | none =>
            have called : book.call (.modify clock changes) =
                .ok { book := book
                      executions := []
                      emitted := [OrderBook.rejection changes.connection changes.toOrderCommon
                        .orderNotFound] } := by
              simp only [OrderBook.call, OrderBook.modifyOrder, stored]
            rw [stored] at inBook
            refine ⟨_, toOrderBook_found found called,
              RejectedWithoutEffect.single (lookup_insert_same found) rfl rfl ?_⟩
            exact ⟨present, inBook⟩
        | some limit =>
            rw [stored] at inBook
            have rests : resting books changes.toOrderCommon = some limit.order := inBook
            have wrong : (limit.order.isBuySide != changes.isBuySide ||
                limit.order.userId != changes.userId ||
                OrderBook.modifyOrderTrivial changes limit.order) = true := by
              have errors : limit.order.isBuySide ≠ changes.isBuySide ∨
                  limit.order.userId ≠ changes.userId ∨
                  changes.price = limit.order.price ∧
                    changes.quantity = limit.order.currentQuantity := by
                rcases refused with zero | absent | none | ⟨order, restsOrder, errors⟩
                · exact absurd zero nothing
                · exact absurd absent present
                · rw [rests] at none
                  cases none
                · rw [rests] at restsOrder
                  rw [Option.some.inj restsOrder]
                  exact errors
              simp only [OrderBook.modifyOrderTrivial, Bool.or_eq_true, Bool.and_eq_true,
                bne_iff_ne, beq_iff_eq]
              tauto
            have called : book.call (.modify clock changes) =
                .ok { book := book
                      executions := []
                      emitted := OrderBook.processModifyError
                        (limit.order.isBuySide != changes.isBuySide)
                        (limit.order.userId != changes.userId)
                        (OrderBook.modifyOrderTrivial changes limit.order) changes } := by
              simp only [OrderBook.call, OrderBook.modifyOrder, stored]
              rw [if_pos wrong]
            refine ⟨_, toOrderBook_found found called, lookup_insert_same found, rfl,
              OrderBook.marketDataOf_processModifyError _ _ _ changes,
              processModifyError_ne_nil changes wrong, ?_⟩
            intro emission member
            obtain ⟨reason, sent, error⟩ := processModifyError_reasons _ _ _ changes member
            refine ⟨reason, sent, ?_⟩
            rcases error with ⟨side, differs⟩ | ⟨user, differs⟩ | ⟨unchanged, same⟩
            · rw [side]
              exact ⟨limit.order, rests, bne_iff_ne.mp differs⟩
            · rw [user]
              exact ⟨limit.order, rests, bne_iff_ne.mp differs⟩
            · rw [unchanged]
              rw [OrderBook.modifyOrderTrivial, Bool.and_eq_true, beq_iff_eq, beq_iff_eq] at same
              exact Or.inr ⟨limit.order, rests, same⟩

/-! ### Requests that are let in -/

theorem toOrderBook_noRejection {ticker : Ticker} {notFound : Emission} {book : OrderBook}
    {handled : Handled} (found : books.lookup ticker = some book)
    (quiet : ∀ result, book.call request = .ok result → NoRejection result.emitted)
    (returned : toOrderBook books ticker notFound request = .ok handled) :
    NoRejection handled.emitted := by
  unfold toOrderBook at returned
  rw [found] at returned
  obtain ⟨result, called, done⟩ := bind_eq_ok returned
  cases done
  exact quiet result called

theorem stored_of_resting {common : Info.OrderCommon} {book : OrderBook}
    (found : books.lookup common.ticker = some book) (present : resting books common ≠ none) :
    ∃ limit, book.limitOrders.lookup common.orderId = some limit ∧
      resting books common = some limit.order := by
  rw [resting_eq common found] at present ⊢
  cases stored : book.limitOrders.lookup common.orderId with
  | none =>
      rw [stored] at present
      exact absurd rfl present
  | some limit => exact ⟨limit, rfl, rfl⟩

/-- A request that is not to be rejected is answered without a rejection. -/
theorem handle_noRejection {handled : Handled} (letIn : ¬Refused books request)
    (returned : handle books request = .ok handled) : NoRejection handled.emitted := by
  cases request with
  | add clock order =>
      obtain ⟨present, fresh⟩ := not_or.mp letIn
      obtain ⟨book, found⟩ := book_of_present present
      have absent : book.limitOrders.lookup order.orderId = none := by
        by_contra there
        have rests : resting books order.common ≠ none := by
          rw [resting_eq order.common found]
          exact fun none => there (Option.map_eq_none_iff.mp none)
        obtain ⟨old, restsOld⟩ := Option.ne_none_iff_exists'.mp rests
        exact fresh ⟨old, restsOld⟩
      apply toOrderBook_noRejection found _ returned
      intro result called
      obtain ⟨added, adds, same⟩ := map_eq_ok called
      rw [← same]
      exact OrderBook.addOrder_noRejection absent adds
  | cancel clock cancel =>
      obtain ⟨present, known⟩ := not_or.mp letIn
      obtain ⟨rests, notForeign⟩ := not_or.mp known
      obtain ⟨book, found⟩ := book_of_present present
      obtain ⟨limit, stored, same⟩ := stored_of_resting found rests
      have owner : limit.order.userId = cancel.userId := by
        by_contra wrong
        exact notForeign ⟨limit.order, same, wrong⟩
      apply toOrderBook_noRejection found _ returned
      intro result called
      exact (OrderBook.cancelOrder_noRejection stored owner called).1
  | modify clock changes =>
      obtain ⟨wanted, handed⟩ := not_or.mp letIn
      obtain ⟨present, known⟩ := not_or.mp handed
      obtain ⟨rests, noError⟩ := not_or.mp known
      obtain ⟨book, found⟩ := book_of_present present
      obtain ⟨limit, stored, same⟩ := stored_of_resting found rests
      have checks : ¬(limit.order.isBuySide ≠ changes.isBuySide ∨
          limit.order.userId ≠ changes.userId ∨
          changes.price = limit.order.price ∧
            changes.quantity = limit.order.currentQuantity) :=
        fun errors => noError ⟨limit.order, same, errors⟩
      obtain ⟨sameSide, others⟩ := not_or.mp checks
      obtain ⟨owner, different⟩ := not_or.mp others
      have notTrivial : OrderBook.modifyOrderTrivial changes limit.order = false := by
        rw [OrderBook.modifyOrderTrivial, ← Bool.not_eq_true, Bool.and_eq_true, beq_iff_eq,
          beq_iff_eq]
        exact different
      simp only [handle, modifyOrder, if_neg wanted] at returned
      apply toOrderBook_noRejection found _ returned
      intro result called
      exact OrderBook.modifyOrder_noRejection stored (not_not.mp sameSide) (not_not.mp owner)
        notTrivial called

theorem handle_rejected (refused : Refused books request) :
    ∃ handled, handle books request = .ok handled ∧
      RejectedWithoutEffect books request handled := by
  cases request with
  | add clock order => exact addOrder_rejected refused
  | modify clock changes => exact modifyOrder_rejected refused
  | cancel clock cancel => exact cancelOrder_rejected refused

/-- A request that names a well-formed book, or none, is answered. -/
theorem handle_returns
    (wellFormed : ∀ book, books.lookup request.common.ticker = some book → book.WellFormed) :
    ∃ handled, handle books request = .ok handled := by
  cases refused : refusedAtOnce request with
  | true =>
      obtain ⟨handled, handles, _books, _noTrade⟩ := handle_refused books refused
      exact ⟨handled, handles⟩
  | false =>
      obtain ⟨notFound, passes⟩ := handle_passed books refused
      rw [passes]
      cases found : books.lookup request.common.ticker with
      | none => exact ⟨_, toOrderBook_absent found⟩
      | some book =>
          obtain ⟨result, called⟩ := OrderBook.call_returns (wellFormed book found) request
          exact ⟨_, toOrderBook_found found called⟩

/-- In every state of the manager: a request that is to be rejected is rejected, for
reasons that hold and without effect; any other request is answered without a rejection,
and it is answered wherever its book is well-formed. -/
theorem rejected_exactly (books : OrderBooks) (request : Request) :
    (Refused books request →
      ∃ handled, handle books request = .ok handled ∧
        RejectedWithoutEffect books request handled) ∧
      (¬Refused books request → ∀ handled, handle books request = .ok handled →
        NoRejection handled.emitted) ∧
      ((∀ book, books.lookup request.common.ticker = some book → book.WellFormed) →
        ∃ handled, handle books request = .ok handled) :=
  ⟨handle_rejected, fun letIn _handled returned => handle_noRejection letIn returned,
    handle_returns⟩

end OrderBookManager
end Server
end SpotExchange
