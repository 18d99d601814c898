/-
What the client does with the responses of the server, while datagrams come in between. A
response and a datagram are each dealt with as a whole.
-/

import SpotExchange.Client.TrackedSums
import SpotExchange.Client.TradingClient
import SpotExchange.Server.Isolation

namespace SpotExchange
namespace Client

open Engine Machine Util Wire

/-- The order that a datagram names. -/
def FeedMessage.named : FeedMessage → OrderId
  | .add newOrder => newOrder.orderId
  | .modify modifyOrder => modifyOrder.orderId
  | .cancel cancelOrder => cancelOrder.orderId
  | .fill fillData => fillData.orderId

namespace TradingClient

/-! ### Orders that responses use -/

/-- The order whose data the client reads for a response. -/
def orderUsed (userID : UserId) : OrderEntryResponse → Option OrderId
  | .modifyOrderAck _ modifyOrder => some modifyOrder.orderCommon.orderId
  | .cancelOrderAck _ common => some common.orderId
  | .fill fill => if fill.statusCommon.userId = userID then some fill.statusCommon.orderId else none
  | .newOrderAck _ _ => none
  | .rejection _ => none

/-- What the datagrams leave of one order: an add announces it, a cancel or fills of all of its
quantity end it. -/
def follow (orderId : OrderId) (left : Option Int32) : FeedMessage → Option Int32
  | .add newOrder =>
      if newOrder.orderId = orderId then some (left.getD newOrder.quantity) else left
  | .modify modifyOrder =>
      if modifyOrder.orderId = orderId then left.map (fun _ => modifyOrder.quantity) else left
  | .cancel cancelOrder => if cancelOrder.orderId = orderId then none else left
  | .fill fill =>
      if fill.orderId = orderId then
        left.bind (fun quantity =>
          if quantity - fill.quantity ≤ 0 then none else some (quantity - fill.quantity))
      else left

def datagramsOf : List ClientEvent → List FeedMessage
  | [] => []
  | .datagram message :: rest => message :: datagramsOf rest
  | .response _ :: rest => datagramsOf rest

/-- What the datagrams among the events leave of an order, if they leave it live. -/
def leftOf (orderId : OrderId) (events : List ClientEvent) : Option Int32 :=
  (datagramsOf events).foldl (follow orderId) none

/-- Every response that uses an order comes while the datagrams leave it live. -/
def UsesLiveOrders (userID : UserId) (events : List ClientEvent) : Prop :=
  ∀ earlier response later orderId, events = earlier ++ .response response :: later →
    orderUsed userID response = some orderId → leftOf orderId earlier ≠ none

/-! ### Names that responses show -/

/-- The name in the line about a response. -/
def nameRead (userID : UserId) : OrderEntryResponse → Option UInt64
  | .newOrderAck _ newOrder => some newOrder.orderCommon.ticker
  | .modifyOrderAck _ modifyOrder => some modifyOrder.orderCommon.ticker
  | .cancelOrderAck _ common => some common.ticker
  | .fill fill =>
      if fill.statusCommon.userId = userID then some fill.statusCommon.ticker else none
  | .rejection _ => none

/-- None of the eight bytes of the name ends it. -/
def overreads (userID : UserId) : ClientEvent → Bool
  | .datagram _ => false
  | .response response =>
      (nameRead userID response).any (fun bytes => (convertEightBytesToString bytes).isNone)

/-- A response is written down, and nothing else. -/
structure Answered (client : TradingClient) (response : OrderEntryResponse)
    (next : TradingClient) : Prop where
  feedhandler : next.feedhandler = client.feedhandler
  subscription : next.subscription = client.subscription
  userID : next.userID = client.userID
  overread : next.overread = (client.overread || overreads client.userID (.response response))

theorem answered_pushInfo {client : TradingClient} {response : OrderEntryResponse}
    {line : InfoLine} (names : line.any Piece.overread = overreads client.userID
      (.response response)) : Answered client response (client.pushInfo line) where
  feedhandler := rfl
  subscription := rfl
  userID := rfl
  overread := congrArg (client.overread || ·) names

/-- A response returns where the client has the order that it uses. -/
theorem interpretResponseType_known {client : TradingClient} {response : OrderEntryResponse}
    (known : ∀ orderId, orderUsed client.userID response = some orderId →
      client.feedhandler.getOrder orderId ≠ none) :
    ∃ next, client.interpretResponseType response = .ok next ∧ Answered client response next := by
  cases response with
  | newOrderAck timestamp newOrder =>
      refine ⟨_, rfl, answered_pushInfo ?_⟩
      simp [timestampStr, sideText, Piece.overread, overreads, nameRead]
  | modifyOrderAck timestamp modifyOrder =>
      obtain ⟨order, found⟩ := Option.ne_none_iff_exists'.mp (known _ rfl)
      simp only [interpretResponseType, interpretModifyOrderAck, found]
      refine ⟨_, rfl, answered_pushInfo ?_⟩
      simp [timestampStr, sideText, Piece.overread, overreads, nameRead]
  | cancelOrderAck timestamp common =>
      obtain ⟨order, found⟩ := Option.ne_none_iff_exists'.mp (known _ rfl)
      simp only [interpretResponseType, interpretCancelOrderAck, found]
      refine ⟨_, rfl, answered_pushInfo ?_⟩
      simp [timestampStr, sideText, Piece.overread, overreads, nameRead]
  | fill fill =>
      simp only [interpretResponseType, interpretFill]
      by_cases own : fill.statusCommon.userId = client.userID
      · obtain ⟨order, found⟩ := Option.ne_none_iff_exists'.mp (known _ (if_pos own))
        rw [if_pos own, found]
        refine ⟨_, rfl, answered_pushInfo ?_⟩
        simp [timestampStr, sideText, Piece.overread, overreads, nameRead, own]
      · rw [if_neg own]
        refine ⟨client, rfl, ?_⟩
        exact
          { feedhandler := rfl
            subscription := rfl
            userID := rfl
            overread := by
              rw [overreads, nameRead, if_neg own, Option.any_none, Bool.or_false] }
  | rejection rejection =>
      refine ⟨_, rfl, answered_pushInfo ?_⟩
      simp [Piece.overread, overreads, nameRead]

/-- Where the client does not have it, the null pointer is dereferenced. -/
theorem interpretResponseType_unknown {client : TradingClient} {response : OrderEntryResponse}
    {orderId : OrderId} (used : orderUsed client.userID response = some orderId)
    (unknown : client.feedhandler.getOrder orderId = none) :
    client.interpretResponseType response = .error (.nullOrder orderId) := by
  cases response with
  | newOrderAck timestamp newOrder => cases used
  | modifyOrderAck timestamp modifyOrder =>
      cases used
      simp only [interpretResponseType, interpretModifyOrderAck, unknown]
      rfl
  | cancelOrderAck timestamp common =>
      cases used
      simp only [interpretResponseType, interpretCancelOrderAck, unknown]
      rfl
  | fill fill =>
      simp only [orderUsed] at used
      split at used
      · rename_i own
        cases used
        simp only [interpretResponseType, interpretFill, if_pos own, unknown]
        rfl
      · cases used
  | rejection rejection => cases used

/-! ### What the handler tracks -/

theorem follow_elsewhere {orderId : OrderId} {message : FeedMessage} (left : Option Int32)
    (elsewhere : orderId ≠ message.named) : follow orderId left message = left := by
  cases message with
  | add newOrder => exact if_neg (Ne.symm elsewhere)
  | modify modifyOrder => exact if_neg (Ne.symm elsewhere)
  | cancel cancelOrder => exact if_neg (Ne.symm elsewhere)
  | fill fill => exact if_neg (Ne.symm elsewhere)

/-- A datagram leaves every order alone but the one it names. -/
theorem does_elsewhere {handler next : ClientFeedHandler} {message : FeedMessage}
    {orderId : OrderId} (does : handler.Does message next) (elsewhere : orderId ≠ message.named) :
    next.getOrder orderId = handler.getOrder orderId := by
  unfold ClientFeedHandler.getOrder
  cases does with
  | adds newOrder next grows rewrites =>
      rw [rewrites.orders]
      split
      · rfl
      · exact AList.lookup_insert_ne elsewhere
  | modifiesUnknown modifyOrder unknown => rfl
  | increases modifyOrder data next found more grows rewrites =>
      rw [rewrites.orders]
      exact AList.lookup_insert_ne elsewhere
  | decreases modifyOrder data next found noMore shrinks rewrites =>
      rw [rewrites.orders]
      exact AList.lookup_insert_ne elsewhere
  | cancelsUnknown cancelOrder unknown => rfl
  | cancels cancelOrder data next found shrinks rewrites =>
      rw [rewrites.orders]
      exact AList.lookup_erase_ne elsewhere
  | fillsUnknown fill unknown => rfl
  | fills fill data next found shrinks rewrites =>
      rw [rewrites.orders]
      split
      · exact AList.lookup_erase_ne elsewhere
      · exact AList.lookup_insert_ne elsewhere

theorem follows_named {handler next : ClientFeedHandler} {message : FeedMessage}
    (does : handler.Does message next) :
    (next.getOrder message.named).map AddOrderData.quantity =
      follow message.named ((handler.getOrder message.named).map AddOrderData.quantity)
        message := by
  cases does with
  | adds newOrder next grows rewrites =>
      simp only [ClientFeedHandler.getOrder, FeedMessage.named, follow, if_pos, rewrites.orders]
      cases known : handler.orders.lookup newOrder.orderId with
      | none =>
          rw [Option.isSome_none, if_neg Bool.false_ne_true, AList.lookup_insert]
          rfl
      | some data =>
          rw [Option.isSome_some, if_pos rfl, known]
          rfl
  | modifiesUnknown modifyOrder unknown =>
      simp only [ClientFeedHandler.getOrder, FeedMessage.named, follow, if_pos, unknown]
      rfl
  | increases modifyOrder data next found more grows rewrites =>
      simp only [ClientFeedHandler.getOrder, FeedMessage.named, follow, if_pos, rewrites.orders]
      rw [AList.lookup_insert, found]
      rfl
  | decreases modifyOrder data next found noMore shrinks rewrites =>
      simp only [ClientFeedHandler.getOrder, FeedMessage.named, follow, if_pos, rewrites.orders]
      rw [AList.lookup_insert, found]
      rfl
  | cancelsUnknown cancelOrder unknown =>
      simp only [ClientFeedHandler.getOrder, FeedMessage.named, follow, if_pos, unknown]
      rfl
  | cancels cancelOrder data next found shrinks rewrites =>
      simp only [ClientFeedHandler.getOrder, FeedMessage.named, follow, if_pos, rewrites.orders]
      rw [AList.lookup_erase]
      rfl
  | fillsUnknown fill unknown =>
      simp only [ClientFeedHandler.getOrder, FeedMessage.named, follow, if_pos, unknown]
      rfl
  | fills fill data next found shrinks rewrites =>
      simp only [ClientFeedHandler.getOrder, FeedMessage.named, follow, if_pos, rewrites.orders]
      rw [found, Option.map_some, Option.bind_some]
      split
      · rw [AList.lookup_erase]
        rfl
      · rw [AList.lookup_insert]
        rfl

theorem follows_does {handler next : ClientFeedHandler} {message : FeedMessage}
    (does : handler.Does message next) (orderId : OrderId) :
    (next.getOrder orderId).map AddOrderData.quantity =
      follow orderId ((handler.getOrder orderId).map AddOrderData.quantity) message := by
  by_cases same : orderId = message.named
  · subst same
    exact follows_named does
  · rw [does_elsewhere does same, follow_elsewhere _ same]

/-- The handler has the orders that the datagrams have left live, and the client has subscribed
to nothing. -/
structure Follows (userID : UserId) (heard : List ClientEvent) (client : TradingClient) : Prop where
  user : client.userID = userID
  unsubscribed : client.subscription = none
  indexed : client.feedhandler.Indexed
  left : ∀ orderId, (client.feedhandler.getOrder orderId).map AddOrderData.quantity =
    leftOf orderId heard
  overread : client.overread = heard.any (overreads userID)

section Follows

variable {surroundings : Surroundings} {userID : UserId} {heard : List ClientEvent}
  {client next : TradingClient}

theorem start_follows (userID : UserId) : Follows userID [] (start userID) where
  user := rfl
  unsubscribed := rfl
  indexed := ClientFeedHandler.fresh_indexed
  left := fun _ => rfl
  overread := rfl

theorem datagramsOf_append (earlier later : List ClientEvent) :
    datagramsOf (earlier ++ later) = datagramsOf earlier ++ datagramsOf later := by
  induction earlier with
  | nil => rfl
  | cons event rest ih =>
      cases event with
      | datagram message => exact congrArg (message :: ·) ih
      | response response => exact ih

/-- Without a subscription, nothing is reprinted. -/
theorem readMarketData_unsubscribed (surroundings : Surroundings)
    (unsubscribed : client.subscription = none) {message : FeedMessage}
    {handler : ClientFeedHandler} (returned : client.feedhandler.process message = .ok handler) :
    client.readMarketData surroundings message = .ok { client with feedhandler := handler } := by
  have processed : client.processMarketData surroundings.moves message =
      .ok ({ client with feedhandler := handler }, false) := by
    rw [processMarketData_eq, returned]
    simp only [afterData, unsubscribed]
  rw [readMarketData, processed]
  rfl

theorem Follows.datagram (follows : Follows userID heard client) (message : FeedMessage) :
    ∃ next, client.step surroundings (.datagram message) = .ok next ∧
      Follows userID (heard ++ [.datagram message]) next := by
  obtain ⟨after, returned, does⟩ := ClientFeedHandler.process_does follows.indexed message
  refine ⟨{ client with feedhandler := after },
    readMarketData_unsubscribed surroundings follows.unsubscribed returned, ?_⟩
  exact
    { user := follows.user
      unsubscribed := follows.unsubscribed
      indexed := does.indexed follows.indexed
      left := by
        intro orderId
        rw [leftOf, datagramsOf_append, List.foldl_append, ← leftOf, ← follows.left orderId]
        exact follows_does does orderId
      overread := by
        rw [List.any_append, ← follows.overread]
        exact (Bool.or_false client.overread).symm }

theorem Follows.has_order (follows : Follows userID heard client) (orderId : OrderId) :
    client.feedhandler.getOrder orderId = none ↔ leftOf orderId heard = none := by
  rw [← follows.left orderId]
  exact Option.map_eq_none_iff.symm

theorem Follows.response (follows : Follows userID heard client) {response : OrderEntryResponse}
    (returned : client.step surroundings (.response response) = .ok next) :
    Follows userID (heard ++ [.response response]) next := by
  have known : ∀ orderId, orderUsed client.userID response = some orderId →
      client.feedhandler.getOrder orderId ≠ none := by
    intro orderId used unknown
    have fails := interpretResponseType_unknown used unknown
    change client.interpretResponseType response = .ok next at returned
    rw [fails] at returned
    cases returned
  obtain ⟨after, interprets, answered⟩ := interpretResponseType_known known
  have same : after = next := Except.ok.inj (interprets.symm.trans returned)
  subst same
  exact
    { user := answered.userID.trans follows.user
      unsubscribed := answered.subscription.trans follows.unsubscribed
      indexed := answered.feedhandler ▸ follows.indexed
      left := by
        intro orderId
        rw [answered.feedhandler, leftOf, datagramsOf_append, List.foldl_append, ← leftOf]
        exact follows.left orderId
      overread := by
        rw [answered.overread, follows.overread, follows.user, List.any_append, List.any_cons,
          List.any_nil, Bool.or_false] }

/-- A run that returns has followed the datagrams. -/
theorem Follows.run {events : List ClientEvent} {finish : TradingClient}
    (follows : Follows userID heard client)
    (reached : Machine.run (step surroundings) client events = .ok finish) :
    Follows userID (heard ++ events) finish := by
  induction events generalizing client heard with
  | nil =>
      cases reached
      rw [List.append_nil]
      exact follows
  | cons event rest ih =>
      unfold Machine.run at reached
      cases taken : client.step surroundings event with
      | error problem =>
          rw [taken] at reached
          cases reached
      | ok next =>
          rw [taken] at reached
          have followsNext : Follows userID (heard ++ [event]) next := by
            cases event with
            | datagram message =>
                obtain ⟨after, returned, followsAfter⟩ :=
                  @Follows.datagram surroundings _ _ _ follows message
                rw [taken] at returned
                cases returned
                exact followsAfter
            | response response => exact follows.response taken
          have result := ih followsNext reached
          rw [List.append_assoc] at result
          exact result

end Follows

section Runs

variable {surroundings : Surroundings} {userID : UserId} {events : List ClientEvent}

theorem start_run {finish : TradingClient}
    (reached : run (step surroundings) (start userID) events = .ok finish) :
    Follows userID events finish :=
  (start_follows userID).run reached

/-- A run fails at a response only, and at a null pointer. -/
theorem run_fails {problem : ClientFault}
    (failed : run (step surroundings) (start userID) events = .error problem) :
    ∃ earlier response later orderId, events = earlier ++ .response response :: later ∧
      orderUsed userID response = some orderId ∧ leftOf orderId earlier = none ∧
      problem = .nullOrder orderId := by
  obtain ⟨earlier, event, later, client, split, reached, fails⟩ := run_eq_error failed
  have follows := start_run reached
  cases event with
  | datagram message =>
      obtain ⟨next, returned, _followsNext⟩ :=
        @Follows.datagram surroundings _ _ _ follows message
      rw [fails] at returned
      cases returned
  | response response =>
      by_cases known : ∀ orderId, orderUsed client.userID response = some orderId →
          client.feedhandler.getOrder orderId ≠ none
      · obtain ⟨next, returned, _answered⟩ := interpretResponseType_known known
        change client.interpretResponseType response = .error problem at fails
        rw [fails] at returned
        cases returned
      · obtain ⟨orderId, unknown⟩ := not_forall.mp known
        obtain ⟨used, absent⟩ := Classical.not_imp.mp unknown
        have none := not_not.mp absent
        have null := interpretResponseType_unknown used none
        change client.interpretResponseType response = .error problem at fails
        rw [fails] at null
        rw [follows.user] at used
        exact ⟨earlier, response, later, orderId, split, used,
          (follows.has_order orderId).mp none, Except.error.inj null⟩

end Runs

/-- For every interleaving of datagrams and responses, the client dereferences no null pointer
exactly where every response that uses an order comes while the order is live. -/
theorem responses_use_known_orders_iff (surroundings : Surroundings) (userID : UserId)
    (events : List ClientEvent) :
    (∀ orderId, run (step surroundings) (start userID) events ≠ .error (.nullOrder orderId)) ↔
      UsesLiveOrders userID events := by
  constructor
  · intro noNull earlier response later orderId split used dead
    cases reached : run (step surroundings) (start userID) earlier with
    | error problem =>
        obtain ⟨_, _, _, other, _, _, _, isNull⟩ := run_fails reached
        apply noNull other
        rw [split, run_append_error reached, isNull]
    | ok client =>
        have follows := start_run reached
        rw [← follows.user] at used
        have fails := interpretResponseType_unknown used
          ((follows.has_order orderId).mpr dead)
        apply noNull orderId
        rw [split, run_append reached]
        simp only [run, step, fails]
  · intro live orderId failed
    obtain ⟨earlier, response, later, other, split, used, dead, _isNull⟩ := run_fails failed
    exact live earlier response later other split used dead

/-! ### Responses that the server sends -/

/-- The message that a datagram of the data platform is decoded to. -/
def decoded : MarketDataResponse → Option FeedMessage
  | .add data =>
      some (.add
        { timestamp := data.timestamp.toInt64
          orderId := data.orderId
          ticker := data.ticker
          price := data.price
          quantity := data.quantity.toInt32
          isBuySide := data.isBuySide.toUInt8
          bookIndex := 0 })
  | .mod data =>
      some (.modify
        { timestamp := data.timestamp.toInt64
          orderId := data.orderId
          quantity := data.quantity.toInt32 })
  | .cancel data =>
      some (.cancel
        { timestamp := data.timestamp.toInt64
          orderId := data.orderId })
  | .fill data =>
      some (.fill
        { timestamp := data.timestamp
          orderId := data.statusCommon.orderId
          ticker := data.statusCommon.ticker
          fillId := data.fillId
          quantity := data.fillQuantity.toInt32 })
  | .notification _ => none
  | .notSet => none

/-- Decoded messages do what the messages do that were published. -/
theorem receive_eq_process (handler : ClientFeedHandler) (message : MarketDataResponse) :
    handler.receive message = (decoded message).elim (.ok handler) handler.process := by
  cases message <;> rfl

/-- A client on a connection hears all the market data first, and then its responses. -/
def heardOn (connection : ConnectionRef) (emitted : List Emission) : List ClientEvent :=
  ((marketDataOf emitted).filterMap decoded).map ClientEvent.datagram ++
    emitted.filterMap (fun emission =>
      match emission with
      | .toClient other response =>
          if other = connection then some (.response response) else none
      | .marketData _ => none)

/-- One user offers, and another buys all that it wants at once. -/
def crossing : List Server.Event :=
  [.verifyID (fun _ => 0) 1 (Server.orderOn 7 1 false 5),
    .verifyID (fun _ => 0) 2 (Server.orderOn 7 2 true 3)]

/-- The order of the buyer is filled without ever being announced. -/
theorem fill_of_unannounced_order :
    ∃ session, run Server.Session.step (Server.Session.start [7]) crossing = .ok session ∧
      run (step eightyColumns) (start 2) (heardOn 2 session.emitted) =
        .error (.nullOrder 3) := by
  have evaluated : (run Server.Session.step (Server.Session.start [7]) crossing).toOption.map
      (fun session =>
        match run (step eightyColumns) (start 2) (heardOn 2 session.emitted) with
        | .ok _ => none
        | .error problem => some problem) = some (some (.nullOrder 3)) := by decide +kernel
  obtain ⟨session, reached, seen⟩ := returns_of_view evaluated
  refine ⟨session, reached, ?_⟩
  cases client : run (step eightyColumns) (start 2) (heardOn 2 session.emitted) with
  | ok finish =>
      rw [client] at seen
      cases seen
  | error problem =>
      rw [client] at seen
      cases seen
      rfl

end TradingClient
end Client
end SpotExchange
