/-
What is on the way comes to rest. Where nothing new is asked of the server, each step of the
dispatcher, the data platform and the client brings the market data nearer to the client, and
in the end it shows the books.
-/

import SpotExchange.System.Pipeline

namespace SpotExchange
namespace System

open Client DataPlatform Engine Machine Server Wire

universe u

namespace Pipeline

variable {Endpoint : Type u} [DecidableEq Endpoint]

/-! ### Steps on the way -/

/-- The message is one with which the dispatcher ends the server. -/
def Ends (pipeline : Pipeline Endpoint) : Prop :=
  ∃ message rest, pipeline.unhanded = message :: rest ∧
    MarketDataDispatcher.endsBenchmark message = true

/-- Every event but one at the server. -/
def passesOn : PipelineEvent → Bool
  | .serve _ => false
  | .hand => true
  | .complete _ _ => true
  | .read => true
  | .carryOut _ => true
  | .deliver _ => true

/-- A calm step of the others. -/
def quietly (pipeline : Pipeline Endpoint) (event : PipelineEvent) : Bool :=
  passesOn event && pipeline.calm event

/-- A bound on the steps that are left until nothing is on the way. A message that is read is
sent to every subscriber, and each of these sends may reach the client. -/
def ongoing (pipeline : Pipeline Endpoint) : Nat :=
  (2 * pipeline.platform.subscribers.length + 3) * pipeline.unhanded.length +
    pipeline.dispatcher.queue.length +
    (2 * pipeline.platform.subscribers.length + 1) *
      (pipeline.dispatcher.enqueued.length - pipeline.taken) +
    2 * pipeline.platform.pending.length +
    ((pipeline.platform.sentTo pipeline.endpoint).length - pipeline.received)

section Onwards

variable {pipeline next : Pipeline Endpoint}

/-- What is handed over, completed, read, carried out or delivered keeps the session. -/
theorem step_session {event : PipelineEvent} (inside : passesOn event = true)
    (taken : pipeline.step event = .ok next) : next.session = pipeline.session := by
  cases event with
  | serve event => cases inside
  | hand =>
      simp only [Pipeline.step] at taken
      split at taken
      · cases taken
      · unfold dispatch at taken
        split at taken
        · cases taken
        · cases taken
          rfl
  | complete position success =>
      simp only [Pipeline.step] at taken
      unfold dispatch at taken
      split at taken
      · cases taken
      · cases taken
        rfl
  | read =>
      simp only [Pipeline.step] at taken
      split at taken
      · cases taken
      · cases taken
        rfl
  | carryOut position =>
      simp only [Pipeline.step] at taken
      split at taken
      · cases taken
      · cases taken
        rfl
  | deliver number =>
      change pipeline.deliver number = .ok next at taken
      unfold Pipeline.deliver at taken
      split at taken
      · cases taken
      · split at taken
        · cases taken
        · cases taken
        · cases taken
          rfl

theorem hands {message : MarketDataResponse} {rest : List MarketDataResponse}
    (told : pipeline.unhanded = message :: rest)
    (stays : MarketDataDispatcher.endsBenchmark message = false) :
    ∃ next, pipeline.step .hand = .ok next := by
  have taken : ∃ after, MarketDataDispatcher.step pipeline.dispatcher (.enqueue message) =
      .ok after := by
    simp only [MarketDataDispatcher.step, MarketDataDispatcher.writeMarketData,
      Writer.enqueue, stays, Bool.false_eq_true, if_false]
    split
    · exact ⟨_, rfl⟩
    · exact ⟨_, rfl⟩
  obtain ⟨after, stepped⟩ := taken
  simp only [Pipeline.step, told, dispatch, stepped]
  exact ⟨_, rfl⟩

theorem carriesOut (sends : pipeline.platform.pending ≠ []) :
    ∃ next, pipeline.step (.carryOut 0) = .ok next := by
  obtain ⟨send, rest, pending⟩ := List.exists_cons_of_ne_nil sends
  simp only [Pipeline.step, Platform.carryOut, pending, List.getElem?_cons_zero]
  exact ⟨_, rfl⟩

/-- While no send is pending a message can be read without harm. -/
theorem reads (unread : pipeline.taken < pipeline.dispatcher.written.length)
    (idle : pipeline.platform.pending = []) :
    pipeline.calm .read = true ∧ ∃ next, pipeline.step .read = .ok next := by
  have found := List.getElem?_eq_getElem unread
  constructor
  · simp only [calm, found, Platform.undisturbing, idle, List.isEmpty_nil, Bool.true_or]
  · simp only [Pipeline.step, found]
    exact ⟨_, rfl⟩

namespace Conveys

/-- Each step on the way leaves fewer of them. -/
theorem step_ongoing (conveys : Conveys pipeline) {event : PipelineEvent}
    (allowed : pipeline.calm event = true) (inside : passesOn event = true)
    (taken : pipeline.step event = .ok next) : ongoing next < ongoing pipeline := by
  have within := conveys.within
  have written := conveys.flowing.ordered.in_order.length_le
  cases event with
  | serve event => cases inside
  | hand =>
      simp only [Pipeline.step] at taken
      split at taken
      · cases taken
      · rename_i message rest told
        unfold dispatch at taken
        split at taken
        · cases taken
        · rename_i after stepped
          cases taken
          rw [MarketDataDispatcher.step_eq] at stepped
          have queue := Writer.step_queue stepped
          have enqueued := congrArg List.length (Writer.step_extends stepped).2
          simp only [WriterEvent.messages, List.length_append, List.length_singleton] at enqueued
          have later : after.enqueued.length - pipeline.taken =
              pipeline.dispatcher.enqueued.length - pipeline.taken + 1 := by omega
          simp only [ongoing, told, List.length_cons, later, queue, Nat.mul_add, Nat.mul_one]
          omega
  | complete position success =>
      simp only [Pipeline.step] at taken
      unfold dispatch at taken
      split at taken
      · cases taken
      · rename_i after stepped
        cases taken
        rw [MarketDataDispatcher.step_eq] at stepped
        have queue := Writer.step_queue stepped
        have enqueued := (Writer.step_extends stepped).2
        simp only [WriterEvent.messages, List.append_nil] at enqueued
        simp only [ongoing, enqueued]
        simp only at queue
        omega
  | read =>
      simp only [Pipeline.step] at taken
      split at taken
      · cases taken
      · rename_i message found
        cases taken
        have below := (List.getElem?_eq_some_iff.mp found).1
        have fewer : pipeline.dispatcher.enqueued.length - pipeline.taken =
            pipeline.dispatcher.enqueued.length - (pipeline.taken + 1) + 1 := by omega
        simp only [ongoing, Platform.read, Platform.sentTo, List.length_append, List.length_map,
          fewer, Nat.mul_add, Nat.mul_one]
        omega
  | carryOut position =>
      simp only [Pipeline.step] at taken
      split at taken
      · cases taken
      · rename_i platform carried
        cases taken
        obtain ⟨subscribers, _sent⟩ := Platform.carryOut_sends carried pipeline.endpoint
        obtain ⟨fewer, most⟩ := Platform.carryOut_counts carried pipeline.endpoint
        simp only [ongoing, subscribers]
        omega
  | deliver number =>
      have isNext : number = pipeline.received := beq_iff_eq.mp allowed
      change pipeline.deliver number = .ok next at taken
      unfold Pipeline.deliver at taken
      split at taken
      · cases taken
      · rename_i bytes found
        have below := (List.getElem?_eq_some_iff.mp found).1
        split at taken
        · cases taken
        · cases taken
        · cases taken
          simp only [ongoing]
          omega

/-- A queue that is not empty has a write that can complete. -/
theorem completes (conveys : Conveys pipeline) (waits : pipeline.dispatcher.queue ≠ []) :
    ∃ next, pipeline.step (.complete 0 true) = .ok next := by
  have taken : ∃ after, MarketDataDispatcher.step pipeline.dispatcher (.complete 0 true) =
      .ok after := by
    cases conveys.flowing with
    | waiting _ drained _ _ => exact absurd drained waits
    | writing first others _ queued pending _ =>
        have below : 0 < pipeline.dispatcher.outstanding.length := by
          rw [pending]
          exact Nat.one_pos
        simp only [MarketDataDispatcher.step, if_pos below,
          MarketDataDispatcher.writeToMDPlatform, Writer.complete, queued]
        cases others with
        | nil => exact ⟨_, rfl⟩
        | cons second further => exact ⟨_, rfl⟩
  obtain ⟨after, stepped⟩ := taken
  simp only [Pipeline.step, dispatch, stepped]
  exact ⟨_, rfl⟩

theorem delivers (conveys : Conveys pipeline)
    (waits : pipeline.received < (pipeline.platform.sentTo pipeline.endpoint).length) :
    ∃ next, pipeline.step (.deliver pipeline.received) = .ok next := by
  have found := List.getElem?_eq_getElem waits
  obtain ⟨message, frame, prior, -, framed, isOwn⟩ := conveys.sent_message found
  obtain ⟨handler, received, -⟩ := receive_total conveys.indexed message
  simp only [Pipeline.step, Pipeline.deliver, found]
  rw [isOwn, readMarketData_arrived framed, received]
  exact ⟨_, rfl⟩

/-- While something is on the way, and the server does not end, a calm step passes it on. -/
theorem onwards (conveys : Conveys pipeline) :
    Settled pipeline ∨ Ends pipeline ∨
      ∃ event, pipeline.quietly event = true ∧ ∃ next, pipeline.step event = .ok next := by
  cases told : pipeline.unhanded with
  | cons message rest =>
      cases ends : MarketDataDispatcher.endsBenchmark message with
      | true => exact Or.inr (Or.inl ⟨message, rest, told, ends⟩)
      | false => exact Or.inr (Or.inr ⟨.hand, rfl, hands told ends⟩)
  | nil =>
      by_cases queued : pipeline.dispatcher.queue = []
      · by_cases idle : pipeline.platform.pending = []
        · rcases Nat.lt_or_ge pipeline.taken pipeline.dispatcher.written.length with unread | read
          · obtain ⟨allowed, taken⟩ := reads unread idle
            exact Or.inr (Or.inr ⟨.read, allowed, taken⟩)
          · rcases Nat.lt_or_ge pipeline.received
              (pipeline.platform.sentTo pipeline.endpoint).length with waits | done
            · exact Or.inr (Or.inr ⟨.deliver pipeline.received, beq_self_eq_true _,
                conveys.delivers waits⟩)
            · left
              exact
                { handed := told
                  written := queued
                  taken := Nat.le_antisymm conveys.within read
                  sent := idle
                  delivered := Nat.le_antisymm conveys.behind done }
        · exact Or.inr (Or.inr ⟨.carryOut 0, rfl, carriesOut idle⟩)
      · exact Or.inr (Or.inr ⟨.complete 0 true, rfl, conveys.completes queued⟩)

end Conveys

end Onwards

/-! ### Every run comes to rest -/

/-- Where nothing new is asked of the server, so many steps are left at most, and they lead to
a state in which nothing is on the way, unless the server ends. -/
structure Settles (pipeline : Pipeline Endpoint) : Prop where
  bounded : ∀ more finish,
    Guarded step (fun pipeline event => pipeline.quietly event = true) pipeline more →
      run step pipeline more = .ok finish → more.length ≤ ongoing pipeline
  onwards : Settled pipeline ∨ Ends pipeline ∨
    ∃ event, pipeline.quietly event = true ∧ ∃ next, pipeline.step event = .ok next
  drains : ∃ more finish,
    Guarded step (fun pipeline event => pipeline.quietly event = true) pipeline more ∧
      run step pipeline more = .ok finish ∧ finish.session = pipeline.session ∧
        (Settled finish ∨ Ends finish)

theorem Conveys.settles {pipeline : Pipeline Endpoint} (conveys : Conveys pipeline) :
    Settles pipeline := by
  have preserved : ∀ (state : Pipeline Endpoint) event next,
      Conveys state ∧ state.session = pipeline.session → state.quietly event = true →
        state.step event = .ok next → Conveys next ∧ next.session = pipeline.session := by
    intro state event next good allowed taken
    obtain ⟨inside, calmly⟩ := Bool.and_eq_true_iff.mp allowed
    exact ⟨good.1.step calmly taken, (step_session inside taken).trans good.2⟩
  have lowers : ∀ (state : Pipeline Endpoint) event next,
      Conveys state ∧ state.session = pipeline.session → state.quietly event = true →
        state.step event = .ok next → ongoing next < ongoing state := by
    intro state event next good allowed taken
    obtain ⟨inside, calmly⟩ := Bool.and_eq_true_iff.mp allowed
    exact good.1.step_ongoing calmly inside taken
  refine ⟨?_, conveys.onwards, ?_⟩
  · intro more finish guarded reached
    have bound := guarded.length_le preserved lowers ⟨conveys, rfl⟩ reached
    omega
  · have onwards : ∀ state : Pipeline Endpoint,
        Conveys state ∧ state.session = pipeline.session →
          (Settled state ∨ Ends state) ∨
            ∃ event, state.quietly event = true ∧ ∃ next, state.step event = .ok next :=
      fun state good => or_assoc.mpr good.1.onwards
    obtain ⟨more, finish, guarded, reached, good, ended⟩ :=
      exists_guarded_rest preserved lowers onwards ⟨conveys, rfl⟩
    exact ⟨more, finish, guarded, reached, good.2, ended⟩

/-- In every state of every calm run what is on the way reaches the client in a bounded number
of steps. -/
theorem calm_runs_settle (tickers : List Ticker) (tempBuffer : TempBuffer)
    {subscribers : List Endpoint} (distinct : subscribers.Nodup) {endpoint : Endpoint}
    (subscribed : endpoint ∈ subscribers) (buffer : ReceiveBuffer) (events : List PipelineEvent)
    (guarded : Guarded step (fun pipeline event => pipeline.calm event = true)
      (start tickers tempBuffer subscribers distinct endpoint buffer) events) :
    Always step Settles (start tickers tempBuffer subscribers distinct endpoint buffer) events := by
  have sound : ∀ pipeline : Pipeline Endpoint, Conveys pipeline → Settles pipeline :=
    fun _ => Conveys.settles
  have preserved : ∀ (pipeline : Pipeline Endpoint) event next, Conveys pipeline →
      pipeline.calm event = true → pipeline.step event = .ok next → Conveys next :=
    fun _ _ _ conveys allowed taken => conveys.step allowed taken
  exact Guarded.always sound preserved
    (start_conveys tickers tempBuffer distinct subscribed buffer) guarded

theorem tradingDay_settles : Always step Settles twoListeners tradingDay :=
  calm_runs_settle [7, 8] (TempBuffer.filled 0) _ (by decide) emptyBuffer tradingDay
    (by decide +kernel)

/-! ### What the client shows in the end -/

/-- The requests at the server. -/
def served (events : List PipelineEvent) : List Server.Event :=
  events.filterMap (fun event =>
    match event with
    | .serve request => some request
    | _ => none)

/-- A calm step that raises no order where it rests. -/
def modestly (pipeline : Pipeline Endpoint) (event : PipelineEvent) : Bool :=
  pipeline.calm event &&
    match event with
    | .serve request => modestEvent pipeline.session request
    | _ => true

section Served

variable {pipeline finish : Pipeline Endpoint} {events : List PipelineEvent}

theorem serve_session {event : Server.Event} {next : Pipeline Endpoint}
    (taken : pipeline.step (.serve event) = .ok next) :
    pipeline.session.step event = .ok next.session := by
  change pipeline.serve event = .ok next at taken
  unfold serve at taken
  split at taken
  · cases taken
  · rename_i session stepped
    cases taken
    exact stepped

/-- The server goes through the requests as if it were alone. -/
theorem served_run (guarded : Guarded step (fun pipeline event => pipeline.modestly event = true)
      pipeline events) (reached : run step pipeline events = .ok finish) :
    run Session.step pipeline.session (served events) = .ok finish.session ∧
      Guarded Session.step (fun session event => modestEvent session event = true)
        pipeline.session (served events) ∧
      Guarded step (fun pipeline event => pipeline.calm event = true) pipeline events := by
  induction events generalizing pipeline with
  | nil =>
      cases reached
      exact ⟨rfl, trivial, trivial⟩
  | cons event rest ih =>
      unfold run at reached
      cases taken : pipeline.step event with
      | error problem =>
          rw [taken] at reached
          cases reached
      | ok next =>
          rw [taken] at reached
          obtain ⟨reachedRest, modestRest, calmRest⟩ := ih (guarded.2 next taken) reached
          obtain ⟨calmly, modest⟩ := Bool.and_eq_true_iff.mp guarded.1
          have calmAll : Guarded step (fun pipeline event => pipeline.calm event = true) pipeline
              (event :: rest) := by
            refine ⟨calmly, ?_⟩
            intro other takenAgain
            rw [← Except.ok.inj (taken.symm.trans takenAgain)]
            exact calmRest
          by_cases inside : passesOn event = true
          · have same := step_session inside taken
            have unserved : served (event :: rest) = served rest := by
              cases event with
              | serve request => cases inside
              | _ => rfl
            rw [unserved, ← same]
            exact ⟨reachedRest, modestRest, calmAll⟩
          · cases event with
            | serve request =>
                have stepped := serve_session taken
                refine ⟨?_, ⟨modest, ?_⟩, calmAll⟩
                · change run Session.step pipeline.session (request :: served rest) = _
                  simp only [run, stepped]
                  exact reachedRest
                · intro session steppedAgain
                  rw [← Except.ok.inj (stepped.symm.trans steppedAgain)]
                  exact modestRest
            | _ => exact absurd rfl inside

end Served

/-- Once nothing is on the way, the client knows every order that rests in any book of the
server, and shows at least what rests; and exactly that, if nothing has traded. -/
theorem settled_clients_show_the_books (tickers : List Ticker) (tempBuffer : TempBuffer)
    {subscribers : List Endpoint} (distinct : subscribers.Nodup) {endpoint : Endpoint}
    (subscribed : endpoint ∈ subscribers) (buffer : ReceiveBuffer) (events : List PipelineEvent)
    (finish : Pipeline Endpoint) (fewTickers : tickers.toFinset.card ≤ 65536)
    (fewOrders : Exchange.newOrders (served events) ≤ 4294967296)
    (guarded : Guarded step (fun pipeline event => pipeline.modestly event = true)
      (start tickers tempBuffer subscribers distinct endpoint buffer) events)
    (reached : run step (start tickers tempBuffer subscribers distinct endpoint buffer) events =
      .ok finish)
    (settled : Settled finish) :
    ShowsEnough finish.session finish.feedhandler ∧
      (finish.session.executions = [] → ShowsExactly finish.session finish.feedhandler) := by
  obtain ⟨servedAll, modest, calmly⟩ := served_run guarded reached
  obtain ⟨total, live, handler, overseen⟩ :=
    (start_overseen tickers).run fewTickers (by omega) modest servedAll
  have conveys : Conveys finish := Guarded.invariant
    (fun _ _ _ conveys allowed taken => Conveys.step conveys allowed taken)
    (start_conveys tickers tempBuffer distinct subscribed buffer) calmly reached
  have same : handler = finish.feedhandler :=
    Except.ok.inj (overseen.received.symm.trans (conveys.conveyed.whole settled))
  rw [← same]
  exact ⟨overseen.showsEnough, overseen.showsExactly⟩

theorem tradingDay_shows_the_books :
    ∃ finish, run step twoListeners tradingDay = .ok finish ∧ Settled finish ∧
      finish.session.feed.length = 3 ∧ ShowsEnough finish.session finish.feedhandler := by
  have evaluated : (run step twoListeners tradingDay).toOption.map
      (fun finish => ([finish.unhanded.length, finish.dispatcher.queue.length,
        finish.platform.pending.length], finish.taken, finish.dispatcher.written.length,
        finish.received, (finish.platform.sentTo finish.endpoint).length,
        finish.session.feed.length)) = some ([0, 0, 0], 3, 3, 3, 3, 3) := by
    decide +kernel
  obtain ⟨finish, reached, seen⟩ := returns_of_view evaluated
  simp only [Prod.mk.injEq, List.cons.injEq, List.length_eq_zero_iff, and_true] at seen
  obtain ⟨⟨handed, written, sends⟩, taken, all, received, sent, told⟩ := seen
  have settled : Settled finish :=
    { handed := handed
      written := written
      taken := taken.trans all.symm
      sent := sends
      delivered := received.trans sent.symm }
  exact ⟨finish, reached, settled, told,
    (settled_clients_show_the_books [7, 8] (TempBuffer.filled 0) _ (by decide) emptyBuffer
      tradingDay finish (by decide) (by decide) (by decide +kernel) reached settled).1⟩

end Pipeline

end System
end SpotExchange
