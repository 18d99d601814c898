/-
The queues in front of the two streams that the server writes: market data to the data
platform, and the responses to one client. Their locked sections run one at a time, so a
run is a list of calls and completions in the order in which they take the lock.
-/

import SpotExchange.Info.Messages
import SpotExchange.Machine.Writer

namespace SpotExchange
namespace Server

open Machine Wire

namespace MarketDataDispatcher

/-- The order id with which the benchmark stops the server. A message that adds no order
reads as one that adds order 0. -/
def endsBenchmark : MarketDataResponse → Bool
  | .add data => data.orderId == 356198
  | _ => false

def writeMarketData (dispatcher : Writer MarketDataResponse) (marketdata : MarketDataResponse) :
    Except WriterProblem (Writer MarketDataResponse) :=
  dispatcher.enqueue endsBenchmark marketdata

def writeToMDPlatform (dispatcher : Writer MarketDataResponse) (success : Bool) :
    Except WriterProblem (Writer MarketDataResponse) :=
  dispatcher.complete success

def step : Writer MarketDataResponse → WriterEvent MarketDataResponse →
    Except WriterProblem (Writer MarketDataResponse)
  | dispatcher, .enqueue marketdata => writeMarketData dispatcher marketdata
  | dispatcher, .complete position success =>
      if position < dispatcher.outstanding.length then
        writeToMDPlatform
          { dispatcher with outstanding := dispatcher.outstanding.eraseIdx position } success
      else .error .disabled

theorem step_eq : step = Writer.step endsBenchmark := by
  funext dispatcher event
  cases event <;> rfl

end MarketDataDispatcher

namespace ResponseQueue

def writeToClient (responses : Writer OrderEntryResponse) (response : OrderEntryResponse) :
    Except WriterProblem (Writer OrderEntryResponse) :=
  responses.enqueue (fun _ => false) response

def sendResponseFromQueue (responses : Writer OrderEntryResponse) (success : Bool) :
    Except WriterProblem (Writer OrderEntryResponse) :=
  responses.complete success

def step : Writer OrderEntryResponse → WriterEvent OrderEntryResponse →
    Except WriterProblem (Writer OrderEntryResponse)
  | responses, .enqueue response => writeToClient responses response
  | responses, .complete position success =>
      if position < responses.outstanding.length then
        sendResponseFromQueue
          { responses with outstanding := responses.outstanding.eraseIdx position } success
      else .error .disabled

theorem step_eq : step = Writer.step (fun _ => false) := by
  funext responses event
  cases event <;> rfl

end ResponseQueue

/-- In both queues the messages are written in order, one at a time and each once, exactly
as long as no write fails while other messages wait. -/
theorem queues_write_in_order {marketEvents : List (WriterEvent MarketDataResponse)}
    {responseEvents : List (WriterEvent OrderEntryResponse)}
    {dispatcher : Writer MarketDataResponse} {responses : Writer OrderEntryResponse}
    (dispatched : run MarketDataDispatcher.step Writer.empty marketEvents = .ok dispatcher)
    (answered : run ResponseQueue.step Writer.empty responseEvents = .ok responses) :
    (Guarded MarketDataDispatcher.step (fun writer event => writer.failsAlone event = true)
        Writer.empty marketEvents ↔
      Always MarketDataDispatcher.step Writer.Ordered Writer.empty marketEvents) ∧
    (Guarded ResponseQueue.step (fun writer event => writer.failsAlone event = true)
        Writer.empty responseEvents ↔
      Always ResponseQueue.step Writer.Ordered Writer.empty responseEvents) := by
  rw [MarketDataDispatcher.step_eq] at dispatched ⊢
  rw [ResponseQueue.step_eq] at answered ⊢
  constructor
  · exact Writer.failsAlone_iff_ordered dispatched
  · exact Writer.failsAlone_iff_ordered answered

/-- Three cancellations of which the first is not written: the second is lost, and the third
is written twice. -/
def failedWrite : List (WriterEvent MarketDataResponse) :=
  [.enqueue (.cancel { timestamp := 0, orderId := 1 }),
    .enqueue (.cancel { timestamp := 0, orderId := 2 }),
    .complete 0 false,
    .enqueue (.cancel { timestamp := 0, orderId := 3 }),
    .complete 0 true]

/-- The same with a success in place of the failure, and all completions. -/
def allWritten : List (WriterEvent MarketDataResponse) :=
  [.enqueue (.cancel { timestamp := 0, orderId := 1 }),
    .enqueue (.cancel { timestamp := 0, orderId := 2 }),
    .complete 0 true,
    .enqueue (.cancel { timestamp := 0, orderId := 3 }),
    .complete 0 true,
    .complete 0 false]

/-- A rejection of an order. -/
def rejected (orderId : OrderId) : OrderEntryResponse :=
  .rejection
    { orderCommon :=
        { orderId := orderId
          userId := 2
          ticker := 3 }
      rejectionResponse := .orderNotFound }

/-- Three responses, of which two are queued while the first one is written; the last write fails,
when no other response waits. -/
def allAnswered : List (WriterEvent OrderEntryResponse) :=
  [.enqueue (rejected 1),
    .enqueue (.cancelOrderAck 0
      { orderId := 2
        userId := 2
        ticker := 3 }),
    .enqueue (rejected 2),
    .complete 0 true,
    .complete 0 true,
    .complete 0 false]

theorem allWritten_in_order :
    Always MarketDataDispatcher.step Writer.Ordered Writer.empty allWritten ∧
      Always ResponseQueue.step Writer.Ordered Writer.empty allAnswered := by
  have evaluated :
      (run MarketDataDispatcher.step Writer.empty allWritten).toOption.map Writer.written =
        some [.cancel { timestamp := 0, orderId := 1 }, .cancel { timestamp := 0, orderId := 2 },
          .cancel { timestamp := 0, orderId := 3 }] := by
    decide +kernel
  have answered :
      (run ResponseQueue.step Writer.empty allAnswered).toOption.map
          (fun writer => writer.written.length) = some 3 := by
    decide +kernel
  obtain ⟨dispatcher, dispatched, -⟩ := returns_of_view evaluated
  obtain ⟨responses, sent, -⟩ := returns_of_view answered
  have both := queues_write_in_order dispatched sent
  exact ⟨both.1.mp (by decide +kernel), both.2.mp (by decide +kernel)⟩

theorem failedWrite_loses_and_repeats :
    ∃ finish, run MarketDataDispatcher.step Writer.empty failedWrite = .ok finish ∧
      finish.written = [.cancel { timestamp := 0, orderId := 1 },
        .cancel { timestamp := 0, orderId := 3 }, .cancel { timestamp := 0, orderId := 3 }] ∧
      finish.enqueued = [.cancel { timestamp := 0, orderId := 1 },
        .cancel { timestamp := 0, orderId := 2 }, .cancel { timestamp := 0, orderId := 3 }] ∧
      ¬finish.written <+: finish.enqueued := by
  have evaluated :
      (run MarketDataDispatcher.step Writer.empty failedWrite).toOption.map
          (fun writer => (writer.written, writer.enqueued)) =
        some ([.cancel { timestamp := 0, orderId := 1 }, .cancel { timestamp := 0, orderId := 3 },
          .cancel { timestamp := 0, orderId := 3 }],
          [.cancel { timestamp := 0, orderId := 1 }, .cancel { timestamp := 0, orderId := 2 },
          .cancel { timestamp := 0, orderId := 3 }]) := by
    decide +kernel
  obtain ⟨finish, reached, seen⟩ := returns_of_view evaluated
  obtain ⟨written, enqueued⟩ := Prod.mk.inj seen
  refine ⟨finish, reached, written, enqueued, ?_⟩
  rw [written, enqueued]
  decide

end Server
end SpotExchange
