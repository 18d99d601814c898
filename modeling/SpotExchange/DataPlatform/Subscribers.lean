/-
The set of the subscribers, over which the read loop iterates while subscribers are accepted
and sends complete. Each access to the set is one step.
-/

import Mathlib.Data.Finset.Max
import SpotExchange.Machine.Run

namespace SpotExchange
namespace DataPlatform

open Machine

universe u

/-! ### The read loop and its subscribers -/

/-- The subscribers, the iterator of the loop over them, which is `⊤` at the end, whether the
send to the subscriber at the iterator was started, and the sends that have not completed. -/
structure SendLoop (Endpoint : Type u) where
  subscribers : Finset Endpoint
  iterator : WithTop Endpoint
  sent : Bool
  pending : List Endpoint

/-- The loop begins for a message that was read, or goes on; a subscriber is accepted; a send
completes. -/
inductive LoopEvent (Endpoint : Type u) where
  | read (first : WithTop Endpoint)
  | asyncSendTo (subscriber : Endpoint)
  | moveOn (next : WithTop Endpoint)
  | acceptSubscriber (endpoint : Endpoint)
  | complete (subscriber : Endpoint) (failed : Bool)

inductive LoopFault where
  | disabled
  | erasedEnd
  | erasedPosition
  deriving DecidableEq, Repr

namespace SendLoop

variable {Endpoint : Type u} [LinearOrder Endpoint]

/-- What is found in the set is erased. Nothing is found where the element is not there, and
the iterator does not outlast its element. -/
def eraseFound (state : SendLoop Endpoint) (subscriber : Endpoint) :
    Except LoopFault (SendLoop Endpoint) :=
  if subscriber ∉ state.subscribers then .error .erasedEnd
  else if state.iterator = subscriber then .error .erasedPosition
  else .ok { state with subscribers := state.subscribers.erase subscriber }

/-- The first element behind the iterator. -/
def following (state : SendLoop Endpoint) : WithTop Endpoint :=
  (state.subscribers.filter (fun other : Endpoint =>
    state.iterator < (other : WithTop Endpoint))).min

def step (state : SendLoop Endpoint) :
    LoopEvent Endpoint → Except LoopFault (SendLoop Endpoint)
  | .read first =>
      if state.iterator = ⊤ ∧ first = state.subscribers.min then
        .ok { state with
          iterator := first
          sent := false }
      else .error .disabled
  | .asyncSendTo subscriber =>
      if state.iterator = subscriber ∧ state.sent = false then
        .ok { state with
          sent := true
          pending := state.pending ++ [subscriber] }
      else .error .disabled
  | .moveOn next =>
      if state.sent = true ∧ state.iterator ≠ ⊤ ∧ next = state.following then
        .ok { state with
          iterator := next
          sent := false }
      else .error .disabled
  | .acceptSubscriber endpoint =>
      .ok { state with subscribers := insert endpoint state.subscribers }
  | .complete subscriber failed =>
      if subscriber ∉ state.pending then .error .disabled
      else
        let completed := { state with pending := state.pending.erase subscriber }
        if failed then completed.eraseFound subscriber else .ok completed

/-! ### What the events tell -/

/-- Whether an endpoint is known after an event: it was accepted since a send to it failed. -/
def known (endpoint : Endpoint) (before : Bool) : LoopEvent Endpoint → Bool
  | .acceptSubscriber accepted => before || accepted == endpoint
  | .complete subscriber true => before && subscriber != endpoint
  | _ => before

def listed (endpoint : Endpoint) (initially : Bool) (events : List (LoopEvent Endpoint)) : Bool :=
  events.foldl (known endpoint) initially

/-- Where the loop stands after an event. -/
def moved (before : WithTop Endpoint) : LoopEvent Endpoint → WithTop Endpoint
  | .read first => first
  | .moveOn next => next
  | _ => before

def standsOn (initially : WithTop Endpoint) (events : List (LoopEvent Endpoint)) :
    WithTop Endpoint :=
  events.foldl moved initially

/-- Of each completion that comes about, the set keeps all but the subscriber to which the
send has failed. -/
def RemovedAlone (start : SendLoop Endpoint) (events : List (LoopEvent Endpoint)) : Prop :=
  ∀ earlier subscriber failed later state, events = earlier ++ .complete subscriber failed :: later →
    run step start earlier = .ok state → subscriber ∈ state.pending →
      ∃ next, state.step (.complete subscriber failed) = .ok next ∧
        next.subscribers =
          if failed then state.subscribers.erase subscriber else state.subscribers

/-- When a send fails, its subscriber has been accepted since the last one failed, and the loop
has moved on from it. -/
def Orderly (start : SendLoop Endpoint) (events : List (LoopEvent Endpoint)) : Prop :=
  ∀ earlier subscriber later state, events = earlier ++ .complete subscriber true :: later →
    run step start earlier = .ok state → subscriber ∈ state.pending →
      listed subscriber (subscriber ∈ start.subscribers) earlier = true ∧
        standsOn start.iterator earlier ≠ subscriber

section Steps

variable {state next : SendLoop Endpoint} {event : LoopEvent Endpoint}

theorem eraseFound_iff (state : SendLoop Endpoint) (subscriber : Endpoint) :
    (∃ next, state.eraseFound subscriber = .ok next) ↔
      subscriber ∈ state.subscribers ∧ state.iterator ≠ subscriber := by
  rw [eraseFound]
  by_cases absent : subscriber ∉ state.subscribers
  · rw [if_pos absent]
    constructor
    · rintro ⟨next, returned⟩
      cases returned
    · rintro ⟨present, -⟩
      exact absurd present absent
  · rw [if_neg absent]
    by_cases here : state.iterator = subscriber
    · rw [if_pos here]
      constructor
      · rintro ⟨next, returned⟩
        cases returned
      · rintro ⟨-, apart⟩
        exact absurd here apart
    · rw [if_neg here]
      exact iff_of_true ⟨_, rfl⟩ ⟨not_not.mp absent, here⟩

theorem eraseFound_eq {subscriber : Endpoint}
    (returned : state.eraseFound subscriber = .ok next) :
    next = { state with subscribers := state.subscribers.erase subscriber } := by
  rw [eraseFound] at returned
  split at returned
  · cases returned
  · split at returned
    · cases returned
    · exact (Except.ok.inj returned).symm

/-- What a step does to the iterator and to the set. -/
theorem step_follows (taken : state.step event = .ok next) :
    next.iterator = moved state.iterator event ∧
      ∀ endpoint, decide (endpoint ∈ next.subscribers) =
        known endpoint (decide (endpoint ∈ state.subscribers)) event := by
  cases event with
  | read first =>
      simp only [step] at taken
      split at taken
      · cases taken
        exact ⟨rfl, fun _ => rfl⟩
      · cases taken
  | asyncSendTo subscriber =>
      simp only [step] at taken
      split at taken
      · cases taken
        exact ⟨rfl, fun _ => rfl⟩
      · cases taken
  | moveOn following =>
      simp only [step] at taken
      split at taken
      · cases taken
        exact ⟨rfl, fun _ => rfl⟩
      · cases taken
  | acceptSubscriber accepted =>
      cases taken
      refine ⟨rfl, ?_⟩
      intro endpoint
      rw [known, Bool.eq_iff_iff, Bool.or_eq_true, decide_eq_true_iff, decide_eq_true_iff,
        Finset.mem_insert, beq_iff_eq, or_comm, eq_comm]
  | complete subscriber failed =>
      simp only [step] at taken
      split at taken
      · cases taken
      · cases failed with
        | false =>
            cases taken
            exact ⟨rfl, fun _ => rfl⟩
        | true =>
            rw [if_pos rfl] at taken
            rw [eraseFound_eq taken]
            refine ⟨rfl, ?_⟩
            intro endpoint
            rw [known, Bool.eq_iff_iff, Bool.and_eq_true, decide_eq_true_iff, decide_eq_true_iff,
              Finset.mem_erase, bne_iff_ne, and_comm, ne_comm]

/-- The iterator and the set are what the events tell. -/
theorem run_follows {start finish : SendLoop Endpoint} {events : List (LoopEvent Endpoint)}
    (reached : run step start events = .ok finish) :
    finish.iterator = standsOn start.iterator events ∧
      ∀ endpoint, decide (endpoint ∈ finish.subscribers) =
        listed endpoint (decide (endpoint ∈ start.subscribers)) events := by
  induction events generalizing start with
  | nil =>
      cases reached
      exact ⟨rfl, fun _ => rfl⟩
  | cons event rest ih =>
      simp only [run] at reached
      cases taken : start.step event with
      | error problem =>
          rw [taken] at reached
          cases reached
      | ok next =>
          rw [taken] at reached
          obtain ⟨stands, lists⟩ := ih reached
          obtain ⟨moves, knows⟩ := step_follows taken
          constructor
          · rw [stands, moves]
            rfl
          · intro endpoint
            rw [lists endpoint, knows endpoint]
            rfl

end Steps

/-- A failing subscriber is removed once and alone in every run of the loop that is orderly,
and in no other. -/
theorem removedAlone_iff_orderly (start : SendLoop Endpoint)
    (events : List (LoopEvent Endpoint)) : RemovedAlone start events ↔ Orderly start events := by
  have erased : ∀ {earlier subscriber} {state : SendLoop Endpoint},
      run step start earlier = .ok state → subscriber ∈ state.pending →
        ((∃ next, state.step (.complete subscriber true) = .ok next ∧
            next.subscribers = state.subscribers.erase subscriber) ↔
          listed subscriber (subscriber ∈ start.subscribers) earlier = true ∧
            standsOn start.iterator earlier ≠ subscriber) := by
    intro earlier subscriber state reached waits
    obtain ⟨stands, lists⟩ := run_follows reached
    have completes : state.step (.complete subscriber true) =
        { state with pending := state.pending.erase subscriber }.eraseFound subscriber := by
      rw [step, if_neg (not_not.mpr waits)]
      rfl
    rw [completes, ← stands, ← lists subscriber, decide_eq_true_iff]
    have possible := eraseFound_iff { state with pending := state.pending.erase subscriber }
      subscriber
    rw [← possible]
    constructor
    · rintro ⟨next, returned, -⟩
      exact ⟨next, returned⟩
    · rintro ⟨next, returned⟩
      refine ⟨next, returned, ?_⟩
      rw [eraseFound_eq returned]
  constructor
  · intro removed earlier subscriber later state split reached waits
    exact (erased reached waits).mp (removed earlier subscriber true later state split reached waits)
  · intro orderly earlier subscriber failed later state split reached waits
    cases failed with
    | true =>
        exact (erased reached waits).mpr (orderly earlier subscriber later state split reached waits)
    | false =>
        refine ⟨{ state with pending := state.pending.erase subscriber }, ?_, rfl⟩
        rw [step, if_neg (not_not.mpr waits)]
        rfl

/-- One subscriber, at the end of the loop. -/
def oneSubscriber : SendLoop Nat :=
  { subscribers := {1}
    iterator := ⊤
    sent := false
    pending := [] }

/-- Two messages are sent to the subscriber, and both sends fail. -/
def bothFail : List (LoopEvent Nat) :=
  [.read (WithTop.some 1), .asyncSendTo 1, .moveOn ⊤, .read (WithTop.some 1), .asyncSendTo 1,
    .moveOn ⊤, .complete 1 true, .complete 1 true]

/-- The second failure finds nothing to erase. -/
theorem bothFail_not_removedAlone : ¬RemovedAlone oneSubscriber bothFail := by
  intro removed
  have erased := removed
    [.read (WithTop.some 1), .asyncSendTo 1, .moveOn ⊤, .read (WithTop.some 1), .asyncSendTo 1,
      .moveOn ⊤, .complete 1 true] 1 true []
    { subscribers := ∅
      iterator := ⊤
      sent := false
      pending := [1] } rfl (by rfl) (by decide)
  obtain ⟨next, returned, -⟩ := erased
  cases returned

end SendLoop

end DataPlatform
end SpotExchange
