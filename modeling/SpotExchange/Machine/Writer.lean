/-
Writers of a transport that takes one message at a time and reports the completion of
each write. Messages wait in a queue whose front is the message that is being written.
-/

import SpotExchange.Machine.Run

namespace SpotExchange
namespace Machine

universe u

/-- The queue and its flag, the writes that have not completed, and the messages that were
handed to the transport and to the writer so far. -/
structure Writer (Message : Type u) where
  queue : List Message
  writeInProgress : Bool
  outstanding : List Message
  written : List Message
  enqueued : List Message
  deriving DecidableEq, Repr

inductive WriterProblem where
  | disabled
  | exited
  | emptyQueue
  deriving DecidableEq, Repr

inductive WriterEvent (Message : Type u) where
  | enqueue (message : Message)
  | complete (position : Nat) (success : Bool)

def WriterEvent.messages {Message : Type u} : WriterEvent Message → List Message
  | .enqueue message => [message]
  | .complete _ _ => []

namespace Writer

variable {Message : Type u}

def empty : Writer Message :=
  { queue := []
    writeInProgress := false
    outstanding := []
    written := []
    enqueued := [] }

def startWrite (writer : Writer Message) (message : Message) : Writer Message :=
  { writer with
    outstanding := writer.outstanding ++ [message]
    written := writer.written ++ [message] }

def pushBack (writer : Writer Message) (message : Message) : Writer Message :=
  { writer with
    queue := writer.queue ++ [message]
    enqueued := writer.enqueued ++ [message] }

/-- A message for which the program `stops` is not queued. An idle writer writes the
message itself. -/
def enqueue (stops : Message → Bool) (writer : Writer Message) (message : Message) :
    Except WriterProblem (Writer Message) :=
  if stops message then .error .exited
  else if writer.writeInProgress then .ok (writer.pushBack message)
  else .ok { (writer.pushBack message).startWrite message with writeInProgress := true }

/-- The callback of a write. -/
def complete (writer : Writer Message) (success : Bool) :
    Except WriterProblem (Writer Message) :=
  match writer.queue with
  | [] => .error .emptyQueue
  | _ :: [] => .ok { writer with queue := [], writeInProgress := false }
  | _ :: next :: rest =>
      if success then .ok ({ writer with queue := next :: rest }.startWrite next)
      else .ok { writer with queue := next :: rest, writeInProgress := false }

/-- Each write completes once, and only after it was started. -/
def step (stops : Message → Bool) (writer : Writer Message) :
    WriterEvent Message → Except WriterProblem (Writer Message)
  | .enqueue message => writer.enqueue stops message
  | .complete position success =>
      if position < writer.outstanding.length then
        { writer with outstanding := writer.outstanding.eraseIdx position }.complete success
      else .error .disabled

/-- One write at a time, which is that of the front of the queue; nothing waits while there
is none; the messages are written in the order in which they came. -/
structure Ordered (writer : Writer Message) : Prop where
  single : writer.outstanding.length ≤ 1
  front : writer.writeInProgress = true →
    ∃ message, writer.outstanding = [message] ∧ writer.queue.head? = some message
  idle : writer.writeInProgress = false → writer.queue = []
  in_order : writer.written <+: writer.enqueued

/-- A write fails only while no other message waits. -/
def failsAlone (writer : Writer Message) : WriterEvent Message → Bool
  | .enqueue _ => true
  | .complete _ success => success || writer.queue.length ≤ 1

/-- The queue is what was enqueued and is not known to be written, and its front is on
the way. -/
inductive Flowing (writer : Writer Message) : Prop
  | waiting (idle : writer.writeInProgress = false) (drained : writer.queue = [])
      (silent : writer.outstanding = []) (complete : writer.enqueued = writer.written)
  | writing (message : Message) (rest : List Message) (busy : writer.writeInProgress = true)
      (queued : writer.queue = message :: rest) (pending : writer.outstanding = [message])
      (complete : writer.enqueued = writer.written ++ rest)

theorem empty_flowing : Flowing (empty : Writer Message) :=
  .waiting rfl rfl rfl rfl

theorem Flowing.ordered {writer : Writer Message} (flowing : Flowing writer) :
    writer.Ordered := by
  cases flowing with
  | waiting idle drained silent complete =>
      constructor
      · rw [silent]
        exact Nat.zero_le 1
      · intro busy
        rw [idle] at busy
        cases busy
      · intro _
        exact drained
      · exact ⟨[], (List.append_nil writer.written).trans complete.symm⟩
  | writing message rest busy queued pending complete =>
      constructor
      · exact Nat.le_of_eq (congrArg List.length pending)
      · intro _
        refine ⟨message, pending, ?_⟩
        rw [queued]
        rfl
      · intro idle
        rw [busy] at idle
        cases idle
      · rw [complete]
        exact List.prefix_append writer.written rest

theorem enqueue_flowing {stops : Message → Bool} {writer next : Writer Message}
    {message : Message} (flowing : Flowing writer)
    (taken : writer.enqueue stops message = .ok next) : Flowing next := by
  unfold enqueue at taken
  split at taken
  · cases taken
  · cases flowing with
    | waiting idle drained silent complete =>
        rw [if_neg (by rw [idle]; decide)] at taken
        rw [← Except.ok.inj taken]
        refine .writing message [] rfl ?_ ?_ ?_
        · simp only [startWrite, pushBack, drained, List.nil_append]
        · simp only [startWrite, pushBack, silent, List.nil_append]
        · simp only [startWrite, pushBack, complete, List.append_nil]
    | writing first rest busy queued pending complete =>
        rw [if_pos busy] at taken
        rw [← Except.ok.inj taken]
        refine .writing first (rest ++ [message]) busy ?_ pending ?_
        · simp only [pushBack, queued, List.cons_append]
        · simp only [pushBack, complete, List.append_assoc]

/-- What is written stays written, and what an event enqueues comes last. -/
theorem step_extends {stops : Message → Bool} {writer next : Writer Message}
    {event : WriterEvent Message} (taken : writer.step stops event = .ok next) :
    writer.written <+: next.written ∧ next.enqueued = writer.enqueued ++ event.messages := by
  cases event with
  | enqueue message =>
      change writer.enqueue stops message = .ok next at taken
      unfold enqueue at taken
      split at taken
      · cases taken
      · split at taken
        · cases taken
          exact ⟨List.prefix_refl _, rfl⟩
        · cases taken
          exact ⟨List.prefix_append _ _, rfl⟩
  | complete position success =>
      change (if position < writer.outstanding.length then _ else _) = _ at taken
      split at taken
      · unfold complete at taken
        split at taken
        · cases taken
        · cases taken
          exact ⟨List.prefix_refl _, (List.append_nil _).symm⟩
        · split at taken
          · cases taken
            exact ⟨List.prefix_append _ _, (List.append_nil _).symm⟩
          · cases taken
            exact ⟨List.prefix_refl _, (List.append_nil _).symm⟩
      · cases taken

/-- The queue grows by what is enqueued, and shrinks by one with each completion. -/
theorem step_queue {stops : Message → Bool} {writer next : Writer Message}
    {event : WriterEvent Message} (taken : writer.step stops event = .ok next) :
    match event with
    | .enqueue _ => next.queue.length = writer.queue.length + 1
    | .complete _ _ => next.queue.length + 1 = writer.queue.length := by
  cases event with
  | enqueue message =>
      change writer.enqueue stops message = .ok next at taken
      unfold enqueue at taken
      split at taken
      · cases taken
      · split at taken
        · cases taken
          exact List.length_append
        · cases taken
          exact List.length_append
  | complete position success =>
      change (if position < writer.outstanding.length then _ else _) = _ at taken
      split at taken
      · unfold complete at taken
        split at taken
        · cases taken
        · rename_i queued
          cases taken
          exact (congrArg List.length queued).symm
        · rename_i queued
          split at taken
          · cases taken
            exact (congrArg List.length queued).symm
          · cases taken
            exact (congrArg List.length queued).symm
      · cases taken

/-- Only the write of the front can complete, and what it leaves is the rest of the queue. -/
theorem complete_cases {writer next : Writer Message} {position : Nat} {success : Bool}
    {stops : Message → Bool} (flowing : Flowing writer)
    (taken : writer.step stops (.complete position success) = .ok next) :
    ∃ message rest, writer.queue = message :: rest ∧ writer.outstanding = [message] ∧
      writer.enqueued = writer.written ++ rest ∧
      { writer with outstanding := [] }.complete success = .ok next := by
  change (if position < writer.outstanding.length then _ else _) = _ at taken
  split at taken
  · rename_i below
    cases flowing with
    | waiting idle drained silent complete =>
        rw [silent] at below
        exact absurd below (Nat.not_lt_zero position)
    | writing message rest busy queued pending complete =>
        refine ⟨message, rest, queued, pending, complete, ?_⟩
        rw [pending] at below taken
        have first : position = 0 := Nat.lt_one_iff.mp below
        rw [first] at taken
        exact taken
  · cases taken

theorem step_flowing {stops : Message → Bool} {writer next : Writer Message}
    {event : WriterEvent Message} (flowing : Flowing writer)
    (allowed : writer.failsAlone event = true) (taken : writer.step stops event = .ok next) :
    Flowing next := by
  cases event with
  | enqueue message => exact enqueue_flowing flowing taken
  | complete position success =>
      obtain ⟨message, rest, queued, -, enqueued, completed⟩ := complete_cases flowing taken
      simp only [complete, queued] at completed
      cases rest with
      | nil =>
          rw [← Except.ok.inj completed]
          rw [List.append_nil] at enqueued
          exact .waiting rfl rfl rfl enqueued
      | cons following others =>
          have succeeded : success = true := by
            simpa [failsAlone, queued] using allowed
          simp only [succeeded, if_true] at completed
          rw [← Except.ok.inj completed]
          refine .writing following others ?_ rfl rfl ?_
          · cases flowing with
            | waiting idle drained silent same =>
                rw [drained] at queued
                cases queued
            | writing first others busy same pending whole => exact busy
          · simp only [startWrite, enqueued, List.append_assoc, List.singleton_append]

/-- A write that fails before others leaves them behind. -/
theorem step_not_ordered {stops : Message → Bool} {writer next : Writer Message}
    {event : WriterEvent Message} (flowing : Flowing writer)
    (forbidden : ¬writer.failsAlone event = true) (taken : writer.step stops event = .ok next) :
    ¬next.Ordered := by
  cases event with
  | enqueue message => exact absurd rfl forbidden
  | complete position success =>
      obtain ⟨message, rest, queued, -, -, completed⟩ := complete_cases flowing taken
      have failed : success = false ∧ rest ≠ [] := by
        simpa [failsAlone, queued] using forbidden
      simp only [complete, queued] at completed
      cases rest with
      | nil => exact absurd rfl failed.2
      | cons following others =>
          rw [failed.1] at completed
          rw [← Except.ok.inj completed]
          intro ordered
          have stuck := ordered.idle rfl
          cases stuck

/-- A writer stays in order as long as its writes fail only alone, and no longer. -/
theorem failsAlone_iff_ordered {stops : Message → Bool} {events : List (WriterEvent Message)}
    {finish : Writer Message} (reached : run (step stops) empty events = .ok finish) :
    Guarded (step stops) (fun writer event => writer.failsAlone event = true) empty events ↔
      Always (step stops) Ordered empty events :=
  guarded_iff_always (fun _ => Flowing.ordered) (fun _ _ _ => step_flowing)
    (fun _ _ _ => step_not_ordered) empty_flowing reached

end Writer

end Machine
end SpotExchange
