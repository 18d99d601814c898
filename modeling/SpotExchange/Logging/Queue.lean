/-
The queue between the threads that log and the thread that writes the log. Its steps are
the accesses to shared memory, in any interleaving.
-/

import Mathlib.Algebra.Order.Ring.Int
import Mathlib.Algebra.Order.Ring.Nat
import Mathlib.Logic.Function.Basic
import SpotExchange.Machine.Run

namespace SpotExchange
namespace Logging

open Machine

/-! ### The queue -/

/-- A power of two that fits a word. -/
structure Capacity where
  bits : Nat
  bounded : bits < 64

def Capacity.size (capacity : Capacity) : UInt64 := UInt64.ofNat (2 ^ capacity.bits)

/-- Storage with no object in it holds no entry. -/
structure QueueIndex (Entry : Type) where
  logEntry : Option Entry
  isConstructed : Bool
  deriving DecidableEq

/-- Only indices below the size are ever used. -/
structure Queue (Entry : Type) where
  buffer : UInt64 → QueueIndex Entry
  head : UInt64
  tail : UInt64

namespace Queue

variable {Entry : Type}

def create : Queue Entry :=
  { buffer := fun _ =>
      { logEntry := none
        isConstructed := false }
    head := 0
    tail := 0 }

/-- The index of a reserved head. -/
def masked (capacity : Capacity) (head : UInt64) : UInt64 := head &&& (capacity.size - 1)

/-- The test that keeps a producer waiting. -/
def mustWait (capacity : Capacity) (queue : Queue Entry) (head : UInt64) : Bool :=
  decide (masked capacity head - queue.tail ≥ capacity.size)

def fetchAdd (queue : Queue Entry) : Queue Entry := { queue with head := queue.head + 1 }

def setIndex (queue : Queue Entry) (index : UInt64) (written : QueueIndex Entry) : Queue Entry :=
  { queue with buffer := Function.update queue.buffer index written }

def construct (capacity : Capacity) (queue : Queue Entry) (head : UInt64) (entry : Entry) :
    Queue Entry :=
  queue.setIndex (masked capacity head)
    { queue.buffer (masked capacity head) with logEntry := some entry }

def publish (capacity : Capacity) (queue : Queue Entry) (head : UInt64) : Queue Entry :=
  queue.setIndex (masked capacity head)
    { queue.buffer (masked capacity head) with isConstructed := true }

/-- The entry at the tail, where its flag is set. -/
def front (queue : Queue Entry) : Option (QueueIndex Entry) :=
  if (queue.buffer queue.tail).isConstructed then some (queue.buffer queue.tail) else none

def destroy (queue : Queue Entry) : Queue Entry :=
  queue.setIndex queue.tail { queue.buffer queue.tail with logEntry := none }

def clear (queue : Queue Entry) : Queue Entry :=
  queue.setIndex queue.tail { queue.buffer queue.tail with isConstructed := false }

def storeTail (capacity : Capacity) (queue : Queue Entry) : Queue Entry :=
  { queue with tail := (queue.tail + 1) &&& (capacity.size - 1) }

end Queue

/-! ### The threads -/

/-- Where a producer is in `emplace`. The ticket counts the reservations; the head is the
ticket in a word. -/
inductive Emplace (Entry : Type) where
  | outside
  | reserved (ticket : Nat) (head : UInt64) (entry : Entry)
  | admitted (ticket : Nat) (head : UInt64) (entry : Entry)
  | constructed (ticket : Nat) (head : UInt64) (entry : Entry)

/-- Where the writer is: before `front`, after it has returned an entry, and in `pop`. -/
inductive Writer where
  | looking
  | returned
  | tested
  | destroyed
  | cleared
  deriving DecidableEq

/-- What has happened, which no thread reads: the entries by ticket, the tickets whose entries
were constructed and published, what was returned and popped, the number of pops that are
over, and whether an entry was constructed where the one before it had not been popped. -/
structure History (Entry : Type) where
  emplaced : List Entry
  constructed : List Nat
  published : List Nat
  returned : List (Option Entry)
  popped : List (Option Entry)
  completed : Nat
  overwritten : Bool

structure System (Entry : Type) where
  queue : Queue Entry
  producers : Nat → Emplace Entry
  writer : Writer
  history : History Entry

inductive Event (Entry : Type) where
  | fetchAdd (producer : Nat) (entry : Entry)
  | testTail (producer : Nat)
  | construct (producer : Nat)
  | publish (producer : Nat)
  | front
  | awaitConstructed
  | destroy
  | clear
  | storeTail

/-- The steps of the writer. -/
def Event.isWriters {Entry : Type} : Event Entry → Bool
  | .front => true
  | .awaitConstructed => true
  | .destroy => true
  | .clear => true
  | .storeTail => true
  | _ => false

namespace System

variable {Entry : Type}

def start : System Entry :=
  { queue := Queue.create
    producers := fun _ => .outside
    writer := .looking
    history :=
      { emplaced := []
        constructed := []
        published := []
        returned := []
        popped := []
        completed := 0
        overwritten := false } }

def setProducer (system : System Entry) (producer : Nat) (phase : Emplace Entry) :
    System Entry :=
  { system with producers := Function.update system.producers producer phase }

/-- The entry of the lap before a ticket has not been popped. -/
def isHeld (capacity : Capacity) (system : System Entry) (ticket : Nat) : Bool :=
  decide (system.history.completed + 2 ^ capacity.bits ≤ ticket)

def step (capacity : Capacity) (system : System Entry) :
    Event Entry → Except Disabled (System Entry)
  | .fetchAdd producer entry =>
      match system.producers producer with
      | .outside =>
          .ok
            { (system.setProducer producer
                (.reserved system.history.emplaced.length system.queue.head entry)) with
              queue := system.queue.fetchAdd
              history :=
                { system.history with emplaced := system.history.emplaced ++ [entry] } }
      | _ => .error .disabled
  | .testTail producer =>
      match system.producers producer with
      | .reserved ticket head entry =>
          if system.queue.mustWait capacity head then .ok system
          else .ok (system.setProducer producer (.admitted ticket head entry))
      | _ => .error .disabled
  | .construct producer =>
      match system.producers producer with
      | .admitted ticket head entry =>
          .ok
            { (system.setProducer producer (.constructed ticket head entry)) with
              queue := system.queue.construct capacity head entry
              history :=
                { system.history with
                  constructed := ticket :: system.history.constructed
                  overwritten := system.history.overwritten || system.isHeld capacity ticket } }
      | _ => .error .disabled
  | .publish producer =>
      match system.producers producer with
      | .constructed ticket head _ =>
          .ok
            { (system.setProducer producer .outside) with
              queue := system.queue.publish capacity head
              history :=
                { system.history with published := ticket :: system.history.published } }
      | _ => .error .disabled
  | .front =>
      match system.writer with
      | .looking =>
          match system.queue.front with
          | none => .ok system
          | some index =>
              .ok
                { system with
                  writer := .returned
                  history :=
                    { system.history with
                      returned := system.history.returned ++ [index.logEntry] } }
      | _ => .error .disabled
  | .awaitConstructed =>
      match system.writer with
      | .returned =>
          if (system.queue.buffer system.queue.tail).isConstructed then
            .ok { system with writer := .tested }
          else .ok system
      | _ => .error .disabled
  | .destroy =>
      match system.writer with
      | .tested =>
          .ok
            { system with
              queue := system.queue.destroy
              writer := .destroyed
              history :=
                { system.history with
                  popped := system.history.popped ++
                    [(system.queue.buffer system.queue.tail).logEntry] } }
      | _ => .error .disabled
  | .clear =>
      match system.writer with
      | .destroyed =>
          .ok
            { system with
              queue := system.queue.clear
              writer := .cleared }
      | _ => .error .disabled
  | .storeTail =>
      match system.writer with
      | .cleared =>
          .ok
            { system with
              queue := system.queue.storeTail capacity
              writer := .looking
              history := { system.history with completed := system.history.completed + 1 } }
      | _ => .error .disabled

end System

end Logging
end SpotExchange
