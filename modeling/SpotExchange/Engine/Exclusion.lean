/-
Concurrent calls of one book. Each of the three operations starts with an attempt to
take the mutex of the book and goes on whether or not the attempt succeeded; a mutex that
was taken is given back at the return. An attempt fails while some thread has the mutex;
of an attempt by the thread that has it already, which the language leaves undefined, only
that it fails is used.

`modifyOrder` is in one of three places: before its call of `cancelOrder`, between that
call and the one of `addOrder`, and after it.
-/

import Mathlib.Logic.Function.Basic
import SpotExchange.Machine.Run

namespace SpotExchange
namespace Engine
namespace Exclusion

open Machine

universe u

inductive Operation where
  | addOrder
  | modifyOrder
  | cancelOrder
  deriving DecidableEq, Repr

inductive Body where
  | addOrder
  | cancelOrder
  | modifyOrder
  | modifyOrderCancelled
  | modifyOrderAdded
  deriving DecidableEq, Repr

def Operation.body : Operation → Body
  | .addOrder => .addOrder
  | .modifyOrder => .modifyOrder
  | .cancelOrder => .cancelOrder

def Body.isModifyOrder : Body → Bool
  | .modifyOrder => true
  | .modifyOrderCancelled => true
  | .modifyOrderAdded => true
  | .addOrder => false
  | .cancelOrder => false

/-- A call on the stack of a thread, with its lock object. -/
structure Frame where
  body : Body
  ownsLock : Bool
  deriving DecidableEq, Repr

/-- Only the outermost call has the lock. -/
def OwnsAtBottom : List Frame → Prop
  | [] => True
  | [frame] => frame.ownsLock = true
  | frame :: below => frame.ownsLock = false ∧ OwnsAtBottom below

theorem ownsAtBottom_cons {frame : Frame} {below : List Frame} (nested : below ≠ []) :
    OwnsAtBottom (frame :: below) ↔ frame.ownsLock = false ∧ OwnsAtBottom below := by
  cases below with
  | nil => exact absurd rfl nested
  | cons outer rest => exact Iff.rfl

theorem ownsAtBottom_rebody (body : Body) (frame : Frame) (below : List Frame) :
    OwnsAtBottom ({ frame with body := body } :: below) ↔ OwnsAtBottom (frame :: below) := by
  cases below with
  | nil => exact Iff.rfl
  | cons outer rest => exact Iff.rfl

/-- The owner of the mutex, and for each thread its calls of the book, innermost first. -/
structure Threads (Thread : Type u) where
  orderbookMutex : Option Thread
  frames : Thread → List Frame

inductive Event (Thread : Type u) where
  | call (thread : Thread) (operation : Operation)
  | nest (thread : Thread)
  | leave (thread : Thread)

variable {Thread : Type u}

namespace Threads

def idle : Threads Thread :=
  { orderbookMutex := none
    frames := fun _ => [] }

def Inside (state : Threads Thread) (thread : Thread) : Prop := state.frames thread ≠ []

/-- At most one thread is inside an operation, and one that is in `modifyOrder`, be it in
a nested call, has the mutex. -/
structure Exclusive (state : Threads Thread) : Prop where
  alone : ∀ thread other, state.Inside thread → state.Inside other → thread = other
  held : ∀ thread frame, frame ∈ state.frames thread → frame.body.isModifyOrder = true →
    state.orderbookMutex = some thread

/-- The owner of the mutex is the one thread inside, through its outermost call. -/
structure Locked (state : Threads Thread) : Prop where
  owner : ∀ thread, state.orderbookMutex = some thread ↔ state.Inside thread
  bottom : ∀ thread, OwnsAtBottom (state.frames thread)

theorem idle_locked : (idle : Threads Thread).Locked where
  owner := by
    intro thread
    constructor
    · intro impossible
      cases impossible
    · intro inside
      exact absurd rfl inside
  bottom := fun _ => trivial

theorem Locked.exclusive {state : Threads Thread} (locked : state.Locked) : state.Exclusive where
  alone := by
    intro thread other inside otherInside
    have here := (locked.owner thread).mpr inside
    have there := (locked.owner other).mpr otherInside
    exact Option.some.inj (here.symm.trans there)
  held := by
    intro thread frame member _modifies
    exact (locked.owner thread).mpr (List.ne_nil_of_mem member)

theorem Locked.owner_of_stack {state : Threads Thread} (locked : state.Locked) {thread : Thread}
    {frame : Frame} {below : List Frame} (stack : state.frames thread = frame :: below) :
    state.orderbookMutex = some thread := by
  refine (locked.owner thread).mpr ?_
  unfold Inside
  rw [stack]
  exact List.cons_ne_nil _ _

theorem Locked.others {state : Threads Thread} (locked : state.Locked) {thread : Thread}
    (owner : state.orderbookMutex = some thread) :
    ∀ other, other ≠ thread → (some thread = some other ↔ state.Inside other) := by
  intro other _different
  rw [← owner]
  exact locked.owner other

variable [DecidableEq Thread]

/-! ### Steps -/

/-- The mutex has an owner, and a thread a stack of calls. -/
def put (state : Threads Thread) (owner : Option Thread) (thread : Thread)
    (frames : List Frame) : Threads Thread :=
  { orderbookMutex := owner
    frames := Function.update state.frames thread frames }

/-- `std::unique_lock` with `std::try_to_lock`, and the body behind it. -/
def enter (state : Threads Thread) (thread : Thread) (body : Body) (below : List Frame) :
    Threads Thread :=
  match state.orderbookMutex with
  | none => state.put (some thread) thread ({ body := body, ownsLock := true } :: below)
  | some owner => state.put (some owner) thread ({ body := body, ownsLock := false } :: below)

/-- The next nested call of a body, and where the body stands after it. -/
def nestedCall : Body → Option (Body × Body)
  | .modifyOrder => some (.cancelOrder, .modifyOrderCancelled)
  | .modifyOrderCancelled => some (.addOrder, .modifyOrderAdded)
  | .modifyOrderAdded => none
  | .addOrder => none
  | .cancelOrder => none

def step (state : Threads Thread) : Event Thread → Except Disabled (Threads Thread)
  | .call thread operation =>
      match state.frames thread with
      | [] => .ok (state.enter thread operation.body [])
      | _ :: _ => .error .disabled
  | .nest thread =>
      match state.frames thread with
      | [] => .error .disabled
      | frame :: below =>
          match nestedCall frame.body with
          | none => .error .disabled
          | some (callee, after) =>
              .ok (state.enter thread callee ({ frame with body := after } :: below))
  | .leave thread =>
      match state.frames thread with
      | [] => .error .disabled
      | frame :: below =>
          if frame.body = .modifyOrderCancelled then .error .disabled
          else
            .ok (state.put (if frame.ownsLock then none else state.orderbookMutex) thread below)

/-- A call from outside finds the mutex free. -/
def FindsFree (state : Threads Thread) : Event Thread → Prop
  | .call _ _ => state.orderbookMutex = none
  | .nest _ => True
  | .leave _ => True

instance FindsFree.decidable (state : Threads Thread) (event : Event Thread) :
    Decidable (state.FindsFree event) :=
  match event with
  | .call _ _ => inferInstanceAs (Decidable (state.orderbookMutex = none))
  | .nest _ => isTrue trivial
  | .leave _ => isTrue trivial

/-! ### What a step preserves -/

variable {state next : Threads Thread} {thread other : Thread}

theorem enter_free (free : state.orderbookMutex = none) (body : Body) (below : List Frame) :
    state.enter thread body below =
      state.put (some thread) thread ({ body := body, ownsLock := true } :: below) := by
  unfold enter
  rw [free]

theorem enter_taken {owner : Thread} (taken : state.orderbookMutex = some owner) (body : Body)
    (below : List Frame) :
    state.enter thread body below =
      state.put (some owner) thread ({ body := body, ownsLock := false } :: below) := by
  unfold enter
  rw [taken]

@[simp]
theorem put_frames_self (owner : Option Thread) (frames : List Frame) :
    (state.put owner thread frames).frames thread = frames := by
  simp [put]

theorem put_frames_of_ne (different : other ≠ thread) (owner : Option Thread)
    (frames : List Frame) : (state.put owner thread frames).frames other = state.frames other := by
  simp [put, different]

/-- One thread changes its calls, and the mutex ends with it exactly when it is inside. -/
theorem locked_put {owner : Option Thread} {frames : List Frame}
    (own : owner = some thread ↔ frames ≠ []) (bottom : OwnsAtBottom frames)
    (others : ∀ other, other ≠ thread → (owner = some other ↔ state.Inside other))
    (bottoms : ∀ other, OwnsAtBottom (state.frames other)) :
    (state.put owner thread frames).Locked where
  owner := by
    intro other
    by_cases same : other = thread
    · subst same
      unfold Inside
      rw [put_frames_self]
      exact own
    · unfold Inside
      rw [put_frames_of_ne same]
      exact others other same
  bottom := by
    intro other
    by_cases same : other = thread
    · subst same
      rw [put_frames_self]
      exact bottom
    · rw [put_frames_of_ne same]
      exact bottoms other

theorem Locked.call (locked : state.Locked) (free : state.orderbookMutex = none) (body : Body) :
    (state.enter thread body []).Locked := by
  rw [enter_free free]
  refine locked_put ?_ rfl ?_ locked.bottom
  · exact ⟨fun _ => List.cons_ne_nil _ _, fun _ => rfl⟩
  · intro other different
    constructor
    · intro owner
      exact absurd (Option.some.inj owner).symm different
    · intro inside
      have owner := (locked.owner other).mpr inside
      rw [free] at owner
      cases owner

theorem Locked.nest (locked : state.Locked) {frame : Frame} {below : List Frame}
    (stack : state.frames thread = frame :: below) (callee after : Body) :
    (state.enter thread callee ({ frame with body := after } :: below)).Locked := by
  have owner := locked.owner_of_stack stack
  have bottom := locked.bottom thread
  rw [stack] at bottom
  rw [enter_taken owner]
  refine locked_put ?_ ?_ (locked.others owner) locked.bottom
  · exact ⟨fun _ => List.cons_ne_nil _ _, fun _ => rfl⟩
  · exact (ownsAtBottom_cons (List.cons_ne_nil _ _)).mpr
      ⟨rfl, (ownsAtBottom_rebody after frame below).mpr bottom⟩

theorem Locked.leave (locked : state.Locked) {frame : Frame} {below : List Frame}
    (stack : state.frames thread = frame :: below) :
    (state.put (if frame.ownsLock then none else state.orderbookMutex) thread below).Locked := by
  have owner := locked.owner_of_stack stack
  have bottom := locked.bottom thread
  rw [stack] at bottom
  cases below with
  | cons outer rest =>
      obtain ⟨notOwner, bottomBelow⟩ := (ownsAtBottom_cons (List.cons_ne_nil _ _)).mp bottom
      rw [notOwner, if_neg Bool.false_ne_true, owner]
      refine locked_put ?_ bottomBelow (locked.others owner) locked.bottom
      exact ⟨fun _ => List.cons_ne_nil _ _, fun _ => rfl⟩
  | nil =>
      have owns : frame.ownsLock = true := bottom
      rw [owns, if_pos rfl]
      refine locked_put ?_ trivial ?_ locked.bottom
      · constructor
        · intro impossible
          cases impossible
        · intro inside
          exact absurd rfl inside
      · intro other different
        constructor
        · intro none
          cases none
        · intro inside
          have otherOwner := (locked.owner other).mpr inside
          exact absurd (Option.some.inj (otherOwner.symm.trans owner)) different

theorem Locked.step {event : Event Thread} (locked : state.Locked)
    (free : state.FindsFree event) (taken : state.step event = .ok next) : next.Locked := by
  cases event with
  | call thread operation =>
      simp only [Threads.step] at taken
      cases stack : state.frames thread with
      | cons frame below =>
          rw [stack] at taken
          cases taken
      | nil =>
          rw [stack] at taken
          rw [← Except.ok.inj taken]
          exact locked.call free operation.body
  | nest thread =>
      simp only [Threads.step] at taken
      cases stack : state.frames thread with
      | nil =>
          rw [stack] at taken
          cases taken
      | cons frame below =>
          rw [stack] at taken
          simp only at taken
          cases nested : nestedCall frame.body with
          | none =>
              rw [nested] at taken
              cases taken
          | some calls =>
              rw [nested] at taken
              rw [← Except.ok.inj taken]
              exact locked.nest stack calls.1 calls.2
  | leave thread =>
      simp only [Threads.step] at taken
      cases stack : state.frames thread with
      | nil =>
          rw [stack] at taken
          cases taken
      | cons frame below =>
          rw [stack] at taken
          simp only at taken
          split at taken
          · cases taken
          · rw [← Except.ok.inj taken]
            exact locked.leave stack

/-- A call that finds the mutex taken goes on beside the thread that has it. -/
theorem Locked.broken {event : Event Thread} (locked : state.Locked)
    (notFree : ¬state.FindsFree event) (taken : state.step event = .ok next) :
    ¬next.Exclusive := by
  intro exclusive
  cases event with
  | call thread operation =>
      obtain ⟨owner, owned⟩ := Option.ne_none_iff_exists'.mp notFree
      have ownerInside := (locked.owner owner).mp owned
      simp only [Threads.step] at taken
      cases stack : state.frames thread with
      | cons frame below =>
          rw [stack] at taken
          cases taken
      | nil =>
          have different : owner ≠ thread := by
            intro same
            rw [same] at ownerInside
            exact ownerInside stack
          rw [stack] at taken
          have after := Except.ok.inj taken
          rw [enter_taken owned] at after
          rw [← after] at exclusive
          refine different (exclusive.alone owner thread ?_ ?_)
          · unfold Inside
            rw [put_frames_of_ne different]
            exact ownerInside
          · unfold Inside
            rw [put_frames_self]
            exact List.cons_ne_nil _ _
  | nest thread => exact notFree trivial
  | leave thread => exact notFree trivial

/-! ### Runs -/

/-- The operations exclude each other all along a run exactly when every call from outside
finds the mutex free. -/
theorem exclusive_iff_findsFree {events : List (Event Thread)} {finish : Threads Thread}
    (reached : run step idle events = .ok finish) :
    Guarded step FindsFree idle events ↔ Always step Exclusive idle events :=
  guarded_iff_always (fun _ locked => locked.exclusive)
    (fun _ _ _ locked free taken => locked.step free taken)
    (fun _ _ _ locked notFree taken => locked.broken notFree taken) idle_locked reached

/-- One thread changes the price of an order while no other one calls; another one adds an
order after that. -/
def oneAfterAnother : List (Event Nat) :=
  [.call 1 .modifyOrder, .nest 1, .leave 1, .nest 1, .leave 1, .leave 1, .call 2 .addOrder,
    .leave 2]

theorem oneAfterAnother_exclusive : Always step Exclusive idle oneAfterAnother := by
  have evaluated : (run step idle oneAfterAnother).toOption.map (fun _ => ()) = some () := by
    decide +kernel
  obtain ⟨finish, reached, _seen⟩ := returns_of_view evaluated
  exact (exclusive_iff_findsFree reached).mp (by decide +kernel)

/-- A second thread adds an order while the first one is adding its own. -/
theorem two_threads_add_together :
    ∃ state, run step idle [.call 1 .addOrder, .call 2 .addOrder] = .ok state ∧
      state.Inside 1 ∧ state.Inside (2 : Nat) ∧ ¬state.Exclusive := by
  have evaluated : (run step idle [.call 1 .addOrder, .call 2 .addOrder]).toOption.map
      (fun state => (state.frames 1, state.frames (2 : Nat))) =
        some ([{ body := .addOrder, ownsLock := true }],
          [{ body := .addOrder, ownsLock := false }]) := by decide +kernel
  obtain ⟨state, reached, seen⟩ := returns_of_view evaluated
  obtain ⟨first, second⟩ := Prod.mk.inj seen
  have inside : state.Inside 1 := by
    unfold Inside
    rw [first]
    exact List.cons_ne_nil _ _
  have otherInside : state.Inside 2 := by
    unfold Inside
    rw [second]
    exact List.cons_ne_nil _ _
  refine ⟨state, reached, inside, otherInside, ?_⟩
  intro exclusive
  exact absurd (exclusive.alone 1 2 inside otherInside) (by decide)

end Threads

end Exclusion
end Engine
end SpotExchange
