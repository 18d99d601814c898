/-
Programs whose actions are atomic and answer with a truth value. A program can be run
alone, from its first action to its last, or its actions can be interleaved with those of
other programs. Rules of pre- and postconditions are for programs that run alone.
-/

import Mathlib.Algebra.GroupWithZero.Nat
import Mathlib.Algebra.Order.BigOperators.Group.List
import SpotExchange.Machine.Run

namespace SpotExchange
namespace Machine

universe u v w

inductive Program (Action : Type u) (α : Type) where
  | done (value : α)
  | act (action : Action) (next : Bool → Program Action α)

namespace Program

variable {State : Type} {Action : Type u} {Problem : Type w} {α β Item : Type}

def bind : Program Action α → (α → Program Action β) → Program Action β
  | .done value, following => following value
  | .act action next, following => .act action (fun answer => (next answer).bind following)

instance : Monad (Program Action) where
  pure := .done
  bind := bind

def ask (action : Action) : Program Action Bool :=
  .act action (fun answer => .done answer)

def perform (action : Action) : Program Action Unit :=
  .act action (fun _ => .done ())

/-- A program for each item, one after the other. -/
def each (body : Item → Program Action Unit) : List Item → Program Action Unit
  | [] => .done ()
  | item :: rest => body item >>= fun _ => each body rest

def alone (effect : State → Action → Except Problem (Bool × State)) :
    Program Action α → State → Except Problem (α × State)
  | .done value, state => .ok (value, state)
  | .act action next, state =>
      match effect state action with
      | .error problem => .error problem
      | .ok (answer, following) => (next answer).alone effect following

variable {effect : State → Action → Except Problem (Bool × State)}

theorem alone_bind (program : Program Action α) (following : α → Program Action β)
    (state : State) :
    (program >>= following).alone effect state =
      match program.alone effect state with
      | .error problem => .error problem
      | .ok (value, middle) => (following value).alone effect middle := by
  change (program.bind following).alone effect state = _
  induction program generalizing state with
  | done value => rfl
  | act action next ih =>
      simp only [bind, alone]
      cases effect state action with
      | error problem => rfl
      | ok outcome => exact ih outcome.1 outcome.2

/-! ### Pre- and postconditions -/

/-- What a program that runs alone leaves behind, if it returns. -/
def Ensures (effect : State → Action → Except Problem (Bool × State)) (before : State → Prop)
    (program : Program Action α) (after : α → State → Prop) : Prop :=
  ∀ state value finish, before state → program.alone effect state = .ok (value, finish) →
    after value finish

namespace Ensures

variable {before middle : State → Prop} {after : α → State → Prop}

theorem done {value : α} (holds : ∀ state, before state → after value state) :
    Ensures effect before (pure value) after := by
  intro state result finish here returned
  cases returned
  exact holds state here

theorem ask {action : Action} {answered : Bool → State → Prop}
    (holds : ∀ state answer next, before state → effect state action = .ok (answer, next) →
      answered answer next) :
    Ensures effect before (Program.ask action) answered := by
  intro state value finish here returned
  simp only [Program.ask, alone] at returned
  cases taken : effect state action with
  | error problem =>
      rw [taken] at returned
      cases returned
  | ok outcome =>
      rw [taken] at returned
      cases returned
      exact holds state outcome.1 outcome.2 here taken

theorem perform {action : Action} {performed : State → Prop}
    (holds : ∀ state answer next, before state → effect state action = .ok (answer, next) →
      performed next) :
    Ensures effect before (Program.perform action) (fun _ => performed) := by
  intro state value finish here returned
  simp only [Program.perform, alone] at returned
  cases taken : effect state action with
  | error problem =>
      rw [taken] at returned
      cases returned
  | ok outcome =>
      rw [taken] at returned
      cases returned
      exact holds state outcome.1 outcome.2 here taken

theorem bind {program : Program Action β} {following : β → Program Action α}
    {between : β → State → Prop} (first : Ensures effect before program between)
    (second : ∀ value, Ensures effect (between value) (following value) after) :
    Ensures effect before (program >>= following) after := by
  intro state value finish here returned
  rw [alone_bind] at returned
  cases ran : program.alone effect state with
  | error problem =>
      rw [ran] at returned
      cases returned
  | ok outcome =>
      rw [ran] at returned
      exact second outcome.1 outcome.2 value finish (first state outcome.1 outcome.2 here ran)
        returned

theorem weaken {program : Program Action α} {stronger : State → Prop}
    (ensures : Ensures effect before program after)
    (implies : ∀ state, stronger state → before state) :
    Ensures effect stronger program after :=
  fun state value finish here returned =>
    ensures state value finish (implies state here) returned

theorem conclude {program : Program Action α} {weaker : α → State → Prop}
    (ensures : Ensures effect before program after)
    (implies : ∀ value state, after value state → weaker value state) :
    Ensures effect before program weaker :=
  fun state value finish here returned =>
    implies value finish (ensures state value finish here returned)

/-- A branch on an answer that the state before has settled. -/
theorem branch {answer : Bool} {yes no : Program Action α}
    (whenTrue : answer = true → Ensures effect before yes after)
    (whenFalse : answer = false → Ensures effect before no after) :
    Ensures effect before (if answer then yes else no) after := by
  cases answer with
  | true => exact whenTrue rfl
  | false => exact whenFalse rfl

theorem each {body : Item → Program Action Unit} {items : List Item}
    (preserved : ∀ item ∈ items, Ensures effect before (body item) (fun _ => before)) :
    Ensures effect before (Program.each body items) (fun _ => before) := by
  induction items with
  | nil => exact done (fun _ here => here)
  | cons item rest ih =>
      have later := ih (fun other member => preserved other (List.mem_cons_of_mem item member))
      exact bind (preserved item List.mem_cons_self) (fun _ => later)

end Ensures

/-! ### Programs of allowed actions -/

/-- Every action of the program, whatever the answers are, is an allowed one. -/
def All (allowed : Action → Prop) : Program Action α → Prop
  | .done _ => True
  | .act action next => allowed action ∧ ∀ answer, (next answer).All allowed

namespace All

variable {allowed : Action → Prop} {program : Program Action α} {holds : State → Prop}

theorem perform {action : Action} (permitted : allowed action) :
    (Program.perform action).All allowed :=
  ⟨permitted, fun _ => trivial⟩

theorem ask {action : Action} (permitted : allowed action) : (Program.ask action).All allowed :=
  ⟨permitted, fun _ => trivial⟩

theorem bind {following : α → Program Action β} (all : program.All allowed)
    (later : ∀ value, (following value).All allowed) : (program >>= following).All allowed := by
  change (program.bind following).All allowed
  induction program with
  | done value => exact later value
  | act action next ih => exact ⟨all.1, fun answer => ih answer (all.2 answer)⟩

theorem branch {answer : Bool} {yes no : Program Action α} (allYes : yes.All allowed)
    (allNo : no.All allowed) : (if answer then yes else no).All allowed := by
  cases answer with
  | true => exact allYes
  | false => exact allNo

theorem each {body : Item → Program Action Unit} (all : ∀ item, (body item).All allowed)
    (items : List Item) : (Program.each body items).All allowed := by
  induction items with
  | nil => trivial
  | cons item rest ih => exact (all item).bind (fun _ => ih)

theorem mono {more : Action → Prop} (all : program.All allowed)
    (implies : ∀ action, allowed action → more action) : program.All more := by
  induction program with
  | done value => trivial
  | act action next ih => exact ⟨implies action all.1, fun answer => ih answer (all.2 answer)⟩

/-- What every allowed action preserves, a program of such actions preserves. -/
theorem ensures (all : program.All allowed)
    (preserves : ∀ state action answer next, holds state → allowed action →
      effect state action = .ok (answer, next) → holds next) :
    Ensures effect holds program (fun _ => holds) := by
  induction program with
  | done value =>
      intro state result finish here returned
      cases returned
      exact here
  | act action next ih =>
      intro state result finish here returned
      simp only [alone] at returned
      cases performed : effect state action with
      | error problem =>
          rw [performed] at returned
          cases returned
      | ok outcome =>
          rw [performed] at returned
          have still := preserves state action outcome.1 outcome.2 here all.1 performed
          exact ih outcome.1 (all.2 outcome.1) outcome.2 result finish still returned

/-- Where every allowed action succeeds, a program of such actions comes to its end. -/
theorem returns (all : program.All allowed)
    (succeeds : ∀ state action, allowed action →
      ∃ answer next, effect state action = .ok (answer, next)) (state : State) :
    ∃ value finish, program.alone effect state = .ok (value, finish) := by
  induction program generalizing state with
  | done value => exact ⟨value, state, rfl⟩
  | act action next ih =>
      obtain ⟨answer, after, performed⟩ := succeeds state action all.1
      obtain ⟨value, finish, ran⟩ := ih answer (all.2 answer) after
      refine ⟨value, finish, ?_⟩
      simp only [alone, performed]
      exact ran

end All

/-! ### Permits -/

/-- The most that the actions of a program cost together, over all answers. -/
def permits (cost : Action → Nat) : Program Action α → Nat
  | .done _ => 0
  | .act action next => cost action + max ((next true).permits cost) ((next false).permits cost)

section Permits

variable {cost : Action → Nat}

end Permits

end Program

/-! ### Programs alone and programs interleaved -/

section Handling

variable {State : Type} {Action : Type u} {Input : Type v} {Problem : Type w}

/-- An input that starts a program, which runs to its end before the next input. -/
def handle (deliver : State → Input → Except Problem (State × Program Action Unit))
    (effect : State → Action → Except Problem (Bool × State)) (state : State) (input : Input) :
    Except Problem State :=
  match deliver state input with
  | .error problem => .error problem
  | .ok (delivered, program) => (program.alone effect delivered).map Prod.snd

structure Threads (State : Type) (Action : Type u) where
  state : State
  running : List (Program Action Unit)

/-- An input starts a thread; a thread takes its next action, or ends. -/
inductive Turn (Input : Type v) where
  | start (input : Input)
  | advance (thread : Nat)

namespace Threads

def step (deliver : State → Input → Except Problem (State × Program Action Unit))
    (effect : State → Action → Except Problem (Bool × State)) (threads : Threads State Action) :
    Turn Input → Except Problem (Threads State Action)
  | .start input =>
      match deliver threads.state input with
      | .error problem => .error problem
      | .ok (delivered, program) =>
          .ok { state := delivered
                running := threads.running ++ [program] }
  | .advance thread =>
      match threads.running[thread]? with
      | none => .ok threads
      | some (.done _) => .ok { threads with running := threads.running.eraseIdx thread }
      | some (.act action next) =>
          match effect threads.state action with
          | .error problem => .error problem
          | .ok (answer, following) =>
              .ok { state := following
                    running := threads.running.set thread (next answer) }

/-- The action that a turn performs. -/
def action (threads : Threads State Action) : Turn Input → Option Action
  | .start _ => none
  | .advance thread =>
      match threads.running[thread]? with
      | some (.act action _) => some action
      | _ => none

variable {deliver : State → Input → Except Problem (State × Program Action Unit)}
  {effect : State → Action → Except Problem (Bool × State)}

/-- What the deliveries and the allowed actions preserve, every turn preserves. -/
theorem step_preserves (allowed : State → Action → Prop) {holds : State → Prop}
    (delivers : ∀ state input next program, holds state →
      deliver state input = .ok (next, program) → holds next)
    (acts : ∀ state action answer next, holds state → allowed state action →
      effect state action = .ok (answer, next) → holds next)
    {threads next : Threads State Action} {turn : Turn Input} (here : holds threads.state)
    (permitted : ∀ action, threads.action turn = some action → allowed threads.state action)
    (taken : threads.step deliver effect turn = .ok next) : holds next.state := by
  cases turn with
  | start input =>
      simp only [step] at taken
      split at taken
      · cases taken
      · rename_i delivered program started
        cases taken
        exact delivers threads.state input delivered program here started
  | advance thread =>
      simp only [step] at taken
      split at taken
      · cases taken
        exact here
      · cases taken
        exact here
      · rename_i action following found
        split at taken
        · cases taken
        · rename_i answer state performed
          cases taken
          apply acts threads.state action answer state here _ performed
          apply permitted action
          simp only [Threads.action, found]

/-- A list around one of its items. -/
theorem exists_around {Item : Type*} {items : List Item} {position : Nat} {item : Item}
    (found : items[position]? = some item) :
    ∃ front back, items = front ++ item :: back ∧ items.eraseIdx position = front ++ back ∧
      ∀ other, items.set position other = front ++ other :: back := by
  induction items generalizing position with
  | nil => cases found
  | cons first rest ih =>
      cases position with
      | zero =>
          cases found
          exact ⟨[], rest, rfl, rfl, fun _ => rfl⟩
      | succ position =>
          obtain ⟨front, back, whole, erased, written⟩ := ih found
          exact ⟨first :: front, back, congrArg _ whole, congrArg _ erased,
            fun other => congrArg _ (written other)⟩

/-- An item weighs at most what all of them weigh. -/
theorem weight_le_sum {Item : Type*} {items : List Item} {position : Nat} {item : Item}
    (weight : Item → Nat) (found : items[position]? = some item) :
    weight item ≤ (items.map weight).sum := by
  obtain ⟨front, back, whole, -, -⟩ := exists_around found
  rw [whole, List.map_append, List.map_cons, List.sum_append, List.sum_cons]
  omega

/-- Two items weigh together at most what all of them weigh. -/
theorem weights_le_sum {Item : Type*} {items : List Item} {left right : Nat}
    {first second : Item} (weight : Item → Nat) (before : left < right)
    (foundFirst : items[left]? = some first) (foundSecond : items[right]? = some second) :
    weight first + weight second ≤ (items.map weight).sum := by
  induction items generalizing left right with
  | nil => cases foundFirst
  | cons item rest ih =>
      rw [List.map_cons, List.sum_cons]
      cases right with
      | zero => exact absurd before (Nat.not_lt_zero left)
      | succ right =>
          rw [List.getElem?_cons_succ] at foundSecond
          cases left with
          | zero =>
              cases foundFirst
              exact Nat.add_le_add_left (weight_le_sum weight foundSecond) _
          | succ left =>
              exact Nat.le_trans (ih (Nat.lt_of_succ_lt_succ before) foundFirst foundSecond)
                (Nat.le_add_left _ _)

/-- The permits that a state holds and those that the running programs may use. -/
def permits (cost : Action → Nat) (held : State → Nat) (threads : Threads State Action) : Nat :=
  held threads.state + (threads.running.map (Program.permits cost)).sum

/-- A program that runs alone is a thread that takes all turns. -/
theorem alone_interleaves
    (deliver : State → Input → Except Problem (State × Program Action Unit))
    (program : Program Action Unit) {state finish : State}
    (ran : program.alone effect state = .ok ((), finish)) :
    ∃ turns : List (Turn Input),
      run (step deliver effect) { state := state, running := [program] } turns =
        .ok { state := finish, running := [] } := by
  induction program generalizing state with
  | done value =>
      cases ran
      exact ⟨[.advance 0], rfl⟩
  | act action next ih =>
      simp only [Program.alone] at ran
      split at ran
      · cases ran
      · rename_i answer following performed
        obtain ⟨turns, reached⟩ := ih answer ran
        refine ⟨.advance 0 :: turns, ?_⟩
        have moved :
            step deliver effect { state := state, running := [Program.act action next] }
                (Turn.advance 0) =
              .ok { state := following, running := [next answer] } := by
          simp only [step, List.getElem?_cons_zero, performed, List.set_cons_zero]
        simp only [run, moved]
        exact reached

/-- Handlers that run one after the other are one way to interleave them. -/
theorem handle_interleaves {inputs : List Input} {state finish : State}
    (reached : run (handle deliver effect) state inputs = .ok finish) :
    ∃ turns : List (Turn Input),
      run (step deliver effect) { state := state, running := [] } turns =
        .ok { state := finish, running := [] } := by
  induction inputs generalizing state with
  | nil =>
      cases reached
      exact ⟨[], rfl⟩
  | cons input rest ih =>
      simp only [run] at reached
      split at reached
      · cases reached
      · rename_i next handled
        unfold handle at handled
        split at handled
        · cases handled
        · rename_i delivered program started
          obtain ⟨outcome, ran, same⟩ := map_eq_ok handled
          rw [← same] at reached
          obtain ⟨own, ended⟩ := alone_interleaves deliver program ran
          obtain ⟨later, finished⟩ := ih reached
          refine ⟨.start input :: (own ++ later), ?_⟩
          have begun :
              step deliver effect { state := state, running := [] } (.start input) =
                .ok { state := delivered, running := [program] } := by
            simp only [step, started, List.nil_append]
          simp only [run, begun]
          rw [run_append ended later]
          exact finished

end Threads

end Handling

end Machine
end SpotExchange
