/-
Machines whose steps may fault: sequencing of faulting computations, runs over a
list of inputs, and the induction that carries an invariant along a run. A run
stops at the first fault, so a state that is reached is reached by steps that
all returned.
-/

import Mathlib.Init

namespace SpotExchange
namespace Machine

universe u v w

/-- The problem of a machine whose events may be impossible in a state. -/
inductive Disabled where
  | disabled
  deriving DecidableEq, Repr

section Sequencing

variable {Problem : Type u} {α β : Type v}

@[simp]
theorem ok_bind (value : α) (next : α → Except Problem β) :
    (Except.ok value >>= next) = next value := rfl

@[simp]
theorem error_bind (problem : Problem) (next : α → Except Problem β) :
    (Except.error problem >>= next) = Except.error problem := rfl

/-- A computation that returns has returned at each of its steps. -/
theorem bind_eq_ok {computation : Except Problem α} {next : α → Except Problem β} {result : β}
    (returned : (computation >>= next) = .ok result) :
    ∃ value, computation = .ok value ∧ next value = .ok result := by
  cases computation with
  | error problem => cases returned
  | ok value => exact ⟨value, rfl, returned⟩

theorem map_eq_ok {computation : Except Problem α} {view : α → β} {result : β}
    (returned : computation.map view = .ok result) :
    ∃ value, computation = .ok value ∧ view value = result := by
  cases computation with
  | error problem => cases returned
  | ok value => exact ⟨value, rfl, Except.ok.inj returned⟩

/-- A computation whose view has been evaluated has returned something with that view. -/
theorem returns_of_view {γ : Type w} {computation : Except Problem α} {view : α → γ} {seen : γ}
    (evaluated : computation.toOption.map view = some seen) :
    ∃ value, computation = .ok value ∧ view value = seen := by
  cases computation with
  | error problem => cases evaluated
  | ok value => exact ⟨value, rfl, Option.some.inj evaluated⟩

/-- The computation does not end with one of the given problems. -/
def Avoids (bad : Problem → Prop) (computation : Except Problem α) : Prop :=
  ∀ problem, computation = .error problem → ¬bad problem

section Avoids

variable {bad : Problem → Prop} {computation : Except Problem α}

theorem Avoids.ok (value : α) : Avoids bad (Except.ok value : Except Problem α) := by
  intro problem failed
  cases failed

theorem Avoids.error {problem : Problem} (harmless : ¬bad problem) :
    Avoids bad (Except.error problem : Except Problem α) := by
  intro other failed
  cases failed
  exact harmless

theorem Avoids.bind {next : α → Except Problem β} (first : Avoids bad computation)
    (later : ∀ value, computation = .ok value → Avoids bad (next value)) :
    Avoids bad (computation >>= next) := by
  cases computed : computation with
  | error problem =>
      intro other failed
      cases failed
      exact first problem computed
  | ok value => exact later value computed

theorem Avoids.map {view : α → β} (avoids : Avoids bad computation) :
    Avoids bad (computation.map view) := by
  cases computed : computation with
  | error problem =>
      intro other failed
      cases failed
      exact avoids problem computed
  | ok value => exact Avoids.ok (view value)

end Avoids

end Sequencing

variable {State : Type u} {Input : Type v} {Problem : Type w}

def run (step : State → Input → Except Problem State) : State → List Input → Except Problem State
  | state, [] => .ok state
  | state, input :: rest =>
      match step state input with
      | .error problem => .error problem
      | .ok next => run step next rest

theorem run_singleton {step : State → Input → Except Problem State} {state next : State}
    {input : Input} (taken : step state input = .ok next) : run step state [input] = .ok next := by
  simp only [run, taken]

theorem run_append {step : State → Input → Except Problem State} {start middle : State}
    {front : List Input} (reached : run step start front = .ok middle) (back : List Input) :
    run step start (front ++ back) = run step middle back := by
  induction front generalizing start with
  | nil =>
      cases reached
      rfl
  | cons input rest ih =>
      simp only [run, List.cons_append] at reached ⊢
      cases taken : step start input with
      | error problem =>
          rw [taken] at reached
          cases reached
      | ok next =>
          rw [taken] at reached
          exact ih reached

theorem run_append_error {step : State → Input → Except Problem State} {start : State}
    {front : List Input} {problem : Problem} (failed : run step start front = .error problem)
    (back : List Input) : run step start (front ++ back) = .error problem := by
  induction front generalizing start with
  | nil => cases failed
  | cons input rest ih =>
      simp only [run, List.cons_append] at failed ⊢
      cases taken : step start input with
      | error other =>
          rw [taken] at failed
          exact failed
      | ok next =>
          rw [taken] at failed
          exact ih failed

/-- A run that fails does so at one of its inputs, after steps that all returned. -/
theorem run_eq_error {step : State → Input → Except Problem State} {start : State}
    {inputs : List Input} {problem : Problem} (failed : run step start inputs = .error problem) :
    ∃ earlier input later state, inputs = earlier ++ input :: later ∧
      run step start earlier = .ok state ∧ step state input = .error problem := by
  induction inputs generalizing start with
  | nil => cases failed
  | cons input rest ih =>
      simp only [run] at failed
      cases taken : step start input with
      | error other =>
          rw [taken] at failed
          cases failed
          exact ⟨[], input, rest, start, rfl, rfl, taken⟩
      | ok next =>
          rw [taken] at failed
          obtain ⟨earlier, last, later, state, split, reached, fails⟩ := ih failed
          refine ⟨input :: earlier, last, later, state, ?_, ?_, fails⟩
          · rw [split]
            rfl
          · simp only [run, taken]
            exact reached

/-- Each input of the run meets `allowed` in the state in which it arrives. -/
def Guarded (step : State → Input → Except Problem State) (allowed : State → Input → Prop) :
    State → List Input → Prop
  | _, [] => True
  | state, input :: rest =>
      allowed state input ∧
        ∀ next, step state input = .ok next → Guarded step allowed next rest

variable {step : State → Input → Except Problem State} {allowed : State → Input → Prop}
  {holds : State → Prop}

theorem Guarded.front {start : State} {front back : List Input}
    (guarded : Guarded step allowed start (front ++ back)) : Guarded step allowed start front := by
  induction front generalizing start with
  | nil => trivial
  | cons input rest ih =>
      refine ⟨guarded.1, ?_⟩
      intro next taken
      exact ih (guarded.2 next taken)

/-- What every allowed step preserves holds at the end of every guarded run. -/
theorem Guarded.invariant
    (preserved : ∀ state input next, holds state → allowed state input →
      step state input = .ok next → holds next)
    {start finish : State} {inputs : List Input} (initially : holds start)
    (guarded : Guarded step allowed start inputs)
    (reached : run step start inputs = .ok finish) : holds finish := by
  induction inputs generalizing start with
  | nil =>
      cases reached
      exact initially
  | cons input rest ih =>
      unfold run at reached
      cases taken : step start input with
      | error problem =>
          rw [taken] at reached
          cases reached
      | ok next =>
          rw [taken] at reached
          exact ih (preserved start input next initially guarded.1 taken)
            (guarded.2 next taken) reached

/-- Where nothing is asked of the inputs, every run is guarded. -/
theorem Guarded.unasked (step : State → Input → Except Problem State) (start : State)
    (inputs : List Input) : Guarded step (fun _ _ => True) start inputs := by
  induction inputs generalizing start with
  | nil => trivial
  | cons input rest ih => exact ⟨trivial, fun next _taken => ih next⟩

/-- Inputs that are allowed in every state. -/
theorem Guarded.listed {permitted : Input → Prop} {start : State} {inputs : List Input}
    (all : ∀ input ∈ inputs, permitted input) :
    Guarded step (fun _ input => permitted input) start inputs := by
  induction inputs generalizing start with
  | nil => trivial
  | cons input rest ih =>
      obtain ⟨here, later⟩ := List.forall_mem_cons.mp all
      exact ⟨here, fun next _taken => ih later⟩

/-- What every step preserves holds at the end of every run. -/
theorem run_invariant
    (preserved : ∀ state input next, holds state → step state input = .ok next → holds next)
    {start finish : State} {inputs : List Input} (initially : holds start)
    (reached : run step start inputs = .ok finish) : holds finish :=
  (Guarded.unasked step start inputs).invariant
    (fun state input next here _permitted taken => preserved state input next here taken)
    initially reached

/-- Where every step from a good state avoids some problems, every run avoids them. -/
theorem run_avoids {bad : Problem → Prop}
    (preserved : ∀ state input next, holds state → step state input = .ok next → holds next)
    (avoids : ∀ state input, holds state → Avoids bad (step state input))
    {start : State} (initially : holds start) (inputs : List Input) :
    Avoids bad (run step start inputs) := by
  induction inputs generalizing start with
  | nil => exact Avoids.ok start
  | cons input rest ih =>
      unfold run
      cases taken : step start input with
      | error problem =>
          apply Avoids.error
          exact avoids start input initially problem taken
      | ok next => exact ih (preserved start input next initially taken)

/-- Each step is matched by a schedule of another machine, empty or of several steps, in which
the same is read. -/
theorem Guarded.scheduled {Other Move Trouble Reading : Type*}
    {move : Other → Move → Except Trouble Other} {agree : State → Other → Prop}
    {reads : Input → List Reading} {readings : Move → List Reading}
    (follows : ∀ state other input next, agree state other → allowed state input →
      step state input = .ok next → ∃ schedule after, run move other schedule = .ok after ∧
        agree next after ∧ schedule.flatMap readings = reads input)
    {start finish : State} {other : Other} {inputs : List Input} (initially : agree start other)
    (guarded : Guarded step allowed start inputs) (reached : run step start inputs = .ok finish) :
    ∃ schedule after, run move other schedule = .ok after ∧ agree finish after ∧
      schedule.flatMap readings = inputs.flatMap reads := by
  induction inputs generalizing start other with
  | nil =>
      cases reached
      exact ⟨[], other, rfl, initially, rfl⟩
  | cons input rest ih =>
      obtain ⟨permitted, onwards⟩ := guarded
      simp only [run] at reached
      split at reached
      · cases reached
      · rename_i next taken
        obtain ⟨first, middle, moved, agrees, same⟩ :=
          follows start other input next initially permitted taken
        obtain ⟨later, after, finished, agreed, sameLater⟩ :=
          ih agrees (onwards next taken) reached
        refine ⟨first ++ later, after, ?_, agreed, ?_⟩
        · rw [run_append moved]
          exact finished
        · rw [List.flatMap_append, List.flatMap_cons, same, sameLater]

/-- Where every allowed step from a good state returns, a guarded run returns. -/
theorem Guarded.returns
    (total : ∀ state input, holds state → allowed state input →
      ∃ next, step state input = .ok next ∧ holds next)
    {start : State} {inputs : List Input} (initially : holds start)
    (guarded : Guarded step allowed start inputs) :
    ∃ finish, run step start inputs = .ok finish ∧ holds finish := by
  induction inputs generalizing start with
  | nil => exact ⟨start, rfl, initially⟩
  | cons input rest ih =>
      obtain ⟨next, taken, good⟩ := total start input initially guarded.1
      obtain ⟨finish, reached, goodFinish⟩ := ih good (guarded.2 next taken)
      refine ⟨finish, ?_, goodFinish⟩
      simp only [run, taken]
      exact reached

/-- Where every step from a good state returns, every run returns. -/
theorem run_returns
    (total : ∀ state input, holds state → ∃ next, step state input = .ok next ∧ holds next)
    {start : State} (initially : holds start) (inputs : List Input) :
    ∃ finish, run step start inputs = .ok finish ∧ holds finish := by
  induction inputs generalizing start with
  | nil => exact ⟨start, rfl, initially⟩
  | cons input rest ih =>
      obtain ⟨next, taken, good⟩ := total start input initially
      obtain ⟨finish, reached, goodFinish⟩ := ih good
      refine ⟨finish, ?_, goodFinish⟩
      simp only [run, taken]
      exact reached

/-- Where every allowed step does to a view of the state what a function does, a guarded
run does what folding the function does. -/
theorem Guarded.refines {View : Type*} {view : State → View} {apply : View → Input → View}
    (simulates : ∀ state input, holds state → allowed state input →
      ∃ next, step state input = .ok next ∧ holds next ∧ view next = apply (view state) input)
    {start : State} {inputs : List Input} (initially : holds start)
    (guarded : Guarded step allowed start inputs) :
    ∃ finish, run step start inputs = .ok finish ∧ holds finish ∧
      view finish = inputs.foldl apply (view start) := by
  induction inputs generalizing start with
  | nil => exact ⟨start, rfl, initially, rfl⟩
  | cons input rest ih =>
      obtain ⟨next, taken, good, seen⟩ := simulates start input initially guarded.1
      obtain ⟨finish, reached, goodFinish, same⟩ := ih good (guarded.2 next taken)
      refine ⟨finish, ?_, goodFinish, ?_⟩
      · simp only [run, taken]
        exact reached
      · rw [same, seen, List.foldl_cons]

/-- In a guarded run whose allowed steps return, each input is allowed in the state in
which it arrives, and that state is a good one. -/
theorem Guarded.each
    (total : ∀ state input, holds state → allowed state input →
      ∃ next, step state input = .ok next ∧ holds next)
    {start : State} {earlier later : List Input} {input : Input} (initially : holds start)
    (guarded : Guarded step allowed start (earlier ++ input :: later)) :
    ∃ state, run step start earlier = .ok state ∧ holds state ∧ allowed state input := by
  induction earlier generalizing start with
  | nil => exact ⟨start, rfl, initially, guarded.1⟩
  | cons first rest ih =>
      obtain ⟨next, taken, good⟩ := total start first initially guarded.1
      obtain ⟨state, reached, goodState, allowedHere⟩ := ih good (guarded.2 next taken)
      refine ⟨state, ?_, goodState, allowedHere⟩
      simp only [run, taken]
      exact reached

/-- Every state on the way of a run, its start included, is good. -/
def Always (step : State → Input → Except Problem State) (good : State → Prop) (start : State)
    (inputs : List Input) : Prop :=
  ∀ earlier later state, inputs = earlier ++ later → run step start earlier = .ok state → good state

theorem Always.nil {good : State → Prop} {start : State} (here : good start) :
    Always step good start [] := by
  intro earlier later state split reached
  have none := (List.append_eq_nil_iff.mp split.symm).1
  rw [none] at reached
  cases reached
  exact here

theorem Always.cons {good : State → Prop} {start : State} {input : Input} {rest : List Input}
    (here : good start)
    (further : ∀ next, step start input = .ok next → Always step good next rest) :
    Always step good start (input :: rest) := by
  intro earlier later state split reached
  cases earlier with
  | nil =>
      cases reached
      exact here
  | cons first others =>
      obtain ⟨same, cut⟩ := List.cons.inj split
      rw [← same] at reached
      simp only [run] at reached
      cases taken : step start input with
      | error problem =>
          rw [taken] at reached
          cases reached
      | ok next =>
          rw [taken] at reached
          exact further next taken others later state cut reached

theorem Always.tail {good : State → Prop} {start next : State} {input : Input}
    {rest : List Input} (always : Always step good start (input :: rest))
    (taken : step start input = .ok next) : Always step good next rest := by
  intro earlier later state split reached
  refine always (input :: earlier) later state ?_ ?_
  · rw [split, List.cons_append]
  · simp only [run, taken]
    exact reached

/-- Where allowed steps keep an invariant of good states, guarded runs meet only good
states. -/
theorem Guarded.always {invariant good : State → Prop}
    (sound : ∀ state, invariant state → good state)
    (preserved : ∀ state input next, invariant state → allowed state input →
      step state input = .ok next → invariant next)
    {start : State} {inputs : List Input} (initially : invariant start)
    (guarded : Guarded step allowed start inputs) : Always step good start inputs := by
  induction inputs generalizing start with
  | nil => exact Always.nil (sound start initially)
  | cons input rest ih =>
      apply Always.cons (sound start initially)
      intro next taken
      have kept := preserved start input next initially guarded.1 taken
      exact ih kept (guarded.2 next taken)

/-- Where every step that is not allowed leaves a bad state, a run that meets only good states
is guarded. -/
theorem Always.guarded {invariant good : State → Prop}
    (preserved : ∀ state input next, invariant state → allowed state input →
      step state input = .ok next → invariant next)
    (broken : ∀ state input next, invariant state → ¬allowed state input →
      step state input = .ok next → ¬good next)
    {start finish : State} {inputs : List Input} (initially : invariant start)
    (reached : run step start inputs = .ok finish)
    (always : Always step good start inputs) : Guarded step allowed start inputs := by
  induction inputs generalizing start with
  | nil => trivial
  | cons input rest ih =>
      unfold run at reached
      cases taken : step start input with
      | error problem =>
          rw [taken] at reached
          cases reached
      | ok next =>
          rw [taken] at reached
          have goodNext : good next := by
            apply always [input] rest next rfl
            simp only [run, taken]
          by_cases here : allowed start input
          · have kept := preserved start input next initially here taken
            refine ⟨here, ?_⟩
            intro other takenAgain
            rw [← Except.ok.inj (taken.symm.trans takenAgain)]
            exact ih kept reached (always.tail taken)
          · exact absurd goodNext (broken start input next initially here taken)

/-- Where allowed steps keep an invariant of good states and every other step leaves a bad
one, a run meets only good states when all its steps are allowed, and only then. -/
theorem guarded_iff_always {invariant good : State → Prop}
    (sound : ∀ state, invariant state → good state)
    (preserved : ∀ state input next, invariant state → allowed state input →
      step state input = .ok next → invariant next)
    (broken : ∀ state input next, invariant state → ¬allowed state input →
      step state input = .ok next → ¬good next)
    {start finish : State} {inputs : List Input} (initially : invariant start)
    (reached : run step start inputs = .ok finish) :
    Guarded step allowed start inputs ↔ Always step good start inputs := by
  constructor
  · exact Guarded.always sound preserved initially
  · exact Always.guarded preserved broken initially reached

/-- Where every allowed step from a good state lowers a measure, a guarded run is no longer
than the measure of its start. -/
theorem Guarded.length_le {measure : State → Nat}
    (preserved : ∀ state input next, holds state → allowed state input →
      step state input = .ok next → holds next)
    (lowers : ∀ state input next, holds state → allowed state input →
      step state input = .ok next → measure next < measure state)
    {start finish : State} {inputs : List Input} (initially : holds start)
    (guarded : Guarded step allowed start inputs) (reached : run step start inputs = .ok finish) :
    inputs.length + measure finish ≤ measure start := by
  induction inputs generalizing start with
  | nil =>
      cases reached
      exact Nat.le_of_eq (Nat.zero_add _)
  | cons input rest ih =>
      unfold run at reached
      cases taken : step start input with
      | error problem =>
          rw [taken] at reached
          cases reached
      | ok next =>
          rw [taken] at reached
          have fewer := lowers start input next initially guarded.1 taken
          have further := ih (preserved start input next initially guarded.1 taken)
            (guarded.2 next taken) reached
          rw [List.length_cons]
          omega

/-- Where moreover a good state is at rest or has an allowed step, a guarded run leads from it
to rest. Induction on the measure. -/
theorem exists_guarded_rest {measure : State → Nat} {rests : State → Prop}
    (preserved : ∀ state input next, holds state → allowed state input →
      step state input = .ok next → holds next)
    (lowers : ∀ state input next, holds state → allowed state input →
      step state input = .ok next → measure next < measure state)
    (onwards : ∀ state, holds state →
      rests state ∨ ∃ input, allowed state input ∧ ∃ next, step state input = .ok next)
    {start : State} (initially : holds start) :
    ∃ inputs finish, Guarded step allowed start inputs ∧ run step start inputs = .ok finish ∧
      holds finish ∧ rests finish := by
  induction bound : measure start using Nat.strongRecOn generalizing start with
  | ind bound ih =>
      rcases onwards start initially with resting | ⟨input, permitted, next, taken⟩
      · exact ⟨[], start, trivial, rfl, initially, resting⟩
      · have fewer := lowers start input next initially permitted taken
        rw [bound] at fewer
        obtain ⟨inputs, finish, guarded, reached, good, resting⟩ :=
          ih (measure next) fewer (preserved start input next initially permitted taken) rfl
        refine ⟨input :: inputs, finish, ⟨permitted, ?_⟩, ?_, good, resting⟩
        · intro other takenAgain
          rw [← Except.ok.inj (taken.symm.trans takenAgain)]
          exact guarded
        · simp only [run, taken]
          exact reached

/-- A step on states that carry more than those of `step` is guarded with it. -/
theorem Guarded.lift {Carrier : Type u} {carried : Carrier → Input → Except Problem Carrier}
    {view : Carrier → State}
    (simulates : ∀ state input next, carried state input = .ok next →
      step (view state) input = .ok (view next))
    {start : Carrier} {inputs : List Input}
    (guarded : Guarded step allowed (view start) inputs) :
    Guarded carried (fun state input => allowed (view state) input) start inputs := by
  induction inputs generalizing start with
  | nil => trivial
  | cons input rest ih =>
      refine ⟨guarded.1, ?_⟩
      intro next taken
      exact ih (guarded.2 (view next) (simulates start input next taken))

instance Guarded.decidable [decides : ∀ state input, Decidable (allowed state input)] :
    ∀ (start : State) (inputs : List Input), Decidable (Guarded step allowed start inputs)
  | _, [] => isTrue trivial
  | start, input :: rest =>
      match taken : step start input with
      | .error _ =>
          decidable_of_iff (allowed start input)
            ⟨fun here => ⟨here, fun _ returned => nomatch taken.symm.trans returned⟩, And.left⟩
      | .ok next =>
          have := Guarded.decidable next rest
          decidable_of_iff (allowed start input ∧ Guarded step allowed next rest)
            ⟨fun both => ⟨both.1, fun _ returned =>
                Except.ok.inj (taken.symm.trans returned) ▸ both.2⟩,
              fun both => ⟨both.1, both.2 next taken⟩⟩

end Machine
end SpotExchange
