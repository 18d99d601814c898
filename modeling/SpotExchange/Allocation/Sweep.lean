/-
Price-time priority over any ordered list of levels: the levels are visited in
the order given while their price is acceptable, and each level's queue is
allocated head first before the next level is looked at.
-/

import SpotExchange.Allocation.Queue

namespace SpotExchange
namespace Allocation

universe u v

variable {Price : Type v} {Item : Type u}

/-- The reference result. `filled` says that the wanted amount ran out inside a
level, rather than the acceptable levels. -/
structure SweepResult (Price : Type v) (Item : Type u) where
  taken : List (Item × Nat)
  left : Nat
  levels : List (Price × List Item)
  filled : Bool

variable (amount : Item → Nat) (reduce : Item → Nat → Item) (acceptable : Price → Bool)

/-- A level stays while its queue has items. -/
def keepLevel (price : Price) (items : List Item) (rest : List (Price × List Item)) :
    List (Price × List Item) :=
  match items with
  | [] => rest
  | item :: others => (price, item :: others) :: rest

def sweep : Nat → List (Price × List Item) → SweepResult Price Item
  | wanted, [] =>
      { taken := []
        left := wanted
        levels := []
        filled := false }
  | wanted, (price, items) :: rest =>
      if acceptable price then
        let here := fillQueue amount reduce wanted items
        if here.left = 0 then
          { taken := here.taken
            left := 0
            levels := keepLevel price here.remaining rest
            filled := true }
        else
          let later := sweep here.left rest
          { taken := here.taken ++ later.taken
            left := later.left
            levels := later.levels
            filled := later.filled }
      else
        { taken := []
          left := wanted
          levels := (price, items) :: rest
          filled := false }

section Steps

variable {amount reduce acceptable} {wanted : Nat} {price : Price} {items : List Item}

theorem sweep_refused (rest : List (Price × List Item)) (refused : acceptable price = false) :
    sweep amount reduce acceptable wanted ((price, items) :: rest) =
      { taken := []
        left := wanted
        levels := (price, items) :: rest
        filled := false } := by
  simp [sweep, refused]

theorem sweep_stopped (rest : List (Price × List Item)) (accepted : acceptable price = true)
    (stopped : (fillQueue amount reduce wanted items).left = 0) :
    sweep amount reduce acceptable wanted ((price, items) :: rest) =
      { taken := (fillQueue amount reduce wanted items).taken
        left := 0
        levels := keepLevel price (fillQueue amount reduce wanted items).remaining rest
        filled := true } := by
  simp [sweep, accepted, stopped]

theorem sweep_passed (rest : List (Price × List Item)) (accepted : acceptable price = true)
    (passed : (fillQueue amount reduce wanted items).left ≠ 0) :
    sweep amount reduce acceptable wanted ((price, items) :: rest) =
      { taken := (fillQueue amount reduce wanted items).taken ++
          (sweep amount reduce acceptable (fillQueue amount reduce wanted items).left rest).taken
        left :=
          (sweep amount reduce acceptable (fillQueue amount reduce wanted items).left rest).left
        levels :=
          (sweep amount reduce acceptable (fillQueue amount reduce wanted items).left rest).levels
        filled :=
          (sweep amount reduce acceptable
            (fillQueue amount reduce wanted items).left rest).filled } := by
  simp [sweep, accepted, passed]

end Steps

section Results

variable {amount reduce acceptable}

theorem total_append (front back : List (Item × Nat)) :
    total (front ++ back) = total front + total back := by
  simp [total]

theorem sweep_conserves (wanted : Nat) (levels : List (Price × List Item)) :
    total (sweep amount reduce acceptable wanted levels).taken +
      (sweep amount reduce acceptable wanted levels).left = wanted := by
  induction levels generalizing wanted with
  | nil => simp [sweep, total]
  | cons level rest ih =>
      obtain ⟨price, items⟩ := level
      have here : total (fillQueue amount reduce wanted items).taken +
          (fillQueue amount reduce wanted items).left = wanted := fillQueue_conserves wanted items
      cases accepted : acceptable price with
      | false => simp [sweep_refused rest accepted, total]
      | true =>
          by_cases stopped : (fillQueue amount reduce wanted items).left = 0
          · rw [sweep_stopped rest accepted stopped]
            simpa [stopped] using here
          · have later := ih (fillQueue amount reduce wanted items).left
            rw [sweep_passed rest accepted stopped]
            simp only [total_append]
            omega

/-- A wanted amount runs out inside a level when nothing of it is left. -/
theorem sweep_filled_iff {wanted : Nat} (positive : 0 < wanted)
    (levels : List (Price × List Item)) :
    (sweep amount reduce acceptable wanted levels).filled = true ↔
      (sweep amount reduce acceptable wanted levels).left = 0 := by
  induction levels generalizing wanted with
  | nil =>
      constructor
      · intro impossible
        cases impossible
      · intro nothing
        exact absurd nothing (Nat.ne_of_gt positive)
  | cons level rest ih =>
      obtain ⟨price, items⟩ := level
      cases accepted : acceptable price with
      | false =>
          rw [sweep_refused rest accepted]
          constructor
          · intro impossible
            cases impossible
          · intro nothing
            exact absurd nothing (Nat.ne_of_gt positive)
      | true =>
          by_cases stopped : (fillQueue amount reduce wanted items).left = 0
          · rw [sweep_stopped rest accepted stopped]
            exact ⟨fun _ => rfl, fun _ => rfl⟩
          · rw [sweep_passed rest accepted stopped]
            exact ih (Nat.pos_of_ne_zero stopped)

/-- Nothing is left of a wanted amount that runs out inside a level. -/
theorem sweep_left_of_filled {wanted : Nat} {levels : List (Price × List Item)}
    (filled : (sweep amount reduce acceptable wanted levels).filled = true) :
    (sweep amount reduce acceptable wanted levels).left = 0 := by
  rcases Nat.eq_zero_or_pos wanted with nothing | positive
  · have conserved := @sweep_conserves _ _ amount reduce acceptable wanted levels
    omega
  · exact (sweep_filled_iff positive levels).mp filled

theorem sweep_filled_iff_of_accepted {wanted : Nat} {price : Price} {items : List Item}
    (rest : List (Price × List Item)) (accepted : acceptable price = true) :
    (sweep amount reduce acceptable wanted ((price, items) :: rest)).filled = true ↔
      (sweep amount reduce acceptable wanted ((price, items) :: rest)).left = 0 := by
  by_cases stopped : (fillQueue amount reduce wanted items).left = 0
  · rw [sweep_stopped rest accepted stopped]
    exact ⟨fun _ => rfl, fun _ => rfl⟩
  · rw [sweep_passed rest accepted stopped]
    exact sweep_filled_iff (Nat.pos_of_ne_zero stopped) rest

/-- The items within reach, in the order in which they are visited. -/
def within (acceptable : Price → Bool) (levels : List (Price × List Item)) : List Item :=
  (levels.takeWhile (fun level => acceptable level.1)).flatMap Prod.snd

theorem within_front (acceptable : Price → Bool) (levels : List (Price × List Item)) :
    within acceptable levels <+: levels.flatMap Prod.snd := by
  obtain ⟨back, split⟩ := List.takeWhile_prefix (fun level => acceptable level.1) (l := levels)
  refine ⟨back.flatMap Prod.snd, ?_⟩
  rw [within, ← List.flatMap_append, split]

/-- A sweep over levels is an allocation to the one queue of the items within reach. -/
theorem sweep_within {levels : List (Price × List Item)}
    (occupied : ∀ level ∈ levels, level.2 ≠ []) (wanted : Nat) :
    (sweep amount reduce acceptable wanted levels).taken =
        (fillQueue amount reduce wanted (within acceptable levels)).taken ∧
      (sweep amount reduce acceptable wanted levels).left =
        (fillQueue amount reduce wanted (within acceptable levels)).left := by
  induction levels generalizing wanted with
  | nil => exact ⟨rfl, rfl⟩
  | cons level rest ih =>
      obtain ⟨price, items⟩ := level
      have some : items ≠ [] := occupied (price, items) List.mem_cons_self
      have later := ih (fun level member => occupied level (List.mem_cons_of_mem _ member))
      cases accepted : acceptable price with
      | false =>
          have none : within acceptable ((price, items) :: rest) = [] := by
            simp [within, accepted]
          rw [sweep_refused rest accepted, none]
          exact ⟨rfl, rfl⟩
      | true =>
          have split : within acceptable ((price, items) :: rest) =
              items ++ within acceptable rest := by
            simp [within, accepted]
          rw [split]
          by_cases stopped : (fillQueue amount reduce wanted items).left = 0
          · obtain ⟨taken, left⟩ :=
              fillQueue_append_filled some stopped (within acceptable rest)
            rw [sweep_stopped rest accepted stopped, taken, left]
            exact ⟨rfl, rfl⟩
          · obtain ⟨taken, left⟩ := fillQueue_append_short stopped (within acceptable rest)
            obtain ⟨laterTaken, laterLeft⟩ := later (fillQueue amount reduce wanted items).left
            rw [sweep_passed rest accepted stopped, taken, left]
            exact ⟨congrArg ((fillQueue amount reduce wanted items).taken ++ ·) laterTaken,
              laterLeft⟩

end Results

section Accounts

variable {Key : Type u} [DecidableEq Key] {key : Item → Key} {amount reduce acceptable}

theorem flatMap_keepLevel (price : Price) (items : List Item) (rest : List (Price × List Item)) :
    (keepLevel price items rest).flatMap Prod.snd = items ++ rest.flatMap Prod.snd := by
  cases items <;> simp [keepLevel]

theorem sweep_accounts
    (amountReduced : ∀ item part, part ≤ amount item → amount (reduce item part) = amount item - part)
    (keyReduced : ∀ item part, key (reduce item part) = key item)
    (wanted : Nat) (levels : List (Price × List Item)) (account : Key) :
    takenFrom key (sweep amount reduce acceptable wanted levels).taken account +
        offeredBy amount key
          ((sweep amount reduce acceptable wanted levels).levels.flatMap Prod.snd) account =
      offeredBy amount key (levels.flatMap Prod.snd) account := by
  induction levels generalizing wanted with
  | nil => rfl
  | cons level rest ih =>
      obtain ⟨price, items⟩ := level
      have here := fillQueue_accounts amountReduced keyReduced wanted items account
      rw [List.flatMap_cons, offeredBy_append]
      cases accepted : acceptable price with
      | false =>
          rw [sweep_refused rest accepted, List.flatMap_cons, offeredBy_append]
          exact Nat.zero_add _
      | true =>
          by_cases stopped : (fillQueue amount reduce wanted items).left = 0
          · rw [sweep_stopped rest accepted stopped, flatMap_keepLevel, offeredBy_append,
              ← Nat.add_assoc]
            exact congrArg (· + _) here
          · have later := ih (fillQueue amount reduce wanted items).left
            have usedUp := (fillQueue_short stopped).2.1
            rw [usedUp] at here
            have nothing : offeredBy amount key ([] : List Item) account = 0 := rfl
            rw [sweep_passed rest accepted stopped, takenFrom_append, Nat.add_assoc, later, ← here,
              nothing, Nat.add_zero]

end Accounts

end Allocation
end SpotExchange
