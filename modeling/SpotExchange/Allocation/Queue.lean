/-
Allocating a wanted amount to a queue of items, head first.

Each item offers an amount and can be reduced by less than all of it. The first
item is visited whatever is wanted; the allocation stops at the first item that
covers what is still wanted, and an item that is used up leaves the queue.
-/

import Mathlib.Algebra.BigOperators.Group.List.Basic
import Mathlib.Algebra.Order.Ring.Int
import Mathlib.Algebra.Order.Ring.Nat
import Mathlib.Order.Basic
import SpotExchange.Collections.Precedence

namespace SpotExchange
namespace Allocation

universe u

open Collections

variable {Item : Type u}

/-- What was taken from which item, what is still wanted, and the queue left behind. -/
structure QueueFill (Item : Type u) where
  taken : List (Item × Nat)
  left : Nat
  remaining : List Item

variable (amount : Item → Nat) (reduce : Item → Nat → Item)

def offered (items : List Item) : Nat := (items.map amount).sum

def total (taken : List (Item × Nat)) : Nat := (taken.map Prod.snd).sum

def fillQueue : Nat → List Item → QueueFill Item
  | wanted, [] =>
      { taken := []
        left := wanted
        remaining := [] }
  | wanted, item :: rest =>
      let part := min (amount item) wanted
      if wanted - part = 0 then
        { taken := [(item, part)]
          left := 0
          remaining := if amount item - part = 0 then rest else reduce item part :: rest }
      else
        let later := fillQueue (wanted - part) rest
        { taken := (item, part) :: later.taken
          left := later.left
          remaining := later.remaining }

/-- The items a queue keeps when `wanted` is taken from it, as they were before. -/
def kept : Nat → List Item → List Item
  | _, [] => []
  | wanted, item :: rest =>
      if amount item < wanted then kept (wanted - amount item) rest
      else if amount item = wanted then rest
      else item :: rest

/-- The first item gives a part, unless there is nothing to give. -/
def reduceFirst (part : Nat) : List Item → List Item
  | [] => []
  | item :: rest => if part = 0 then item :: rest else reduce item part :: rest

section Steps

variable {amount reduce} {wanted : Nat} {item : Item}

theorem fillQueue_covered (rest : List Item) (covered : wanted ≤ amount item) :
    fillQueue amount reduce wanted (item :: rest) =
      { taken := [(item, wanted)]
        left := 0
        remaining := if amount item = wanted then rest else reduce item wanted :: rest } := by
  have part : min (amount item) wanted = wanted := Nat.min_eq_right covered
  have exact : amount item - wanted = 0 ↔ amount item = wanted := by omega
  simp only [fillQueue, part, Nat.sub_self, if_true, exact]

theorem fillQueue_usedUp (rest : List Item) (short : amount item < wanted) :
    fillQueue amount reduce wanted (item :: rest) =
      { taken :=
          (item, amount item) :: (fillQueue amount reduce (wanted - amount item) rest).taken
        left := (fillQueue amount reduce (wanted - amount item) rest).left
        remaining := (fillQueue amount reduce (wanted - amount item) rest).remaining } := by
  have part : min (amount item) wanted = amount item := Nat.min_eq_left (Nat.le_of_lt short)
  have more : wanted - amount item ≠ 0 := by omega
  simp only [fillQueue, part, if_neg more]

end Steps

section Results

variable {amount reduce}

/-- Nothing is lost: what was taken and what is left add up to what was wanted. -/
theorem fillQueue_conserves (wanted : Nat) (items : List Item) :
    total (fillQueue amount reduce wanted items).taken +
      (fillQueue amount reduce wanted items).left = wanted := by
  induction items generalizing wanted with
  | nil => simp [fillQueue, total]
  | cons item rest ih =>
      rcases Nat.lt_or_ge (amount item) wanted with short | covered
      · have later := ih (wanted - amount item)
        rw [fillQueue_usedUp rest short]
        simp only [total, List.map_cons, List.sum_cons] at later ⊢
        omega
      · rw [fillQueue_covered rest covered]
        simp [total]

/-- The allocation falls short exactly when the queue offers less than is wanted,
and then the queue is used up. -/
theorem fillQueue_short {wanted : Nat} {items : List Item}
    (short : (fillQueue amount reduce wanted items).left ≠ 0) :
    offered amount items < wanted ∧
      (fillQueue amount reduce wanted items).remaining = [] ∧
      (fillQueue amount reduce wanted items).taken =
        items.map (fun item => (item, amount item)) := by
  induction items generalizing wanted with
  | nil =>
      refine ⟨?_, rfl, rfl⟩
      exact Nat.pos_of_ne_zero short
  | cons item rest ih =>
      rcases Nat.lt_or_ge (amount item) wanted with below | covered
      · rw [fillQueue_usedUp rest below] at short ⊢
        obtain ⟨less, empty, all⟩ := ih short
        refine ⟨?_, empty, ?_⟩
        · simp only [offered, List.map_cons, List.sum_cons] at less ⊢
          omega
        · rw [List.map_cons, all]
      · rw [fillQueue_covered rest covered] at short
        exact absurd rfl short

theorem fillQueue_covers {wanted : Nat} {items : List Item}
    (enough : wanted ≤ offered amount items) :
    (fillQueue amount reduce wanted items).left = 0 := by
  by_contra short
  have less := (fillQueue_short short).1
  omega

theorem offered_of_filled {wanted : Nat} {items : List Item}
    (filled : (fillQueue amount reduce wanted items).left = 0) :
    wanted ≤ offered amount items := by
  induction items generalizing wanted with
  | nil =>
      have nothing : wanted = 0 := filled
      omega
  | cons item rest ih =>
      simp only [offered, List.map_cons, List.sum_cons] at ih ⊢
      rcases Nat.lt_or_ge (amount item) wanted with short | covered
      · rw [fillQueue_usedUp rest short] at filled
        have later := ih filled
        omega
      · omega

/-- Items are visited from the head on. -/
theorem fillQueue_taken_front (wanted : Nat) (items : List Item) :
    (fillQueue amount reduce wanted items).taken.map Prod.fst <+: items := by
  induction items generalizing wanted with
  | nil => exact List.nil_prefix
  | cons item rest ih =>
      rcases Nat.lt_or_ge (amount item) wanted with short | covered
      · rw [fillQueue_usedUp rest short]
        exact List.cons_prefix_cons.mpr ⟨rfl, ih (wanted - amount item)⟩
      · rw [fillQueue_covered rest covered]
        exact List.cons_prefix_cons.mpr ⟨rfl, List.nil_prefix⟩

theorem fillQueue_taken_le (wanted : Nat) (items : List Item) :
    ∀ entry ∈ (fillQueue amount reduce wanted items).taken, entry.2 ≤ amount entry.1 := by
  induction items generalizing wanted with
  | nil =>
      intro entry member
      cases member
  | cons item rest ih =>
      intro entry member
      rcases Nat.lt_or_ge (amount item) wanted with short | covered
      · rw [fillQueue_usedUp rest short] at member
        rcases List.mem_cons.mp member with here | later
        · subst here
          exact Nat.le_refl _
        · exact ih _ entry later
      · rw [fillQueue_covered rest covered] at member
        rw [List.mem_singleton.mp member]
        exact covered

theorem kept_suffix (wanted : Nat) (items : List Item) : kept amount wanted items <:+ items := by
  induction items generalizing wanted with
  | nil => exact List.suffix_refl []
  | cons item rest ih =>
      unfold kept
      split
      · exact (ih _).trans (List.suffix_cons item rest)
      · split
        · exact List.suffix_cons item rest
        · exact List.suffix_refl (item :: rest)

/-- What remains is what is kept, with a first item that may have been reduced. -/
theorem fillQueue_kept (wanted : Nat) (items : List Item) :
    (fillQueue amount reduce wanted items).remaining = kept amount wanted items ∨
      ∃ item rest part, kept amount wanted items = item :: rest ∧ part < amount item ∧
        (fillQueue amount reduce wanted items).remaining = reduce item part :: rest := by
  induction items generalizing wanted with
  | nil => exact Or.inl rfl
  | cons item rest ih =>
      rcases Nat.lt_or_ge (amount item) wanted with short | covered
      · rw [fillQueue_usedUp rest short, kept, if_pos short]
        exact ih (wanted - amount item)
      · rw [fillQueue_covered rest covered, kept, if_neg (Nat.not_lt.mpr covered)]
        by_cases exactly : amount item = wanted
        · rw [if_pos exactly, if_pos exactly]
          exact Or.inl rfl
        · rw [if_neg exactly, if_neg exactly]
          exact Or.inr ⟨item, rest, wanted, rfl, by omega, rfl⟩

/-- An item that is not visited stays as it is. -/
theorem fillQueue_visited_or_remains (wanted : Nat) {items : List Item} {item : Item}
    (member : item ∈ items) :
    item ∈ (fillQueue amount reduce wanted items).taken.map Prod.fst ∨
      item ∈ (fillQueue amount reduce wanted items).remaining := by
  induction items generalizing wanted with
  | nil => cases member
  | cons first rest ih =>
      rcases Nat.lt_or_ge (amount first) wanted with short | covered
      · rw [fillQueue_usedUp rest short, List.map_cons]
        rcases List.mem_cons.mp member with here | later
        · exact Or.inl (List.mem_cons.mpr (Or.inl here))
        · rcases ih (wanted - amount first) later with visited | remains
          · exact Or.inl (List.mem_cons_of_mem _ visited)
          · exact Or.inr remains
      · rw [fillQueue_covered rest covered]
        rcases List.mem_cons.mp member with here | later
        · exact Or.inl (List.mem_singleton.mpr here)
        · refine Or.inr ?_
          split
          · exact later
          · exact List.mem_cons_of_mem _ later

/-- What remains is an item of the queue, or what is left of one. -/
theorem fillQueue_remaining_origin {wanted : Nat} {items : List Item} {item : Item}
    (remains : item ∈ (fillQueue amount reduce wanted items).remaining) :
    item ∈ items ∨ ∃ old ∈ items, ∃ part, item = reduce old part := by
  rcases @fillQueue_kept _ amount reduce wanted items with
    same | ⟨old, rest, part, split, _less, reduced⟩
  · rw [same] at remains
    exact Or.inl ((kept_suffix wanted items).mem remains)
  · have inside := (@kept_suffix _ amount wanted items).sublist
    rw [split] at inside
    rw [reduced] at remains
    rcases List.mem_cons.mp remains with here | later
    · exact Or.inr ⟨old, inside.mem List.mem_cons_self, part, here⟩
    · exact Or.inl (inside.mem (List.mem_cons_of_mem _ later))

/-- An allocation to two queues in a row goes on in the second one only when the
first one falls short. -/
theorem fillQueue_append_filled {wanted : Nat} {front : List Item} (occupied : front ≠ [])
    (filled : (fillQueue amount reduce wanted front).left = 0) (back : List Item) :
    (fillQueue amount reduce wanted (front ++ back)).taken =
        (fillQueue amount reduce wanted front).taken ∧
      (fillQueue amount reduce wanted (front ++ back)).left = 0 := by
  induction front generalizing wanted with
  | nil => exact absurd rfl occupied
  | cons item rest ih =>
      rcases Nat.lt_or_ge (amount item) wanted with short | covered
      · rw [fillQueue_usedUp rest short] at filled
        rw [List.cons_append, fillQueue_usedUp _ short, fillQueue_usedUp rest short]
        have more : rest ≠ [] := by
          intro empty
          rw [empty] at filled
          have nothing : wanted - amount item = 0 := filled
          omega
        obtain ⟨taken, left⟩ := ih more filled
        exact ⟨congrArg (List.cons (item, amount item)) taken, left⟩
      · rw [List.cons_append, fillQueue_covered _ covered, fillQueue_covered rest covered]
        exact ⟨rfl, rfl⟩

theorem fillQueue_append_short {wanted : Nat} {front : List Item}
    (short : (fillQueue amount reduce wanted front).left ≠ 0) (back : List Item) :
    (fillQueue amount reduce wanted (front ++ back)).taken =
        (fillQueue amount reduce wanted front).taken ++
          (fillQueue amount reduce (fillQueue amount reduce wanted front).left back).taken ∧
      (fillQueue amount reduce wanted (front ++ back)).left =
        (fillQueue amount reduce (fillQueue amount reduce wanted front).left back).left := by
  induction front generalizing wanted with
  | nil => exact ⟨rfl, rfl⟩
  | cons item rest ih =>
      rcases Nat.lt_or_ge (amount item) wanted with below | covered
      · rw [fillQueue_usedUp rest below] at short
        rw [List.cons_append, fillQueue_usedUp _ below, fillQueue_usedUp rest below]
        obtain ⟨taken, left⟩ := ih short
        exact ⟨congrArg (List.cons (item, amount item)) taken, left⟩
      · rw [fillQueue_covered rest covered] at short
        exact absurd rfl short

/-- The longest front of the queue that offers no more than is wanted. -/
structure LongestFront (amount : Item → Nat) (wanted : Nat) (front back : List Item) : Prop where
  fits : offered amount front ≤ wanted
  longest : ∀ next rest, back = next :: rest → wanted < offered amount front + amount next

/-- Where every item offers something, the longest front that fits is used up, and the item
behind it gives what is still wanted. -/
theorem fillQueue_longestFront {wanted : Nat} {items : List Item}
    (positive : ∀ item ∈ items, 0 < amount item) (something : 0 < wanted) :
    ∃ front back, items = front ++ back ∧ LongestFront amount wanted front back ∧
      (fillQueue amount reduce wanted items).remaining =
        reduceFirst reduce (wanted - offered amount front) back := by
  induction items generalizing wanted with
  | nil =>
      refine ⟨[], [], rfl, ⟨Nat.zero_le wanted, ?_⟩, rfl⟩
      intro next rest empty
      cases empty
  | cons item rest ih =>
      have positiveRest : ∀ other ∈ rest, 0 < amount other :=
        fun other member => positive other (List.mem_cons_of_mem item member)
      rcases Nat.lt_trichotomy (amount item) wanted with short | exactly | more
      · obtain ⟨front, back, split, cut, remaining⟩ :=
          ih positiveRest (Nat.sub_pos_of_lt short)
        have all : offered amount (item :: front) = amount item + offered amount front := by
          simp only [offered, List.map_cons, List.sum_cons]
        have less : wanted - amount item - offered amount front =
            wanted - offered amount (item :: front) := by
          rw [all, Nat.sub_sub]
        refine ⟨item :: front, back, congrArg (item :: ·) split, ⟨?_, ?_⟩, ?_⟩
        · have fits := cut.fits
          omega
        · intro next others isNext
          have longest := cut.longest next others isNext
          omega
        · rw [fillQueue_usedUp rest short, remaining, less]
      · have all : offered amount [item] = wanted := by
          simp only [offered, List.map_cons, List.map_nil, List.sum_cons, List.sum_nil, exactly,
            Nat.add_zero]
        refine ⟨[item], rest, rfl, ⟨Nat.le_of_eq all, ?_⟩, ?_⟩
        · intro next others isNext
          have offers := positiveRest next (isNext ▸ List.mem_cons_self)
          omega
        · rw [fillQueue_covered rest (Nat.le_of_eq exactly.symm), all, Nat.sub_self]
          cases rest <;> simp only [exactly, if_true, reduceFirst]
      · have nothing : offered amount ([] : List Item) = 0 := rfl
        refine ⟨[], item :: rest, rfl, ⟨?_, ?_⟩, ?_⟩
        · omega
        · intro next others isNext
          cases isNext
          omega
        · rw [fillQueue_covered rest (Nat.le_of_lt more), nothing, Nat.sub_zero, reduceFirst,
            if_neg (Nat.ne_of_gt more), if_neg (Nat.ne_of_gt something)]

end Results

/-! ### Accounts by key -/

section Accounts

variable {Key : Type u} [DecidableEq Key] (key : Item → Key)

/-- What was taken from the items with a key. -/
def takenFrom (taken : List (Item × Nat)) (account : Key) : Nat :=
  total (taken.filter (fun entry => decide (key entry.1 = account)))

/-- What the items with a key offer. -/
def offeredBy (items : List Item) (account : Key) : Nat :=
  offered amount (items.filter (fun item => decide (key item = account)))

variable {key amount reduce}

theorem takenFrom_cons (item : Item) (part : Nat) (rest : List (Item × Nat)) (account : Key) :
    takenFrom key ((item, part) :: rest) account =
      (if key item = account then part else 0) + takenFrom key rest account := by
  unfold takenFrom total
  by_cases same : key item = account <;> simp [same]

theorem offeredBy_cons (item : Item) (rest : List Item) (account : Key) :
    offeredBy amount key (item :: rest) account =
      (if key item = account then amount item else 0) + offeredBy amount key rest account := by
  unfold offeredBy offered
  by_cases same : key item = account <;> simp [same]

theorem takenFrom_append (front back : List (Item × Nat)) (account : Key) :
    takenFrom key (front ++ back) account =
      takenFrom key front account + takenFrom key back account := by
  simp [takenFrom, total]

theorem offeredBy_append (front back : List Item) (account : Key) :
    offeredBy amount key (front ++ back) account =
      offeredBy amount key front account + offeredBy amount key back account := by
  simp [offeredBy, offered]

theorem offeredBy_of_absent {items : List Item} {account : Key}
    (absent : account ∉ items.map key) : offeredBy amount key items account = 0 := by
  have none : items.filter (fun item => decide (key item = account)) = [] := by
    apply List.filter_eq_nil_iff.mpr
    intro item member same
    exact absent (of_decide_eq_true same ▸ List.mem_map_of_mem member)
  rw [offeredBy, none]
  rfl

/-- An item whose key is its own is the only one its account counts. -/
theorem offeredBy_of_mem {items : List Item} {item : Item} (distinct : (items.map key).Nodup)
    (member : item ∈ items) : offeredBy amount key items (key item) = amount item := by
  induction items with
  | nil => cases member
  | cons head rest ih =>
      obtain ⟨absent, later⟩ := List.nodup_cons.mp distinct
      rw [offeredBy_cons]
      rcases List.mem_cons.mp member with here | there
      · subst here
        rw [if_pos rfl, offeredBy_of_absent absent, Nat.add_zero]
      · have different : key head ≠ key item := by
          intro same
          exact absent (same ▸ List.mem_map_of_mem there)
        rw [if_neg different, ih later there, Nat.zero_add]

/-- What an account gives and what it keeps add up to what it had. -/
theorem fillQueue_accounts
    (amountReduced : ∀ item part, part ≤ amount item → amount (reduce item part) = amount item - part)
    (keyReduced : ∀ item part, key (reduce item part) = key item)
    (wanted : Nat) (items : List Item) (account : Key) :
    takenFrom key (fillQueue amount reduce wanted items).taken account +
        offeredBy amount key (fillQueue amount reduce wanted items).remaining account =
      offeredBy amount key items account := by
  induction items generalizing wanted with
  | nil => rfl
  | cons item rest ih =>
      rcases Nat.lt_or_ge (amount item) wanted with short | covered
      · have later := ih (wanted - amount item)
        rw [fillQueue_usedUp rest short, takenFrom_cons, offeredBy_cons]
        simp only [Nat.add_assoc, later]
      · rw [fillQueue_covered rest covered, takenFrom_cons, offeredBy_cons]
        have nothing : takenFrom key ([] : List (Item × Nat)) account = 0 := rfl
        rw [nothing]
        by_cases exactly : amount item = wanted
        · simp only [exactly, if_true, Nat.add_zero]
        · simp only [exactly, if_false, offeredBy_cons, keyReduced, amountReduced item wanted covered]
          split <;> omega

end Accounts

end Allocation
end SpotExchange
