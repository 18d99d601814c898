/-
Tallies of finite maps: the sum of a weight over the values of a map. A tally is changed
by an insertion or an erasure by the weights of the values that come and go, and depends
on nothing but the lookups.
-/

import Mathlib.Algebra.BigOperators.Group.List.Basic
import Mathlib.Algebra.Order.BigOperators.Group.List
import Mathlib.Data.List.AList

namespace SpotExchange
namespace Collections

universe u v w

section Tally

variable {Key : Type u} {Value : Type v} {Weight : Type w}

def tally [Add Weight] [Zero Weight] (weight : Value → Weight)
    (map : AList (fun _ : Key => Value)) : Weight :=
  (map.entries.map (fun entry => weight entry.2)).sum

section Sums

variable [AddCommGroup Weight] (weight : Value → Weight)

@[simp]
theorem tally_empty : tally weight (∅ : AList (fun _ : Key => Value)) = 0 := rfl

variable [DecidableEq Key]

/-- The value under a key and the rest of the map make up the tally. -/
theorem tally_erase {map : AList (fun _ : Key => Value)} {key : Key} {value : Value}
    (found : map.lookup key = some value) :
    tally weight map = weight value + tally weight (map.erase key) := by
  have present : key ∈ map.entries.keys := by
    apply AList.mem_keys.mp
    apply AList.lookup_isSome.mp
    rw [found]
    rfl
  obtain ⟨stored, front, back, _absent, split, rest⟩ := List.exists_of_kerase present
  have member : (⟨key, stored⟩ : Sigma (fun _ : Key => Value)) ∈ map.entries := by
    rw [split]
    exact List.mem_append_right front List.mem_cons_self
  have same : stored = value := by
    have here : map.lookup key = some stored := List.mem_dlookup map.nodupKeys member
    rw [found] at here
    exact (Option.some.inj here).symm
  have left : (map.erase key).entries = front ++ back := rest
  unfold tally
  rw [left, split, same]
  simp only [List.map_append, List.map_cons, List.sum_append, List.sum_cons]
  exact add_left_comm _ _ _

theorem tally_erase_absent {map : AList (fun _ : Key => Value)} {key : Key}
    (absent : map.lookup key = none) : tally weight (map.erase key) = tally weight map := by
  have missing : key ∉ map.entries.keys := AList.lookup_eq_none.mp absent
  have same : (map.erase key).entries = map.entries := List.kerase_of_notMem_keys missing
  unfold tally
  rw [same]

/-- An insertion adds to what is left once the key is erased. -/
theorem tally_insert (map : AList (fun _ : Key => Value)) (key : Key) (value : Value) :
    tally weight (map.insert key value) = weight value + tally weight (map.erase key) := by
  have same : (map.insert key value).entries = ⟨key, value⟩ :: (map.erase key).entries :=
    AList.entries_insert
  unfold tally
  rw [same, List.map_cons, List.sum_cons]

theorem tally_insert_absent {map : AList (fun _ : Key => Value)} {key : Key}
    (absent : map.lookup key = none) (value : Value) :
    tally weight (map.insert key value) = weight value + tally weight map := by
  rw [tally_insert, tally_erase_absent weight absent]

/-- Maps whose lookups correspond have the same tally. -/
theorem tally_view {Seen : Type*} {view : Value → Seen} (weighed : Seen → Weight)
    {map : AList (fun _ : Key => Value)} {seen : AList (fun _ : Key => Seen)}
    (agrees : ∀ key, (map.lookup key).map view = seen.lookup key) :
    tally (fun value => weighed (view value)) map = tally weighed seen := by
  let values : List (Sigma (fun _ : Key => Seen)) :=
    map.entries.map (Sigma.map id (fun (_ : Key) (value : Value) => view value))
  have sameKeys : values.keys = map.entries.keys := List.map_map
  have nodup : values.NodupKeys := by
    rw [List.NodupKeys, sameKeys]
    exact map.nodupKeys
  have permuted : values.Perm seen.entries := by
    apply List.lookup_ext nodup seen.nodupKeys
    intro key value
    have looked : values.dlookup key = seen.lookup key :=
      (List.dlookup_map₂ key).trans (agrees key)
    rw [looked]
    rfl
  have summed : (values.map (fun entry => weighed entry.2)).sum = tally weighed seen :=
    (permuted.map (fun entry => weighed entry.2)).sum_eq
  rw [← summed, List.map_map]
  rfl

end Sums

section Order

variable [DecidableEq Key] [AddCommGroup Weight] {weight : Value → Weight}
  {map : AList (fun _ : Key => Value)}

theorem tally_eq_zero (zero : ∀ key value, map.lookup key = some value → weight value = 0) :
    tally weight map = 0 := by
  apply List.sum_eq_zero
  intro summand member
  obtain ⟨entry, present, same⟩ := List.mem_map.mp member
  rw [← same]
  exact zero entry.1 entry.2 (List.mem_dlookup map.nodupKeys present)

theorem tally_congr {other : Value → Weight}
    (same : ∀ key value, map.lookup key = some value → weight value = other value) :
    tally weight map = tally other map := by
  unfold tally
  congr 1
  apply List.map_congr_left
  intro entry present
  exact same entry.1 entry.2 (List.mem_dlookup map.nodupKeys present)

theorem tally_nonneg [PartialOrder Weight] [IsOrderedAddMonoid Weight]
    (nonneg : ∀ key value, map.lookup key = some value → 0 ≤ weight value) :
    0 ≤ tally weight map := by
  apply List.sum_nonneg
  intro summand member
  obtain ⟨entry, present, same⟩ := List.mem_map.mp member
  rw [← same]
  exact nonneg entry.1 entry.2 (List.mem_dlookup map.nodupKeys present)

/-- No more than so many times what no weight exceeds. -/
theorem tally_le_length [PartialOrder Weight] [IsOrderedAddMonoid Weight] {bound : Weight}
    (bounded : ∀ key value, map.lookup key = some value → weight value ≤ bound) :
    tally weight map ≤ map.entries.length • bound := by
  have summands := List.sum_le_card_nsmul (map.entries.map (fun entry => weight entry.2)) bound (by
    intro summand member
    obtain ⟨entry, present, same⟩ := List.mem_map.mp member
    rw [← same]
    exact bounded entry.1 entry.2 (List.mem_dlookup map.nodupKeys present))
  rw [List.length_map] at summands
  exact summands

/-- A map whose values weigh nothing, or no more than those of another one under their keys. -/
theorem tally_le_tally [PartialOrder Weight] [IsOrderedAddMonoid Weight] {Other : Type*}
    {weigh : Other → Weight} {other : AList (fun _ : Key => Other)}
    (covered : ∀ key value, map.lookup key = some value →
      weight value ≤ 0 ∨ ∃ cover, other.lookup key = some cover ∧ weight value ≤ weigh cover)
    (nonneg : ∀ key value, other.lookup key = some value → 0 ≤ weigh value) :
    tally weight map ≤ tally weigh other := by
  induction map using AList.insertRec generalizing other with
  | H0 => exact tally_nonneg nonneg
  | IH key value rest absent ih =>
      have missing : rest.lookup key = none := AList.lookup_eq_none.mpr absent
      have further : ∀ another item, rest.lookup another = some item →
          another ≠ key ∧ (weight item ≤ 0 ∨
            ∃ cover, other.lookup another = some cover ∧ weight item ≤ weigh cover) := by
        intro another item stored
        have different : another ≠ key := by
          intro same
          rw [same, missing] at stored
          cases stored
        exact ⟨different, covered another item ((AList.lookup_insert_ne different).trans stored)⟩
      rw [tally_insert_absent weight missing]
      rcases covered key value (AList.lookup_insert rest) with light | ⟨cover, found, heavier⟩
      · rw [← zero_add (tally weigh other)]
        exact add_le_add light (ih (fun another item stored => (further another item stored).2)
          nonneg)
      · rw [tally_erase weigh found]
        refine add_le_add heavier (ih ?_ ?_)
        · intro another item stored
          obtain ⟨different, light | ⟨counterpart, there, least⟩⟩ := further another item stored
          · exact Or.inl light
          · exact Or.inr ⟨counterpart, (AList.lookup_erase_ne different).trans there, least⟩
        · intro another item stored
          apply nonneg another item
          by_cases same : another = key
          · rw [same, AList.lookup_erase] at stored
            cases stored
          · rw [AList.lookup_erase_ne same] at stored
            exact stored

end Order

end Tally

end Collections
end SpotExchange
