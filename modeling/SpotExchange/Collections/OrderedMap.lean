/-
Maps whose entries are kept in key order, for an arbitrary strict total order on
the keys. The order is a field of the map: a map with an entry out of place
cannot be built. Iterators are keys, and the end iterator is the absent key.
-/

import Mathlib.Order.Defs.Unbundled
import Mathlib.Data.List.Pairwise

namespace SpotExchange
namespace Collections

universe u v

/-- Entries in the order of their keys. -/
structure OrderedMap {Key : Type u} (before : Key → Key → Prop) (Value : Type v) where
  entries : List (Key × Value)
  ordered : entries.Pairwise (fun left right => before left.1 right.1)

namespace OrderedMap

variable {Key : Type u} {Value : Type v} {before : Key → Key → Prop}

@[ext]
theorem ext {left right : OrderedMap before Value}
    (same : left.entries = right.entries) : left = right := by
  cases left
  cases right
  cases same
  rfl

instance [DecidableEq Key] [DecidableEq Value] : DecidableEq (OrderedMap before Value) :=
  fun left right => decidable_of_iff (left.entries = right.entries)
    ⟨ext, fun same => congrArg OrderedMap.entries same⟩

def empty : OrderedMap before Value :=
  { entries := []
    ordered := List.Pairwise.nil }

def keys (map : OrderedMap before Value) : List Key :=
  map.entries.map Prod.fst

def size (map : OrderedMap before Value) : Nat :=
  map.entries.length

/-- The iterator to the first entry. -/
def begin? (map : OrderedMap before Value) : Option Key :=
  map.entries.head?.map Prod.fst

/-! ### Lookup, erasure and writing through a reference -/

section Lookup

variable [DecidableEq Key]

def lookupIn (key : Key) : List (Key × Value) → Option Value
  | [] => none
  | (here, value) :: rest => if key = here then some value else lookupIn key rest

def find? (map : OrderedMap before Value) (key : Key) : Option Value :=
  lookupIn key map.entries

def erase (map : OrderedMap before Value) (key : Key) : OrderedMap before Value :=
  { entries := map.entries.filter (fun entry => decide (entry.1 ≠ key))
    ordered := map.ordered.filter _ }

def writeEntry (key : Key) (change : Value → Value) (entry : Key × Value) : Key × Value :=
  if entry.1 = key then (entry.1, change entry.2) else entry

theorem writeEntry_fst (key : Key) (change : Value → Value) (entry : Key × Value) :
    (writeEntry key change entry).1 = entry.1 := by
  unfold writeEntry
  split <;> rfl

/-- Writes through a reference to the value stored under a key. -/
def update (map : OrderedMap before Value) (key : Key) (change : Value → Value) :
    OrderedMap before Value :=
  { entries := map.entries.map (writeEntry key change)
    ordered := by
      refine List.Pairwise.map _ ?_ map.ordered
      intro left right earlier
      rw [writeEntry_fst, writeEntry_fst]
      exact earlier }

theorem lookupIn_isSome_iff (key : Key) (entries : List (Key × Value)) :
    (lookupIn key entries).isSome ↔ key ∈ entries.map Prod.fst := by
  induction entries with
  | nil => simp [lookupIn]
  | cons entry rest ih =>
      by_cases same : key = entry.1
      · simp [lookupIn, same]
      · rw [lookupIn, if_neg same, ih, List.map_cons, List.mem_cons]
        exact ⟨Or.inr, fun member => member.resolve_left same⟩

theorem find?_isSome_iff (map : OrderedMap before Value) (key : Key) :
    (map.find? key).isSome ↔ key ∈ map.keys :=
  lookupIn_isSome_iff key map.entries

theorem find?_eq_none_iff (map : OrderedMap before Value) (key : Key) :
    map.find? key = none ↔ key ∉ map.keys := by
  rw [← find?_isSome_iff]
  cases map.find? key <;> simp

theorem lookupIn_filter_ne (entries : List (Key × Value)) (erased key : Key) :
    lookupIn key (entries.filter (fun entry => decide (entry.1 ≠ erased))) =
      if key = erased then none else lookupIn key entries := by
  induction entries with
  | nil => simp [lookupIn]
  | cons entry rest ih =>
      by_cases dropped : entry.1 = erased
      · rw [List.filter_cons_of_neg (by simp [dropped]), ih]
        by_cases same : key = erased
        · simp [same]
        · simp [same, lookupIn, dropped]
      · rw [List.filter_cons_of_pos (by simp [dropped])]
        simp only [lookupIn, ih]
        by_cases same : key = entry.1
        · simp [same, dropped]
        · simp [same]

@[simp]
theorem find?_erase (map : OrderedMap before Value) (erased key : Key) :
    (map.erase erased).find? key = if key = erased then none else map.find? key :=
  lookupIn_filter_ne map.entries erased key

theorem mem_keys_erase (map : OrderedMap before Value) (erased key : Key) :
    key ∈ (map.erase erased).keys ↔ key ≠ erased ∧ key ∈ map.keys := by
  rw [← find?_isSome_iff, ← find?_isSome_iff, find?_erase]
  by_cases same : key = erased <;> simp [same]

@[simp]
theorem keys_update (map : OrderedMap before Value) (key : Key) (change : Value → Value) :
    (map.update key change).keys = map.keys := by
  simp only [keys, update, List.map_map]
  congr 1
  funext entry
  exact writeEntry_fst key change entry

theorem lookupIn_writeEntry (entries : List (Key × Value)) (written key : Key)
    (change : Value → Value) :
    lookupIn key (entries.map (writeEntry written change)) =
      if key = written then (lookupIn key entries).map change else lookupIn key entries := by
  induction entries with
  | nil => simp [lookupIn]
  | cons entry rest ih =>
      by_cases changed : entry.1 = written
      · by_cases same : key = written
        · simp [lookupIn, writeEntry, changed, same]
        · simp [lookupIn, writeEntry, changed, same, ih]
      · by_cases same : key = entry.1
        · simp [lookupIn, writeEntry, changed, same]
        · simp [lookupIn, writeEntry, changed, same, ih]

@[simp]
theorem find?_update (map : OrderedMap before Value) (written key : Key)
    (change : Value → Value) :
    (map.update written change).find? key =
      if key = written then (map.find? key).map change else map.find? key :=
  lookupIn_writeEntry map.entries written key change

theorem update_update (map : OrderedMap before Value) (key : Key) (first second : Value → Value) :
    (map.update key first).update key second = map.update key (fun value => second (first value)) := by
  apply ext
  simp only [update, List.map_map]
  congr 1
  funext entry
  by_cases here : entry.1 = key <;> simp [writeEntry, here]

theorem lookupIn_of_mem {entries : List (Key × Value)} {entry : Key × Value}
    (distinct : (entries.map Prod.fst).Nodup) (member : entry ∈ entries) :
    lookupIn entry.1 entries = some entry.2 := by
  induction entries with
  | nil => cases member
  | cons head rest ih =>
      obtain ⟨absent, later⟩ := List.nodup_cons.mp distinct
      rcases List.mem_cons.mp member with here | there
      · subst here
        simp [lookupIn]
      · have different : entry.1 ≠ head.1 := by
          intro same
          exact absent (same ▸ List.mem_map_of_mem there)
        rw [lookupIn, if_neg different]
        exact ih later there

theorem mem_of_lookupIn {entries : List (Key × Value)} {key : Key} {value : Value}
    (found : lookupIn key entries = some value) : (key, value) ∈ entries := by
  induction entries with
  | nil => cases found
  | cons head rest ih =>
      by_cases same : key = head.1
      · rw [lookupIn, if_pos same] at found
        cases found
        subst same
        exact List.mem_cons_self
      · rw [lookupIn, if_neg same] at found
        exact List.mem_cons_of_mem head (ih found)

omit [DecidableEq Key] in
theorem keys_nodup [Std.Irrefl before] (map : OrderedMap before Value) : map.keys.Nodup := by
  refine List.pairwise_map.mpr (map.ordered.imp ?_)
  intro left right earlier same
  rw [same] at earlier
  exact irrefl_of before right.1 earlier

theorem find?_eq_some_iff [Std.Irrefl before] (map : OrderedMap before Value) (key : Key)
    (value : Value) : map.find? key = some value ↔ (key, value) ∈ map.entries :=
  ⟨mem_of_lookupIn, lookupIn_of_mem map.keys_nodup⟩

/-- Writing what is already there changes nothing. -/
theorem update_eq_self [Std.Irrefl before] {map : OrderedMap before Value} {key : Key}
    {value : Value} {change : Value → Value} (found : map.find? key = some value)
    (unchanged : change value = value) : map.update key change = map := by
  apply ext
  refine (List.map_congr_left (g := id) ?_).trans (List.map_id map.entries)
  intro entry member
  by_cases here : entry.1 = key
  · have stored := (map.find?_eq_some_iff entry.1 entry.2).mpr member
    rw [here, found] at stored
    cases stored
    rw [writeEntry, if_pos here, unchanged]
    rfl
  · rw [writeEntry, if_neg here]
    rfl

end Lookup

/-! ### Insertion and successor -/

section Order

variable [DecidableRel before]

def place (before : Key → Key → Prop) [DecidableRel before] (key : Key) (value : Value) :
    List (Key × Value) → List (Key × Value)
  | [] => [(key, value)]
  | entry :: rest =>
      if before key entry.1 then (key, value) :: entry :: rest
      else entry :: place before key value rest

/-- The iterator one past the entry under a key. -/
def next? (map : OrderedMap before Value) (key : Key) : Option Key :=
  (map.entries.find? (fun entry => decide (before key entry.1))).map Prod.fst

theorem mem_place (key : Key) (value : Value) (entries : List (Key × Value))
    (entry : Key × Value) (member : entry ∈ place before key value entries) :
    entry = (key, value) ∨ entry ∈ entries := by
  induction entries with
  | nil => exact Or.inl (List.mem_singleton.mp member)
  | cons head rest ih =>
      unfold place at member
      split at member
      · exact List.mem_cons.mp member
      · rcases List.mem_cons.mp member with first | later
        · exact Or.inr (first ▸ List.mem_cons_self)
        · rcases ih later with same | old
          · exact Or.inl same
          · exact Or.inr (List.mem_cons_of_mem head old)

variable [IsStrictTotalOrder Key before]

theorem place_ordered (key : Key) (value : Value) (entries : List (Key × Value))
    (absent : key ∉ entries.map Prod.fst)
    (ordered : entries.Pairwise (fun left right => before left.1 right.1)) :
    (place before key value entries).Pairwise (fun left right => before left.1 right.1) := by
  induction entries with
  | nil => simp [place]
  | cons head rest ih =>
      have headFirst := List.pairwise_cons.mp ordered
      unfold place
      split
      · rename_i earlier
        refine List.pairwise_cons.mpr ⟨?_, ordered⟩
        intro entry member
        rcases List.mem_cons.mp member with same | later
        · rw [same]
          exact earlier
        · exact IsTrans.trans _ _ _ earlier (headFirst.1 entry later)
      · rename_i notEarlier
        have different : head.1 ≠ key := by
          intro same
          exact absent (by simp [same])
        have absentLater : key ∉ rest.map Prod.fst := by
          intro member
          exact absent (List.mem_cons_of_mem _ member)
        refine List.pairwise_cons.mpr ⟨?_, ih absentLater headFirst.2⟩
        intro entry member
        rcases mem_place key value rest entry member with same | later
        · rw [same]
          rcases trichotomous_of before head.1 key with below | equal | above
          · exact below
          · exact absurd equal different
          · exact absurd above notEarlier
        · exact headFirst.1 entry later

variable [DecidableEq Key]

/-- Inserts under an absent key; a key already present keeps its value. The flag
says whether the insertion took place. -/
def emplace (map : OrderedMap before Value) (key : Key) (value : Value) :
    OrderedMap before Value × Bool :=
  if absent : map.find? key = none then
    ({ entries := place before key value map.entries
       ordered := place_ordered key value map.entries
        ((find?_eq_none_iff map key).mp absent) map.ordered }, true)
  else (map, false)

omit [IsStrictTotalOrder Key before] in
theorem lookupIn_place (placed key : Key) (value : Value) (entries : List (Key × Value))
    (absent : placed ∉ entries.map Prod.fst) :
    lookupIn key (place before placed value entries) =
      if key = placed then some value else lookupIn key entries := by
  induction entries with
  | nil => rfl
  | cons head rest ih =>
      have different : placed ≠ head.1 := by
        intro same
        exact absent (by simp [same])
      have absentLater : placed ∉ rest.map Prod.fst := by
        intro member
        exact absent (List.mem_cons_of_mem _ member)
      unfold place
      split
      · rfl
      · simp only [lookupIn, ih absentLater]
        by_cases same : key = placed
        · simp [same, different]
        · simp [same]

theorem emplace_of_absent (map : OrderedMap before Value) (key : Key) (value : Value)
    (absent : map.find? key = none) : (map.emplace key value).2 = true := by
  simp [emplace, absent]

theorem find?_emplace_of_absent (map : OrderedMap before Value) (placed key : Key)
    (value : Value) (absent : map.find? placed = none) :
    (map.emplace placed value).1.find? key =
      if key = placed then some value else map.find? key := by
  simp only [emplace, absent, dite_true]
  exact lookupIn_place placed key value map.entries ((find?_eq_none_iff map placed).mp absent)

theorem mem_keys_emplace_of_absent (map : OrderedMap before Value) (placed key : Key)
    (value : Value) (absent : map.find? placed = none) :
    key ∈ (map.emplace placed value).1.keys ↔ key = placed ∨ key ∈ map.keys := by
  rw [← find?_isSome_iff, ← find?_isSome_iff,
    find?_emplace_of_absent map placed key value absent]
  by_cases same : key = placed <;> simp [same]

end Order

/-! ### The first entry -/

section Front

variable {map : OrderedMap before Value} {key : Key} {value : Value}
  {rest : List (Key × Value)}

theorem front_before (front : map.entries = (key, value) :: rest) :
    ∀ entry ∈ rest, before key entry.1 := by
  have ordered := map.ordered
  rw [front] at ordered
  exact (List.pairwise_cons.mp ordered).1

theorem begin?_front (front : map.entries = (key, value) :: rest) :
    map.begin? = some key := by
  simp [begin?, front]

theorem mem_keys_of_begin? (first : map.begin? = some key) : key ∈ map.keys := by
  unfold begin? at first
  obtain ⟨entry, head, same⟩ := Option.map_eq_some_iff.mp first
  rw [← same]
  exact List.mem_map_of_mem (List.mem_of_head? head)

theorem find?_front [DecidableEq Key] (front : map.entries = (key, value) :: rest) :
    map.find? key = some value := by
  simp [find?, front, lookupIn]

variable [Std.Irrefl before]

theorem front_ne (front : map.entries = (key, value) :: rest) :
    ∀ entry ∈ rest, entry.1 ≠ key := by
  intro entry member same
  have below := front_before front entry member
  rw [same] at below
  exact irrefl_of before key below

theorem erase_front [DecidableEq Key] (front : map.entries = (key, value) :: rest) :
    (map.erase key).entries = rest := by
  simp only [erase, front]
  rw [List.filter_cons_of_neg (by simp)]
  apply List.filter_eq_self.mpr
  intro entry member
  exact decide_eq_true (front_ne front entry member)

theorem update_front [DecidableEq Key] (front : map.entries = (key, value) :: rest)
    (change : Value → Value) :
    (map.update key change).entries = (key, change value) :: rest := by
  simp only [update, front, List.map_cons]
  have unchanged : rest.map (writeEntry key change) = rest := by
    rw [List.map_congr_left (g := id), List.map_id]
    intro entry member
    exact if_neg (front_ne front entry member)
  rw [unchanged]
  simp [writeEntry]

theorem next?_front [DecidableRel before] (front : map.entries = (key, value) :: rest) :
    map.next? key = rest.head?.map Prod.fst := by
  simp only [next?, front]
  rw [List.find?_cons_of_neg (by simpa using irrefl_of before key)]
  cases rest with
  | nil => rfl
  | cons head tail =>
      have below := front_before front head List.mem_cons_self
      rw [List.find?_cons_of_pos (by simpa using below)]
      rfl

end Front

/-- The keys of a map are known from which keys it has. -/
theorem keys_eq_of_mem_iff [IsStrictTotalOrder Key before] {left right : OrderedMap before Value}
    (same : ∀ key, key ∈ left.keys ↔ key ∈ right.keys) : left.keys = right.keys := by
  have ordered : ∀ map : OrderedMap before Value, map.keys.Pairwise before :=
    fun map => List.pairwise_map.mpr map.ordered
  have permuted : left.keys.Perm right.keys :=
    (List.perm_ext_iff_of_nodup left.keys_nodup right.keys_nodup).mpr same
  refine permuted.eq_of_pairwise ?_ (ordered left) (ordered right)
  intro first second _here _there earlier later
  exact absurd later (asymm_of before earlier)

/-- A map is known from what it finds. -/
theorem ext_find? [IsStrictTotalOrder Key before] [DecidableEq Key]
    {left right : OrderedMap before Value}
    (same : ∀ key, left.find? key = right.find? key) : left = right := by
  have inside : ∀ {one other : OrderedMap before Value},
      (∀ key, one.find? key = other.find? key) → ∀ entry ∈ one.entries, entry ∈ other.entries := by
    intro one other agree entry member
    have found := (one.find?_eq_some_iff entry.1 entry.2).mpr member
    rw [agree] at found
    exact (other.find?_eq_some_iff entry.1 entry.2).mp found
  have distinct : ∀ map : OrderedMap before Value, map.entries.Nodup := by
    intro map
    apply (List.pairwise_map.mp map.keys_nodup).imp
    intro first second different equal
    exact different (congrArg Prod.fst equal)
  have permuted : left.entries.Perm right.entries := by
    apply (List.perm_ext_iff_of_nodup (distinct left) (distinct right)).mpr
    intro entry
    exact ⟨inside same entry, inside (fun key => (same key).symm) entry⟩
  apply ext
  apply permuted.eq_of_pairwise _ left.ordered right.ordered
  intro first second _here _there earlier later
  exact absurd later (asymm_of before earlier)

end OrderedMap

end Collections
end SpotExchange
