/-
Doubly linked lists threaded through the nodes of a keyed store. A node holds an
item and the keys of its two neighbours; the list is known only through the
lookup function of the store. Segments have open ends, so that every operation
splits a list, changes the nodes at the cut and joins the pieces again.
-/

import Mathlib.Data.List.Nodup

namespace SpotExchange
namespace Collections
namespace IntrusiveList

universe u v w

variable {Key : Type u} {Item : Type v} {Node : Type w}

/-- Where the items begin, or what follows when there are none. -/
def first (key : Item → Key) (items : List Item) (after : Option Key) : Option Key :=
  match items with
  | [] => after
  | item :: _ => some (key item)

/-- Where the items end, or what precedes when there are none. -/
def last (key : Item → Key) (before : Option Key) : List Item → Option Key
  | [] => before
  | item :: rest => last key (some (key item)) rest

/-- The nodes of consecutive items name each other, the first one names `before`
and the last one names `after`. -/
def Segment (key : Item → Key) (node : Item → Option Key → Option Key → Node)
    (look : Key → Option Node) : Option Key → List Item → Option Key → Prop
  | _, [], _ => True
  | before, item :: rest, after =>
      look (key item) = some (node item (first key rest after) before) ∧
        Segment key node look (some (key item)) rest after

section Ends

variable (key : Item → Key)

@[simp]
theorem first_nil (after : Option Key) : first key [] after = after := rfl

@[simp]
theorem first_cons (item : Item) (rest : List Item) (after : Option Key) :
    first key (item :: rest) after = some (key item) := rfl

theorem first_append (front back : List Item) (after : Option Key) :
    first key (front ++ back) after = first key front (first key back after) := by
  cases front <;> rfl

@[simp]
theorem last_nil (before : Option Key) : last key before [] = before := rfl

@[simp]
theorem last_cons (before : Option Key) (item : Item) (rest : List Item) :
    last key before (item :: rest) = last key (some (key item)) rest := rfl

theorem last_append (before : Option Key) (front back : List Item) :
    last key before (front ++ back) = last key (last key before front) back := by
  induction front generalizing before with
  | nil => rfl
  | cons item rest ih => exact ih (some (key item))

@[simp]
theorem last_concat (before : Option Key) (front : List Item) (item : Item) :
    last key before (front ++ [item]) = some (key item) := by
  rw [last_append]
  rfl

end Ends

namespace Segment

variable {key : Item → Key} {node : Item → Option Key → Option Key → Node}
  {look changed : Key → Option Node} {before after : Option Key}

/-- Only the nodes of its own items matter to a segment. -/
theorem frame {items : List Item} (linked : Segment key node look before items after)
    (same : ∀ item ∈ items, changed (key item) = look (key item)) :
    Segment key node changed before items after := by
  induction items generalizing before with
  | nil => trivial
  | cons item rest ih =>
      constructor
      · rw [same item List.mem_cons_self]
        exact linked.1
      · exact ih linked.2 (fun other member => same other (List.mem_cons_of_mem item member))

theorem append_iff (front back : List Item) :
    Segment key node look before (front ++ back) after ↔
      Segment key node look before front (first key back after) ∧
        Segment key node look (last key before front) back after := by
  induction front generalizing before with
  | nil => simp [Segment]
  | cons item rest ih =>
      simp only [List.cons_append, Segment, ih, first_append, last_cons, and_assoc]

theorem look_of_mem {items : List Item} (linked : Segment key node look before items after)
    {item : Item} (member : item ∈ items) :
    ∃ next prev, look (key item) = some (node item next prev) := by
  obtain ⟨front, back, split⟩ := List.append_of_mem member
  subst split
  exact ⟨_, _, ((append_iff front (item :: back)).mp linked).2.1⟩

/-- A segment fixes the nodes of its items. -/
theorem look_eq {items : List Item} (linked : Segment key node look before items after)
    (relinked : Segment key node changed before items after) {item : Item}
    (member : item ∈ items) : changed (key item) = look (key item) := by
  obtain ⟨front, back, split⟩ := List.append_of_mem member
  subst split
  have here := ((append_iff front (item :: back)).mp linked).2.1
  have there := ((append_iff front (item :: back)).mp relinked).2.1
  exact there.trans here.symm

/-- The first node is made to hold another item of the same key, or to name
another predecessor. -/
theorem relink_front {item newItem : Item} {rest : List Item} {newBefore : Option Key}
    (linked : Segment key node look before (item :: rest) after)
    (sameKey : key newItem = key item)
    (written : changed (key item) = some (node newItem (first key rest after) newBefore))
    (same : ∀ other ∈ rest, changed (key other) = look (key other)) :
    Segment key node changed newBefore (newItem :: rest) after := by
  refine ⟨?_, ?_⟩
  · rw [sameKey]
    exact written
  · rw [sameKey]
    exact linked.2.frame same

/-- The last node is made to name another successor. -/
theorem relink_back {item : Item} {front : List Item} {newAfter : Option Key}
    (linked : Segment key node look before (front ++ [item]) after)
    (written : changed (key item) = some (node item newAfter (last key before front)))
    (same : ∀ other ∈ front, changed (key other) = look (key other)) :
    Segment key node changed before (front ++ [item]) newAfter := by
  have pieces := (append_iff front [item]).mp linked
  refine (append_iff front [item]).mpr ⟨pieces.1.frame same, ?_⟩
  exact ⟨written, trivial⟩

/-- An item is appended: the old last node names it and it names that node. -/
theorem push {items : List Item} {item : Item}
    (linked : Segment key node look before items none)
    (placed : changed (key item) = some (node item none (last key before items)))
    (lastWritten : ∀ front lastItem, items = front ++ [lastItem] →
      changed (key lastItem) =
        some (node lastItem (some (key item)) (last key before front)))
    (same : ∀ front lastItem, items = front ++ [lastItem] →
      ∀ other ∈ front, changed (key other) = look (key other)) :
    Segment key node changed before (items ++ [item]) none := by
  refine (append_iff items [item]).mpr ⟨?_, ⟨placed, trivial⟩⟩
  rcases List.eq_nil_or_concat' items with empty | ⟨front, lastItem, split⟩
  · subst empty
    trivial
  · subst split
    exact linked.relink_back (lastWritten front lastItem rfl) (same front lastItem rfl)

/-- An item is taken out, wherever it stands: its neighbours name each other. -/
theorem unlink {front back : List Item} {item : Item}
    (linked : Segment key node look before (front ++ item :: back) after)
    (frontWritten : ∀ initial lastItem, front = initial ++ [lastItem] →
      changed (key lastItem) =
          some (node lastItem (first key back after) (last key before initial)) ∧
        ∀ other ∈ initial, changed (key other) = look (key other))
    (backWritten : ∀ firstItem rest, back = firstItem :: rest →
      changed (key firstItem) =
          some (node firstItem (first key rest after) (last key before front)) ∧
        ∀ other ∈ rest, changed (key other) = look (key other)) :
    Segment key node changed before (front ++ back) after := by
  have pieces := (append_iff front (item :: back)).mp linked
  refine (append_iff front back).mpr ⟨?_, ?_⟩
  · rcases List.eq_nil_or_concat' front with empty | ⟨initial, lastItem, split⟩
    · subst empty
      trivial
    · subst split
      have writes := frontWritten initial lastItem rfl
      exact pieces.1.relink_back writes.1 writes.2
  · cases back with
    | nil => trivial
    | cons firstItem rest =>
        have writes := backWritten firstItem rest rfl
        exact pieces.2.2.relink_front rfl writes.1 writes.2

/-- One item changes in place and keeps its key and its neighbours. -/
theorem rewrite {front back : List Item} {item newItem : Item}
    (linked : Segment key node look before (front ++ item :: back) after)
    (sameKey : key newItem = key item)
    (written : changed (key item) =
      some (node newItem (first key back after) (last key before front)))
    (sameFront : ∀ other ∈ front, changed (key other) = look (key other))
    (sameBack : ∀ other ∈ back, changed (key other) = look (key other)) :
    Segment key node changed before (front ++ newItem :: back) after := by
  have pieces := (append_iff front (item :: back)).mp linked
  refine (append_iff front (newItem :: back)).mpr ⟨?_, pieces.2.relink_front sameKey written sameBack⟩
  rw [first_cons, sameKey]
  exact pieces.1.frame sameFront

end Segment

end IntrusiveList
end Collections
end SpotExchange
