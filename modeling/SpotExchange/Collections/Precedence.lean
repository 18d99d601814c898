/-
The relative order of two elements of a list.
-/

import Mathlib.Data.List.Nodup

namespace SpotExchange
namespace Collections

universe u

variable {α : Type u}

/-- One element stands somewhere before another. -/
def Precedes (list : List α) (earlier later : α) : Prop := [earlier, later].Sublist list

namespace Precedes

variable {list : List α} {earlier later : α}

theorem mono {longer : List α} (precedes : Precedes list earlier later)
    (inside : list.Sublist longer) : Precedes longer earlier later :=
  List.Sublist.trans precedes inside

/-- In a sorted list the smaller element stands before the larger one. -/
theorem of_sorted {relation : α → α → Prop} (sorted : list.Pairwise relation)
    (asymmetric : ∀ first second, relation first second → ¬relation second first)
    (earlierMember : earlier ∈ list) (laterMember : later ∈ list)
    (smaller : relation earlier later) : Precedes list earlier later := by
  obtain ⟨front, back, split⟩ := List.append_of_mem laterMember
  subst split
  rcases List.mem_append.mp earlierMember with early | rest
  · have first : [earlier].Sublist front := List.singleton_sublist.mpr early
    have second : [later].Sublist (later :: back) :=
      List.singleton_sublist.mpr List.mem_cons_self
    exact first.append second
  · have sortedBack := (List.pairwise_append.mp sorted).2.1
    rcases List.mem_cons.mp rest with same | late
    · subst same
      exact absurd smaller (asymmetric earlier earlier smaller)
    · have larger := (List.pairwise_cons.mp sortedBack).1 earlier late
      exact absurd larger (asymmetric earlier later smaller)

/-- What precedes an element stands in front of it. -/
theorem mem_front {front back : List α} (distinct : (front ++ later :: back).Nodup)
    (precedes : Precedes (front ++ later :: back) earlier later) : earlier ∈ front := by
  obtain ⟨first, second, split, inFront, inBack⟩ := List.sublist_append_iff.mp precedes
  cases first with
  | nil =>
      have both : [earlier, later].Sublist (later :: back) := by
        rw [split]
        exact inBack
      have once := (List.nodup_cons.mp (List.nodup_append.mp distinct).2.1).1
      have twice : later ∈ back := by
        rcases List.sublist_cons_iff.mp both with late | ⟨rest, cut, inside⟩
        · exact late.mem (List.mem_cons_of_mem earlier List.mem_cons_self)
        · rw [← (List.cons.inj cut).2] at inside
          exact List.singleton_sublist.mp inside
      exact absurd twice once
  | cons item rest =>
      rw [(List.cons.inj split).1]
      exact inFront.mem List.mem_cons_self

/-- What stands in a prefix is preceded there by all that precedes it. -/
theorem of_prefix {front : List α} (isFront : front <+: list) (distinct : list.Nodup)
    (member : later ∈ front) (precedes : Precedes list earlier later) :
    Precedes front earlier later := by
  obtain ⟨back, whole⟩ := isFront
  obtain ⟨first, rest, split⟩ := List.append_of_mem member
  subst split
  rw [← whole, List.append_assoc, List.cons_append] at precedes distinct
  have inFront : [earlier].Sublist first :=
    List.singleton_sublist.mpr (mem_front distinct precedes)
  have there : [later].Sublist (later :: rest) := List.singleton_sublist.mpr List.mem_cons_self
  exact inFront.append there

theorem asymmetric (distinct : list.Nodup) (precedes : Precedes list earlier later) :
    ¬Precedes list later earlier := by
  intro reversed
  have member : earlier ∈ list := precedes.mem List.mem_cons_self
  obtain ⟨front, back, split⟩ := List.append_of_mem member
  subst split
  have laterFirst : later ∈ front := mem_front distinct reversed
  have apart := (List.nodup_append.mp distinct).2.2
  obtain ⟨first, second, cut, inFront, inBack⟩ := List.sublist_append_iff.mp precedes
  cases first with
  | nil =>
      have inside : later ∈ earlier :: back := by
        have both : [earlier, later].Sublist (earlier :: back) := by
          rw [cut]
          exact inBack
        exact both.mem (List.mem_cons_of_mem _ List.mem_cons_self)
      exact apart later laterFirst later inside rfl
  | cons item rest =>
      have here : item ∈ front := inFront.mem List.mem_cons_self
      rw [← (List.cons.inj cut).1] at here
      exact apart earlier here earlier List.mem_cons_self rfl

/-- Elements that stay keep their order when others leave. -/
theorem of_sublist {shorter : List α} (inside : shorter.Sublist list) (distinct : list.Nodup)
    (earlierStays : earlier ∈ shorter) (laterStays : later ∈ shorter)
    (precedes : Precedes list earlier later) : Precedes shorter earlier later := by
  obtain ⟨front, back, split⟩ := List.append_of_mem laterStays
  subst split
  have here : [later].Sublist (later :: back) := List.singleton_sublist.mpr List.mem_cons_self
  rcases List.mem_append.mp earlierStays with early | rest
  · have first : [earlier].Sublist front := List.singleton_sublist.mpr early
    exact first.append here
  · rcases List.mem_cons.mp rest with same | late
    · subst same
      exact absurd precedes (asymmetric distinct precedes)
    · have after : [earlier].Sublist back := List.singleton_sublist.mpr late
      have reversed : Precedes list later earlier :=
        ((after.cons_cons later).trans (List.sublist_append_right front _)).trans inside
      exact absurd reversed (asymmetric distinct precedes)

theorem of_concat {last : α} (precedes : Precedes (list ++ [last]) earlier later)
    (distinct : (list ++ [last]).Nodup) (other : later ≠ last) : Precedes list earlier later := by
  have member : later ∈ list ++ [last] :=
    precedes.mem (List.mem_cons_of_mem _ List.mem_cons_self)
  have inside : later ∈ list :=
    (List.mem_append.mp member).resolve_right (fun atEnd => other (List.mem_singleton.mp atEnd))
  exact of_prefix (List.prefix_append list [last]) distinct inside precedes

/-- Two elements keep their order where both are kept. -/
theorem filter {keeps : α → Bool} (precedes : Precedes list earlier later)
    (keepsEarlier : keeps earlier = true) (keepsLater : keeps later = true) :
    Precedes (list.filter keeps) earlier later := by
  have kept : [earlier, later].filter keeps = [earlier, later] :=
    List.filter_eq_self.mpr (by simp [keepsEarlier, keepsLater])
  have filtered : ([earlier, later].filter keeps).Sublist (list.filter keeps) :=
    List.Sublist.filter keeps precedes
  rw [kept] at filtered
  exact filtered

end Precedes

end Collections
end SpotExchange
