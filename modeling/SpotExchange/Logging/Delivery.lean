/-
What the log queue delivers while the test of its producers holds them back from a full
queue, in any interleaving and over any number of laps.
-/

import SpotExchange.Collections.Laps
import SpotExchange.Logging.Queue

namespace SpotExchange
namespace Logging

open Collections Machine

variable {Entry : Type} {capacity : Capacity}

/-! ### Places -/

/-- The index of a ticket. -/
def place (capacity : Capacity) (ticket : Nat) : UInt64 :=
  Queue.masked capacity (UInt64.ofNat ticket)

theorem place_toNat (capacity : Capacity) (ticket : Nat) :
    (place capacity ticket).toNat = ticket % 2 ^ capacity.bits :=
  toNat_and_mask capacity.bounded ticket

theorem place_apart {start first second : Nat} (firstFrom : start ≤ first)
    (firstTo : first < start + 2 ^ capacity.bits) (secondFrom : start ≤ second)
    (secondTo : second < start + 2 ^ capacity.bits) (different : first ≠ second) :
    place capacity first ≠ place capacity second := by
  intro same
  apply different
  apply same_lap firstFrom firstTo secondFrom secondTo
  rw [← place_toNat, ← place_toNat, same]

theorem place_next_lap (capacity : Capacity) (ticket : Nat) :
    place capacity (ticket + 2 ^ capacity.bits) = place capacity ticket := by
  apply UInt64.toNat_inj.mp
  rw [place_toNat, place_toNat, Nat.add_mod_right]

theorem place_succ (capacity : Capacity) (ticket : Nat) :
    (place capacity ticket + 1) &&& (capacity.size - 1) = place capacity (ticket + 1) := by
  have small : 2 ^ capacity.bits < 2 ^ 64 := Nat.pow_lt_pow_right (by decide) capacity.bounded
  have inside := Nat.mod_lt ticket (Nat.two_pow_pos capacity.bits)
  have next : place capacity ticket + 1 = UInt64.ofNat (ticket % 2 ^ capacity.bits + 1) := by
    apply UInt64.toNat_inj.mp
    rw [UInt64.toNat_add, place_toNat, UInt64.toNat_ofNat']
    rfl
  apply UInt64.toNat_inj.mp
  rw [place_toNat, next]
  have masked := toNat_and_mask capacity.bounded (ticket % 2 ^ capacity.bits + 1)
  refine masked.trans ?_
  rw [Nat.mod_add_mod]

namespace System

/-! ### What is delivered -/

/-- Nothing is lost, repeated or overwritten: the entries are returned and popped in the order
of their tickets, each before the next is returned, and what is published and not popped is in
its place. -/
structure Intact (capacity : Capacity) (system : System Entry) : Prop where
  neverOverwritten : system.history.overwritten = false
  returnedInOrder : system.history.returned <+: system.history.emplaced.map some
  poppedInOrder : system.history.popped <+: system.history.returned
  oneAtATime : system.history.returned.length ≤ system.history.popped.length + 1
  held : ∀ ticket ∈ system.history.published, system.history.popped.length ≤ ticket →
    system.queue.buffer (place capacity ticket) =
      { logEntry := system.history.emplaced[ticket]?
        isConstructed := true }

end System

/-- Where the test lets a producer with a ticket through, the queue is not full: fewer entries
than its size were reserved before and have yet to be popped. -/
def Emplace.HeldBack (capacity : Capacity) (queue : Queue Entry) (completed : Nat) :
    Emplace Entry → Prop
  | .reserved ticket head _ =>
      queue.mustWait capacity head = true ∨ ticket < completed + 2 ^ capacity.bits
  | _ => True

instance (queue : Queue Entry) (completed : Nat) (phase : Emplace Entry) :
    Decidable (phase.HeldBack capacity queue completed) := by
  cases phase with
  | reserved ticket head entry => exact inferInstanceAs (Decidable (_ ∨ _))
  | _ => exact isTrue trivial

namespace System

def HoldsBack (capacity : Capacity) (system : System Entry) : Event Entry → Prop
  | .testTail producer =>
      (system.producers producer).HeldBack capacity system.queue system.history.completed
  | _ => True

instance (system : System Entry) (event : Event Entry) :
    Decidable (system.HoldsBack capacity event) := by
  cases event with
  | testTail producer =>
      exact inferInstanceAs (Decidable ((system.producers producer).HeldBack _ _ _))
  | _ => exact isTrue trivial

end System

/-! ### The invariant -/

namespace Emplace

def ticket? : Emplace Entry → Option Nat
  | .outside => none
  | .reserved ticket _ _ => some ticket
  | .admitted ticket _ _ => some ticket
  | .constructed ticket _ _ => some ticket

/-- What a producer has reserved, and how far its entry is. -/
def Sound (capacity : Capacity) (history : History Entry) : Emplace Entry → Prop
  | .outside => True
  | .reserved ticket head entry =>
      head = UInt64.ofNat ticket ∧ history.emplaced[ticket]? = some entry ∧
        ticket ∉ history.constructed
  | .admitted ticket head entry =>
      head = UInt64.ofNat ticket ∧ history.emplaced[ticket]? = some entry ∧
        ticket ∉ history.constructed ∧ ticket < history.completed + 2 ^ capacity.bits
  | .constructed ticket head entry =>
      head = UInt64.ofNat ticket ∧ history.emplaced[ticket]? = some entry ∧
        ticket ∈ history.constructed ∧ ticket ∉ history.published

theorem Sound.reserved_inside {history : History Entry} {phase : Emplace Entry} {ticket : Nat}
    (sound : phase.Sound capacity history) (isTicket : phase.ticket? = some ticket) :
    ticket < history.emplaced.length := by
  cases phase with
  | outside => cases isTicket
  | reserved other head entry =>
      cases isTicket
      exact (List.getElem?_eq_some_iff.mp sound.2.1).1
  | admitted other head entry =>
      cases isTicket
      exact (List.getElem?_eq_some_iff.mp sound.2.1).1
  | constructed other head entry =>
      cases isTicket
      exact (List.getElem?_eq_some_iff.mp sound.2.1).1

/-- A phase stays sound while its own ticket is left alone. -/
theorem Sound.frame {history next : History Entry} {phase : Emplace Entry}
    (sound : phase.Sound capacity history)
    (emplaced : ∀ (ticket : Nat) (entry : Entry), history.emplaced[ticket]? = some entry →
      next.emplaced[ticket]? = some entry)
    (constructed : ∀ ticket, phase.ticket? = some ticket →
      (ticket ∈ next.constructed ↔ ticket ∈ history.constructed))
    (published : ∀ ticket, phase.ticket? = some ticket →
      (ticket ∈ next.published ↔ ticket ∈ history.published))
    (completed : history.completed ≤ next.completed) : phase.Sound capacity next := by
  cases phase with
  | outside => trivial
  | reserved ticket head entry =>
      obtain ⟨isHead, isEntry, absent⟩ := sound
      exact ⟨isHead, emplaced ticket entry isEntry, (constructed ticket rfl).not.mpr absent⟩
  | admitted ticket head entry =>
      obtain ⟨isHead, isEntry, absent, room⟩ := sound
      exact ⟨isHead, emplaced ticket entry isEntry, (constructed ticket rfl).not.mpr absent,
        Nat.lt_of_lt_of_le room (Nat.add_le_add_right completed _)⟩
  | constructed ticket head entry =>
      obtain ⟨isHead, isEntry, present, unpublished⟩ := sound
      exact ⟨isHead, emplaced ticket entry isEntry, (constructed ticket rfl).mpr present,
        (published ticket rfl).not.mpr unpublished⟩

end Emplace

namespace Writer

/-- How many entries the writer has returned beyond the pops that are over. -/
def ahead : Writer → Nat
  | .looking => 0
  | _ => 1

/-- How many it has destroyed beyond them. -/
def gone : Writer → Nat
  | .destroyed => 1
  | .cleared => 1
  | _ => 0

/-- How many flags it has cleared beyond them. -/
def wiped : Writer → Nat
  | .cleared => 1
  | _ => 0

/-- The steps that it has taken towards the next entry. -/
def rank : Writer → Nat
  | .looking => 0
  | .returned => 1
  | .tested => 2
  | .destroyed => 3
  | .cleared => 4

theorem gone_le_ahead (writer : Writer) : writer.gone ≤ writer.ahead := by
  cases writer <;> decide

theorem ahead_le_one (writer : Writer) : writer.ahead ≤ 1 := by
  cases writer <;> decide

theorem wiped_le_gone (writer : Writer) : writer.wiped ≤ writer.gone := by
  cases writer <;> decide

theorem rank_lt (writer : Writer) : writer.rank < 5 := by
  cases writer <;> decide

end Writer

namespace System

/-- The entry of a ticket of the current lap has been constructed and not destroyed. -/
def Stands (system : System Entry) (ticket : Nat) : Prop :=
  ticket ∈ system.history.constructed ∧
    ¬(ticket = system.history.completed ∧ system.writer.gone = 1)

/-- Its flag has been set and not cleared. -/
def Flagged (system : System Entry) (ticket : Nat) : Prop :=
  ticket ∈ system.history.published ∧
    ¬(ticket = system.history.completed ∧ system.writer.wiped = 1)

/-- An index holds what there is of the entry of a ticket. -/
structure Holds (system : System Entry) (ticket : Nat) (index : QueueIndex Entry) : Prop where
  standing : system.Stands ticket → index.logEntry = system.history.emplaced[ticket]?
  empty : ¬system.Stands ticket → index.logEntry = none
  flag : index.isConstructed = true ↔ system.Flagged ticket

/-- The producers hold different tickets, each as far as its phase says. -/
structure ProducersSound (capacity : Capacity) (system : System Entry) : Prop where
  phases : ∀ producer, (system.producers producer).Sound capacity system.history
  apart : ∀ producer other ticket, (system.producers producer).ticket? = some ticket →
    (system.producers other).ticket? = some ticket → producer = other

/-- The tickets that were constructed, published and popped follow on one another. -/
structure TicketsSound (capacity : Capacity) (system : System Entry) : Prop where
  constructed : ∀ ticket ∈ system.history.constructed,
    ticket < system.history.completed + 2 ^ capacity.bits ∧
      ticket < system.history.emplaced.length
  published : ∀ ticket ∈ system.history.published, ticket ∈ system.history.constructed
  past : ∀ ticket, ticket < system.history.completed → ticket ∈ system.history.published
  present : system.writer.ahead = 1 → system.history.completed ∈ system.history.published

structure Sound (capacity : Capacity) (system : System Entry) : Prop where
  head : system.queue.head = UInt64.ofNat system.history.emplaced.length
  tail : system.queue.tail = place capacity system.history.completed
  buffer : ∀ ticket, system.history.completed ≤ ticket →
    ticket < system.history.completed + 2 ^ capacity.bits →
    system.Holds ticket (system.queue.buffer (place capacity ticket))
  producers : ProducersSound capacity system
  tickets : TicketsSound capacity system
  returned : system.history.returned =
    (system.history.emplaced.take
      (system.history.completed + system.writer.ahead)).map some
  popped : system.history.popped =
    (system.history.emplaced.take
      (system.history.completed + system.writer.gone)).map some
  neverOverwritten : system.history.overwritten = false

theorem start_sound (capacity : Capacity) : Sound capacity (start : System Entry) where
  head := rfl
  tail := by
    apply UInt64.toNat_inj.mp
    exact ((place_toNat capacity 0).trans (Nat.zero_mod _)).symm
  buffer := by
    intro ticket _from _to
    constructor
    · intro stands
      cases stands.1
    · intro _absent
      rfl
    · constructor
      · intro set
        cases set
      · intro flagged
        cases flagged.1
  producers :=
    { phases := fun _ => trivial
      apart := by
        intro producer other ticket holds
        cases holds }
  tickets :=
    { constructed := by
        intro ticket member
        cases member
      published := by
        intro ticket member
        cases member
      past := by
        intro ticket before
        exact absurd before (Nat.not_lt_zero ticket)
      present := by
        intro ahead
        cases ahead }
  returned := rfl
  popped := rfl
  neverOverwritten := rfl

section Steps

variable {system next : System Entry} {producer : Nat}

theorem Holds.frame {ticket : Nat} {index : QueueIndex Entry} (holds : system.Holds ticket index)
    (emplaced : next.history.emplaced = system.history.emplaced)
    (stands : next.Stands ticket ↔ system.Stands ticket)
    (flagged : next.Flagged ticket ↔ system.Flagged ticket) : next.Holds ticket index where
  standing := by
    intro standing
    rw [emplaced]
    exact holds.standing (stands.mp standing)
  empty := by
    intro absent
    exact holds.empty (stands.not.mp absent)
  flag := holds.flag.trans flagged.symm

/-- The writer moves on without touching what is in the buffer. -/
theorem Holds.moves {ticket : Nat} {index : QueueIndex Entry} (holds : system.Holds ticket index)
    (emplaced : next.history.emplaced = system.history.emplaced)
    (constructed : next.history.constructed = system.history.constructed)
    (published : next.history.published = system.history.published)
    (completed : next.history.completed = system.history.completed)
    (gone : next.writer.gone = system.writer.gone)
    (wiped : next.writer.wiped = system.writer.wiped) : next.Holds ticket index := by
  apply holds.frame emplaced
  · unfold Stands
    rw [constructed, completed, gone]
  · unfold Flagged
    rw [published, completed, wiped]

/-- Away from the tail, it does not matter where the writer is. -/
theorem Holds.elsewhere {ticket : Nat} {index : QueueIndex Entry}
    (holds : system.Holds ticket index) (different : ticket ≠ system.history.completed)
    (emplaced : next.history.emplaced = system.history.emplaced)
    (constructed : next.history.constructed = system.history.constructed)
    (published : next.history.published = system.history.published)
    (completed : next.history.completed = system.history.completed) :
    next.Holds ticket index := by
  have away : ∀ more, ¬(ticket = system.history.completed ∧ more = 1) :=
    fun _ both => different both.1
  apply holds.frame emplaced
  · unfold Stands
    rw [constructed, completed]
    exact and_congr_right' (iff_of_true (away _) (away _))
  · unfold Flagged
    rw [published, completed]
    exact and_congr_right' (iff_of_true (away _) (away _))

/-- One producer moves on, with a ticket that no other one holds. -/
theorem ProducersSound.update (sound : ProducersSound capacity system) {phase : Emplace Entry}
    (written : next.producers = Function.update system.producers producer phase)
    (own : phase.Sound capacity next.history)
    (others : ∀ other, other ≠ producer →
      (system.producers other).Sound capacity next.history)
    (apart : ∀ ticket, phase.ticket? = some ticket → ∀ other, other ≠ producer →
      (system.producers other).ticket? ≠ some ticket) : ProducersSound capacity next := by
  have here : next.producers producer = phase := by
    rw [written]
    exact Function.update_self producer phase system.producers
  have elsewhere : ∀ other, other ≠ producer → next.producers other = system.producers other := by
    intro other different
    rw [written]
    exact Function.update_of_ne different phase system.producers
  constructor
  · intro other
    by_cases same : other = producer
    · rw [same, here]
      exact own
    · rw [elsewhere other same]
      exact others other same
  · intro first second ticket holdsFirst holdsSecond
    by_cases isFirst : first = producer
    · by_cases isSecond : second = producer
      · rw [isFirst, isSecond]
      · rw [isFirst, here] at holdsFirst
        rw [elsewhere second isSecond] at holdsSecond
        exact absurd holdsSecond (apart ticket holdsFirst second isSecond)
    · rw [elsewhere first isFirst] at holdsFirst
      by_cases isSecond : second = producer
      · rw [isSecond, here] at holdsSecond
        exact absurd holdsFirst (apart ticket holdsSecond first isFirst)
      · rw [elsewhere second isSecond] at holdsSecond
        exact sound.apart first second ticket holdsFirst holdsSecond

/-- A producer that keeps its ticket keeps it to itself. -/
theorem ProducersSound.keeps (sound : ProducersSound capacity system) {ticket : Nat}
    (holds : (system.producers producer).ticket? = some ticket) :
    ∀ other, other ≠ producer → (system.producers other).ticket? ≠ some ticket := by
  intro other different holdsOther
  exact different (sound.apart other producer ticket holdsOther holds)

theorem ProducersSound.frame (sound : ProducersSound capacity system)
    (producers : next.producers = system.producers)
    (emplaced : next.history.emplaced = system.history.emplaced)
    (constructed : next.history.constructed = system.history.constructed)
    (published : next.history.published = system.history.published)
    (completed : system.history.completed ≤ next.history.completed) :
    ProducersSound capacity next where
  phases := by
    intro producer
    rw [producers]
    apply (sound.phases producer).frame _ _ _ completed
    · intro ticket entry isEntry
      rw [emplaced]
      exact isEntry
    · intro ticket _holds
      rw [constructed]
    · intro ticket _holds
      rw [published]
  apart := by
    rw [producers]
    exact sound.apart

/-- The tickets that the writer has come to are reserved. -/
theorem TicketsSound.reserved (sound : TicketsSound capacity system) :
    system.history.completed + system.writer.ahead ≤ system.history.emplaced.length := by
  cases ahead : system.writer.ahead with
  | zero =>
      cases completed : system.history.completed with
      | zero => exact Nat.zero_le _
      | succ before =>
          have past := sound.past before (by omega)
          exact (sound.constructed before (sound.published before past)).2
  | succ more =>
      have one : system.writer.ahead = 1 := by
        cases writer : system.writer <;> rw [writer] at ahead <;> first | rfl | cases ahead
      have here := sound.published _ (sound.present one)
      have inside := (sound.constructed _ here).2
      omega

/-- A reservation takes the next ticket. -/
theorem Sound.fetchAdd (sound : Sound capacity system) {entry : Entry}
    (returned : system.step capacity (.fetchAdd producer entry) = .ok next) :
    Sound capacity next := by
  simp only [step] at returned
  split at returned
  · rename_i outside
    cases returned
    have reserved := sound.tickets.reserved
    have gone := Writer.gone_le_ahead system.writer
    have old : ∀ (ticket : Nat) (other : Entry),
        system.history.emplaced[ticket]? = some other →
          (system.history.emplaced ++ [entry])[ticket]? = some other := by
      intro ticket other isEntry
      have inside := (List.getElem?_eq_some_iff.mp isEntry).1
      rw [List.getElem?_append_left inside]
      exact isEntry
    have kept : ∀ count, count ≤ system.history.emplaced.length →
        (system.history.emplaced ++ [entry]).take count = system.history.emplaced.take count :=
      fun _ inside => List.take_append_of_le_length inside
    have new : system.history.emplaced.length ∉ system.history.constructed := by
      intro member
      exact absurd (sound.tickets.constructed _ member).2 (Nat.lt_irrefl _)
    constructor
    · have counted : (system.history.emplaced ++ [entry]).length =
          system.history.emplaced.length + 1 := List.length_append
      change system.queue.head + 1 = UInt64.ofNat (system.history.emplaced ++ [entry]).length
      rw [counted, sound.head, UInt64.ofNat_add]
      rfl
    · exact sound.tail
    · intro ticket fromHere toHere
      have held := sound.buffer ticket fromHere toHere
      constructor
      · intro stands
        have inside := (sound.tickets.constructed ticket stands.1).2
        exact (held.standing stands).trans (List.getElem?_append_left inside).symm
      · exact held.empty
      · exact held.flag
    · apply sound.producers.update rfl
      · exact ⟨sound.head, List.getElem?_concat_length, new⟩
      · intro other _different
        apply (sound.producers.phases other).frame old
        · intro ticket _holds
          rfl
        · intro ticket _holds
          rfl
        · exact Nat.le_refl _
      · intro ticket isTicket other _different holds
        cases isTicket
        exact absurd ((sound.producers.phases other).reserved_inside holds) (Nat.lt_irrefl _)
    · constructor
      · intro ticket member
        obtain ⟨lap, inside⟩ := sound.tickets.constructed ticket member
        refine ⟨lap, ?_⟩
        rw [List.length_append]
        exact Nat.lt_of_lt_of_le inside (Nat.le_add_right _ _)
      · exact sound.tickets.published
      · exact sound.tickets.past
      · exact sound.tickets.present
    · exact sound.returned.trans (congrArg (List.map some) (kept _ reserved).symm)
    · exact sound.popped.trans (congrArg (List.map some) (kept _ (by omega)).symm)
    · exact sound.neverOverwritten
  · cases returned

/-- The test moves a producer on, or not. -/
theorem Sound.testTail (sound : Sound capacity system)
    (held : system.HoldsBack capacity (.testTail producer))
    (returned : system.step capacity (.testTail producer) = .ok next) :
    Sound capacity next := by
  simp only [step] at returned
  split at returned
  · rename_i ticket head entry phase
    split at returned
    · cases returned
      exact sound
    · rename_i through
      cases returned
      have isPhase := sound.producers.phases producer
      rw [phase] at isPhase
      obtain ⟨isHead, isEntry, absent⟩ := isPhase
      have holds : (system.producers producer).ticket? = some ticket := by
        rw [phase]
        rfl
      have room : ticket < system.history.completed + 2 ^ capacity.bits := by
        simp only [HoldsBack, phase, Emplace.HeldBack] at held
        exact held.resolve_left through
      exact
        { head := sound.head
          tail := sound.tail
          buffer := by
            intro other fromOther toOther
            exact (sound.buffer other fromOther toOther).frame rfl Iff.rfl Iff.rfl
          producers := by
            apply sound.producers.update rfl
            · exact ⟨isHead, isEntry, absent, room⟩
            · intro other _different
              exact sound.producers.phases other
            · intro other isTicket
              cases isTicket
              exact sound.producers.keeps holds
          tickets :=
            { constructed := sound.tickets.constructed
              published := sound.tickets.published
              past := sound.tickets.past
              present := sound.tickets.present }
          returned := sound.returned
          popped := sound.popped
          neverOverwritten := sound.neverOverwritten }
  · cases returned

/-- What is written at the place of a ticket leaves the other places of the lap alone. -/
theorem Sound.buffer_set (sound : Sound capacity system) {ticket : Nat}
    (fromHere : system.history.completed ≤ ticket)
    (toHere : ticket < system.history.completed + 2 ^ capacity.bits)
    {written : QueueIndex Entry} (now : next.Holds ticket written)
    (others : ∀ other index, other ≠ ticket → system.Holds other index → next.Holds other index)
    (other : Nat) (fromOther : system.history.completed ≤ other)
    (toOther : other < system.history.completed + 2 ^ capacity.bits) :
    next.Holds other
      ((system.queue.setIndex (place capacity ticket) written).buffer (place capacity other)) := by
  by_cases same : other = ticket
  · have here : (system.queue.setIndex (place capacity ticket) written).buffer
        (place capacity other) = written := by
      rw [same]
      exact Function.update_self _ _ _
    rw [here, same]
    exact now
  · have away : (system.queue.setIndex (place capacity ticket) written).buffer
        (place capacity other) = system.queue.buffer (place capacity other) :=
      Function.update_of_ne (place_apart fromOther toOther fromHere toHere same) _ _
    rw [away]
    exact others other _ same (sound.buffer other fromOther toOther)

/-- A ticket that is not published has not been popped. -/
theorem TicketsSound.unpopped (sound : TicketsSound capacity system) {ticket : Nat}
    (unpublished : ticket ∉ system.history.published) : system.history.completed ≤ ticket := by
  by_contra before
  exact unpublished (sound.past ticket (Nat.lt_of_not_le before))

/-- An entry is constructed in a place that is free. -/
theorem Sound.construct (sound : Sound capacity system)
    (returned : system.step capacity (.construct producer) = .ok next) :
    Sound capacity next := by
  simp only [step] at returned
  split at returned
  · rename_i ticket head entry phase
    cases returned
    have isPhase := sound.producers.phases producer
    rw [phase] at isPhase
    obtain ⟨isHead, isEntry, absent, room⟩ := isPhase
    have holds : (system.producers producer).ticket? = some ticket := by
      rw [phase]
      rfl
    have unpublished : ticket ∉ system.history.published :=
      fun member => absent (sound.tickets.published ticket member)
    have here := sound.tickets.unpopped unpublished
    have inside := (List.getElem?_eq_some_iff.mp isEntry).1
    have free : system.isHeld capacity ticket = false :=
      decide_eq_false (Nat.not_le.mpr room)
    have notGone : ¬(ticket = system.history.completed ∧ system.writer.gone = 1) := by
      rintro ⟨same, gone⟩
      have atLeast := Writer.gone_le_ahead system.writer
      have atMost := Writer.ahead_le_one system.writer
      have ahead : system.writer.ahead = 1 := by omega
      exact unpublished (same ▸ sound.tickets.present ahead)
    constructor
    · exact sound.head
    · exact sound.tail
    · intro other fromOther toOther
      have isPlace : Queue.masked capacity head = place capacity ticket := by
        rw [isHead]
        rfl
      have held := sound.buffer ticket here room
      simp only [Queue.construct, isPlace]
      apply sound.buffer_set here room _ _ other fromOther toOther
      · constructor
        · intro _stands
          exact isEntry.symm
        · intro absent
          exact absurd ⟨List.mem_cons_self, notGone⟩ absent
        · exact held.flag
      · intro another index different holdsIndex
        refine holdsIndex.frame rfl ?_ Iff.rfl
        · have kept : another ∈ ticket :: system.history.constructed ↔
              another ∈ system.history.constructed := by
            rw [List.mem_cons]
            exact or_iff_right different
          exact and_congr_left' kept
    · apply sound.producers.update rfl
      · exact ⟨isHead, isEntry, List.mem_cons_self, unpublished⟩
      · intro other different
        apply (sound.producers.phases other).frame
        · intro _ticket _entry isOther
          exact isOther
        · intro otherTicket holdsOther
          change otherTicket ∈ ticket :: system.history.constructed ↔ _
          rw [List.mem_cons]
          apply or_iff_right
          intro same
          exact sound.producers.keeps holds other different (same ▸ holdsOther)
        · intro _ticket _holds
          rfl
        · exact Nat.le_refl _
      · intro other isTicket
        cases isTicket
        exact sound.producers.keeps holds
    · constructor
      · intro other member
        rcases List.mem_cons.mp member with same | before
        · rw [same]
          exact ⟨room, inside⟩
        · exact sound.tickets.constructed other before
      · intro other member
        exact List.mem_cons_of_mem ticket (sound.tickets.published other member)
      · exact sound.tickets.past
      · exact sound.tickets.present
    · exact sound.returned
    · exact sound.popped
    · change (system.history.overwritten || system.isHeld capacity ticket) = false
      rw [sound.neverOverwritten, free]
      rfl
  · cases returned

/-- An entry that was constructed is published. -/
theorem Sound.publish (sound : Sound capacity system)
    (returned : system.step capacity (.publish producer) = .ok next) :
    Sound capacity next := by
  simp only [step] at returned
  split at returned
  · rename_i ticket head entry phase
    cases returned
    have isPhase := sound.producers.phases producer
    rw [phase] at isPhase
    obtain ⟨isHead, isEntry, present, unpublished⟩ := isPhase
    have holds : (system.producers producer).ticket? = some ticket := by
      rw [phase]
      rfl
    have here := sound.tickets.unpopped unpublished
    have room := (sound.tickets.constructed ticket present).1
    have notWiped : ¬(ticket = system.history.completed ∧ system.writer.wiped = 1) := by
      rintro ⟨same, wiped⟩
      have gone := Writer.wiped_le_gone system.writer
      have atLeast := Writer.gone_le_ahead system.writer
      have atMost := Writer.ahead_le_one system.writer
      have ahead : system.writer.ahead = 1 := by omega
      exact unpublished (same ▸ sound.tickets.present ahead)
    constructor
    · exact sound.head
    · exact sound.tail
    · intro other fromOther toOther
      have isPlace : Queue.masked capacity head = place capacity ticket := by
        rw [isHead]
        rfl
      have held := sound.buffer ticket here room
      simp only [Queue.publish, isPlace]
      apply sound.buffer_set here room _ _ other fromOther toOther
      · constructor
        · exact held.standing
        · exact held.empty
        · constructor
          · intro _set
            exact ⟨List.mem_cons_self, notWiped⟩
          · intro _flagged
            rfl
      · intro another index different holdsIndex
        refine holdsIndex.frame rfl Iff.rfl ?_
        have kept : another ∈ ticket :: system.history.published ↔
            another ∈ system.history.published := by
          rw [List.mem_cons]
          exact or_iff_right different
        exact and_congr_left' kept
    · apply sound.producers.update rfl
      · trivial
      · intro other different
        apply (sound.producers.phases other).frame
        · intro _ticket _entry isOther
          exact isOther
        · intro _ticket _holds
          rfl
        · intro otherTicket holdsOther
          change otherTicket ∈ ticket :: system.history.published ↔ _
          rw [List.mem_cons]
          apply or_iff_right
          intro same
          exact sound.producers.keeps holds other different (same ▸ holdsOther)
        · exact Nat.le_refl _
      · intro other isTicket
        cases isTicket
    · constructor
      · exact sound.tickets.constructed
      · intro other member
        rcases List.mem_cons.mp member with same | before
        · rw [same]
          exact present
        · exact sound.tickets.published other before
      · intro other before
        exact List.mem_cons_of_mem ticket (sound.tickets.past other before)
      · intro ahead
        exact List.mem_cons_of_mem ticket (sound.tickets.present ahead)
    · exact sound.returned
    · exact sound.popped
    · exact sound.neverOverwritten
  · cases returned

/-! ### The writer -/

theorem completed_in_lap (capacity : Capacity) (completed : Nat) :
    completed < completed + 2 ^ capacity.bits :=
  Nat.lt_add_of_pos_right (Nat.two_pow_pos capacity.bits)

/-- What is at the tail. -/
theorem Sound.at_tail (sound : Sound capacity system) :
    system.Holds system.history.completed (system.queue.buffer system.queue.tail) := by
  rw [sound.tail]
  exact sound.buffer _ (Nat.le_refl _) (completed_in_lap capacity _)

/-- The entry at the tail, once it is published and while it has not been destroyed. -/
theorem Sound.entry_at_tail (sound : Sound capacity system)
    (published : system.history.completed ∈ system.history.published)
    (kept : system.writer.gone = 0) :
    (system.queue.buffer system.queue.tail).logEntry =
      system.history.emplaced[system.history.completed]? := by
  apply sound.at_tail.standing
  refine ⟨sound.tickets.published _ published, ?_⟩
  rintro ⟨_same, gone⟩
  omega

/-- One more entry is taken from the front of what was emplaced. -/
theorem take_one_more {entries : List Entry} {count : Nat} (inside : count < entries.length) :
    (entries.take count).map some ++ [entries[count]?] = (entries.take (count + 1)).map some := by
  rw [List.take_add_one, List.getElem?_eq_getElem inside, List.map_append]
  rfl

theorem Sound.front (sound : Sound capacity system)
    (returned : system.step capacity .front = .ok next) : Sound capacity next := by
  simp only [step] at returned
  split at returned
  · rename_i looking
    split at returned
    · cases returned
      exact sound
    · rename_i index isFront
      cases returned
      have shown : (system.queue.buffer system.queue.tail).isConstructed = true ∧
          system.queue.buffer system.queue.tail = index := by
        unfold Queue.front at isFront
        split at isFront
        · rename_i set
          exact ⟨set, Option.some.inj isFront⟩
        · cases isFront
      obtain ⟨set, same⟩ := shown
      have published := (sound.at_tail.flag.mp set).1
      have kept : system.writer.gone = 0 := by
        rw [looking]
        rfl
      have entry := sound.entry_at_tail published kept
      have inside := (sound.tickets.constructed _ (sound.tickets.published _ published)).2
      have before := sound.returned
      have beforePopped := sound.popped
      rw [looking] at before beforePopped
      exact
        { head := sound.head
          tail := sound.tail
          buffer := by
            intro ticket fromHere toHere
            refine (sound.buffer ticket fromHere toHere).moves rfl rfl rfl rfl ?_ ?_
            · rw [looking]
              rfl
            · rw [looking]
              rfl
          producers := sound.producers.frame rfl rfl rfl rfl (Nat.le_refl _)
          tickets :=
            { constructed := sound.tickets.constructed
              published := sound.tickets.published
              past := sound.tickets.past
              present := fun _ => published }
          returned := by
            change system.history.returned ++ [index.logEntry] = _
            rw [before, ← same, entry]
            exact take_one_more inside
          popped := beforePopped
          neverOverwritten := sound.neverOverwritten }
  · cases returned

theorem Sound.awaitConstructed (sound : Sound capacity system)
    (returned : system.step capacity .awaitConstructed = .ok next) : Sound capacity next := by
  simp only [step] at returned
  split at returned
  · rename_i waits
    split at returned
    · cases returned
      have present := sound.tickets.present
      have before := sound.returned
      have beforePopped := sound.popped
      rw [waits] at present before beforePopped
      exact
        { head := sound.head
          tail := sound.tail
          buffer := by
            intro ticket fromHere toHere
            refine (sound.buffer ticket fromHere toHere).moves rfl rfl rfl rfl ?_ ?_
            · rw [waits]
              rfl
            · rw [waits]
              rfl
          producers := sound.producers.frame rfl rfl rfl rfl (Nat.le_refl _)
          tickets :=
            { constructed := sound.tickets.constructed
              published := sound.tickets.published
              past := sound.tickets.past
              present := present }
          returned := before
          popped := beforePopped
          neverOverwritten := sound.neverOverwritten }
    · cases returned
      exact sound
  · cases returned

/-- A change at the tail, on the way of the writer through `pop`. -/
theorem Sound.buffer_at_tail (sound : Sound capacity system) {written : QueueIndex Entry}
    (now : next.Holds system.history.completed written)
    (others : ∀ other index, other ≠ system.history.completed → system.Holds other index →
      next.Holds other index)
    (other : Nat) (fromOther : system.history.completed ≤ other)
    (toOther : other < system.history.completed + 2 ^ capacity.bits) :
    next.Holds other
      ((system.queue.setIndex system.queue.tail written).buffer (place capacity other)) := by
  rw [sound.tail]
  exact sound.buffer_set (Nat.le_refl _) (completed_in_lap capacity _) now others other fromOther
    toOther

theorem Sound.destroy (sound : Sound capacity system)
    (returned : system.step capacity .destroy = .ok next) : Sound capacity next := by
  simp only [step] at returned
  split at returned
  · rename_i tested
    cases returned
    have ahead : system.writer.ahead = 1 := by
      rw [tested]
      rfl
    have kept : system.writer.gone = 0 := by
      rw [tested]
      rfl
    have published := sound.tickets.present ahead
    have entry := sound.entry_at_tail published kept
    have inside := (sound.tickets.constructed _ (sound.tickets.published _ published)).2
    have before := sound.returned
    have beforePopped := sound.popped
    rw [tested] at before beforePopped
    exact
      { head := sound.head
        tail := sound.tail
        buffer := by
          apply sound.buffer_at_tail
          · constructor
            · intro stands
              exact absurd ⟨rfl, rfl⟩ stands.2
            · intro _absent
              rfl
            · refine sound.at_tail.flag.trans ?_
              unfold Flagged
              rw [tested]
              rfl
          · intro other index different holdsIndex
            exact holdsIndex.elsewhere different rfl rfl rfl rfl
        producers := sound.producers.frame rfl rfl rfl rfl (Nat.le_refl _)
        tickets :=
          { constructed := sound.tickets.constructed
            published := sound.tickets.published
            past := sound.tickets.past
            present := fun _ => published }
        returned := before
        popped := by
          change system.history.popped ++ [(system.queue.buffer system.queue.tail).logEntry] = _
          rw [beforePopped, entry]
          exact take_one_more inside
        neverOverwritten := sound.neverOverwritten }
  · cases returned

theorem Sound.clear (sound : Sound capacity system)
    (returned : system.step capacity .clear = .ok next) : Sound capacity next := by
  simp only [step] at returned
  split at returned
  · rename_i destroyed
    cases returned
    have present := sound.tickets.present
    have before := sound.returned
    have beforePopped := sound.popped
    rw [destroyed] at present before beforePopped
    exact
      { head := sound.head
        tail := sound.tail
        buffer := by
          apply sound.buffer_at_tail
          · constructor
            · intro stands
              exact absurd ⟨rfl, rfl⟩ stands.2
            · intro _absent
              apply sound.at_tail.empty
              intro stands
              apply stands.2
              rw [destroyed]
              exact ⟨rfl, rfl⟩
            · constructor
              · intro set
                cases set
              · intro flagged
                exact absurd ⟨rfl, rfl⟩ flagged.2
          · intro other index different holdsIndex
            exact holdsIndex.elsewhere different rfl rfl rfl rfl
        producers := sound.producers.frame rfl rfl rfl rfl (Nat.le_refl _)
        tickets :=
          { constructed := sound.tickets.constructed
            published := sound.tickets.published
            past := sound.tickets.past
            present := present }
        returned := before
        popped := beforePopped
        neverOverwritten := sound.neverOverwritten }
  · cases returned

/-- Once the tail moves on, the place that was popped is the last one of the next lap. -/
theorem Sound.storeTail (sound : Sound capacity system)
    (returned : system.step capacity .storeTail = .ok next) : Sound capacity next := by
  simp only [step] at returned
  split at returned
  · rename_i cleared
    cases returned
    have ahead : system.writer.ahead = 1 := by
      rw [cleared]
      rfl
    have gone : system.writer.gone = 1 := by
      rw [cleared]
      rfl
    have wiped : system.writer.wiped = 1 := by
      rw [cleared]
      rfl
    have published := sound.tickets.present ahead
    have before := sound.returned
    have beforePopped := sound.popped
    rw [cleared] at before beforePopped
    exact
      { head := sound.head
        tail := by
          change (system.queue.tail + 1) &&& (capacity.size - 1) = _
          rw [sound.tail]
          exact place_succ capacity system.history.completed
        buffer := by
          intro ticket fromHere toHere
          have fromNext : system.history.completed + 1 ≤ ticket := fromHere
          have toNext : ticket < system.history.completed + 1 + 2 ^ capacity.bits := toHere
          by_cases last : ticket = system.history.completed + 2 ^ capacity.bits
          · have free : ticket ∉ system.history.constructed := by
              intro member
              have lap := (sound.tickets.constructed ticket member).1
              omega
            have unpublished : ticket ∉ system.history.published :=
              fun member => free (sound.tickets.published ticket member)
            have here : place capacity ticket = system.queue.tail := by
              rw [last, place_next_lap, sound.tail]
            rw [here]
            constructor
            · intro stands
              exact absurd stands.1 free
            · intro _absent
              apply sound.at_tail.empty
              intro stands
              exact stands.2 ⟨rfl, gone⟩
            · constructor
              · intro set
                have flagged := sound.at_tail.flag.mp set
                exact absurd ⟨rfl, wiped⟩ flagged.2
              · intro flagged
                exact absurd flagged.1 unpublished
          · have different : ticket ≠ system.history.completed := by omega
            refine (sound.buffer ticket (by omega) (by omega)).frame rfl ?_ ?_
            · apply and_congr_right'
              apply iff_of_true
              · rintro ⟨_same, goneNow⟩
                cases goneNow
              · exact fun both => different both.1
            · apply and_congr_right'
              apply iff_of_true
              · rintro ⟨_same, wipedNow⟩
                cases wipedNow
              · exact fun both => different both.1
        producers := sound.producers.frame rfl rfl rfl rfl (Nat.le_succ _)
        tickets :=
          { constructed := by
              intro ticket member
              obtain ⟨lap, inside⟩ := sound.tickets.constructed ticket member
              refine ⟨?_, inside⟩
              change ticket < system.history.completed + 1 + 2 ^ capacity.bits
              omega
            published := sound.tickets.published
            past := by
              intro ticket behind
              rcases Nat.lt_succ_iff_lt_or_eq.mp behind with earlier | same
              · exact sound.tickets.past ticket earlier
              · rw [same]
                exact published
            present := by
              intro ahead
              cases ahead }
        returned := before
        popped := beforePopped
        neverOverwritten := sound.neverOverwritten }
  · cases returned

/-- Every step keeps the queue sound while the test holds producers back from a full queue. -/
theorem Sound.step (sound : Sound capacity system) {event : Event Entry}
    (held : system.HoldsBack capacity event) (returned : system.step capacity event = .ok next) :
    Sound capacity next := by
  cases event with
  | fetchAdd producer entry => exact sound.fetchAdd returned
  | testTail producer => exact sound.testTail held returned
  | construct producer => exact sound.construct returned
  | publish producer => exact sound.publish returned
  | front => exact sound.front returned
  | awaitConstructed => exact sound.awaitConstructed returned
  | destroy => exact sound.destroy returned
  | clear => exact sound.clear returned
  | storeTail => exact sound.storeTail returned

end Steps

/-! ### Delivery -/

section Delivery

variable {system : System Entry}

theorem Sound.popped_length (sound : Sound capacity system) :
    system.history.popped.length = system.history.completed + system.writer.gone := by
  have reserved := sound.tickets.reserved
  have atMost := Writer.gone_le_ahead system.writer
  rw [sound.popped, List.length_map, List.length_take]
  omega

theorem Sound.returned_length (sound : Sound capacity system) :
    system.history.returned.length = system.history.completed + system.writer.ahead := by
  have reserved := sound.tickets.reserved
  rw [sound.returned, List.length_map, List.length_take]
  omega

theorem Sound.intact (sound : Sound capacity system) : Intact capacity system where
  neverOverwritten := sound.neverOverwritten
  returnedInOrder := by
    rw [sound.returned]
    exact (List.take_prefix _ _).map some
  poppedInOrder := by
    rw [sound.popped, sound.returned]
    apply List.IsPrefix.map
    apply List.take_prefix_take_left
    exact Nat.add_le_add_left (Writer.gone_le_ahead system.writer) _
  oneAtATime := by
    have atMost := Writer.ahead_le_one system.writer
    rw [sound.popped_length, sound.returned_length]
    omega
  held := by
    intro ticket published unpopped
    rw [sound.popped_length] at unpopped
    have constructed := sound.tickets.published ticket published
    have held := sound.buffer ticket (by omega) (sound.tickets.constructed ticket constructed).1
    have wiped := Writer.wiped_le_gone system.writer
    have stands : system.Stands ticket := by
      refine ⟨constructed, ?_⟩
      rintro ⟨same, gone⟩
      omega
    have flagged : system.Flagged ticket := by
      refine ⟨published, ?_⟩
      rintro ⟨same, cleared⟩
      omega
    have entry := held.standing stands
    have flag := held.flag.mpr flagged
    cases index : system.queue.buffer (place capacity ticket) with
    | mk logEntry isConstructed =>
        rw [index] at entry flag
        cases entry
        cases flag
        rfl

/-- How far the writer is. -/
def progress (system : System Entry) : Nat :=
  5 * system.history.completed + system.writer.rank

/-- A step of the writer that leaves what was emplaced and published. -/
structure Advances (capacity : Capacity) (system : System Entry) (event : Event Entry)
    (next : System Entry) : Prop where
  isWriters : event.isWriters = true
  steps : system.step capacity event = .ok next
  further : next.progress = system.progress + 1
  published : next.history.published = system.history.published
  emplaced : next.history.emplaced = system.history.emplaced

theorem Sound.flag_at_tail (sound : Sound capacity system)
    (published : system.history.completed ∈ system.history.published)
    (kept : system.writer.wiped = 0) :
    (system.queue.buffer system.queue.tail).isConstructed = true := by
  apply sound.at_tail.flag.mpr
  refine ⟨published, ?_⟩
  rintro ⟨_same, wiped⟩
  omega

/-- While the next entry is published, the writer has a step to take. -/
theorem Sound.advance (sound : Sound capacity system)
    (published : system.history.completed ∈ system.history.published) :
    ∃ event next, Advances capacity system event next := by
  cases writer : system.writer with
  | looking =>
      have kept : system.writer.wiped = 0 := by
        rw [writer]
        rfl
      have isFront : system.queue.front = some (system.queue.buffer system.queue.tail) :=
        if_pos (sound.flag_at_tail published kept)
      refine ⟨.front,
        { system with
          writer := .returned
          history :=
            { system.history with
              returned := system.history.returned ++
                [(system.queue.buffer system.queue.tail).logEntry] } },
        { isWriters := rfl
          steps := by
            simp only [System.step, writer, isFront]
          further := ?_
          published := rfl
          emplaced := rfl }⟩
      unfold progress
      rw [writer]
      rfl
  | returned =>
      have kept : system.writer.wiped = 0 := by
        rw [writer]
        rfl
      refine ⟨.awaitConstructed, { system with writer := .tested },
        { isWriters := rfl
          steps := by
            simp only [System.step, writer, sound.flag_at_tail published kept, if_true]
          further := ?_
          published := rfl
          emplaced := rfl }⟩
      unfold progress
      rw [writer]
      rfl
  | tested =>
      refine ⟨.destroy,
        { system with
          queue := system.queue.destroy
          writer := .destroyed
          history :=
            { system.history with
              popped := system.history.popped ++
                [(system.queue.buffer system.queue.tail).logEntry] } },
        { isWriters := rfl
          steps := by
            simp only [System.step, writer]
          further := ?_
          published := rfl
          emplaced := rfl }⟩
      unfold progress
      rw [writer]
      rfl
  | destroyed =>
      refine ⟨.clear,
        { system with
          queue := system.queue.clear
          writer := .cleared },
        { isWriters := rfl
          steps := by
            simp only [System.step, writer]
          further := ?_
          published := rfl
          emplaced := rfl }⟩
      unfold progress
      rw [writer]
      rfl
  | cleared =>
      refine ⟨.storeTail,
        { system with
          queue := system.queue.storeTail capacity
          writer := .looking
          history := { system.history with completed := system.history.completed + 1 } },
        { isWriters := rfl
          steps := by
            simp only [System.step, writer]
          further := ?_
          published := rfl
          emplaced := rfl }⟩
      unfold progress
      rw [writer]
      rfl

theorem Advances.sound {event : Event Entry} {next : System Entry} (sound : Sound capacity system)
    (advances : Advances capacity system event next) : Sound capacity next := by
  apply sound.step _ advances.steps
  cases event with
  | testTail producer => cases advances.isWriters
  | _ => trivial

/-- The writer alone pops what is published without a gap. -/
theorem Sound.delivers (sound : Sound capacity system) {count : Nat}
    (published : ∀ ticket, ticket < count → ticket ∈ system.history.published) :
    ∃ further after, (∀ event ∈ further, Event.isWriters event = true) ∧
      run (System.step capacity) system further = .ok after ∧ Sound capacity after ∧
      count ≤ after.history.completed ∧
      after.history.emplaced = system.history.emplaced := by
  induction left : 5 * count - system.progress generalizing system with
  | zero =>
      refine ⟨[], system, ?_, rfl, sound, ?_, rfl⟩
      · intro event member
        cases member
      · have rank := Writer.rank_lt system.writer
        unfold progress at left
        omega
  | succ more ih =>
      by_cases done : count ≤ system.history.completed
      · refine ⟨[], system, ?_, rfl, sound, done, rfl⟩
        intro event member
        cases member
      · obtain ⟨event, next, advances⟩ :=
          sound.advance (published _ (Nat.lt_of_not_le done))
        have publishedNext : ∀ ticket, ticket < count → ticket ∈ next.history.published := by
          rw [advances.published]
          exact published
        have further := advances.further
        obtain ⟨rest, after, writers, reached, soundAfter, all, same⟩ :=
          ih (advances.sound sound) publishedNext (by omega)
        refine ⟨event :: rest, after, ?_, ?_, soundAfter, all, same.trans advances.emplaced⟩
        · intro other member
          rcases List.mem_cons.mp member with first | later
          · rw [first]
            exact advances.isWriters
          · exact writers other later
        · simp only [run, advances.steps]
          exact reached

end Delivery

/-- In every interleaving in which the test holds producers back from a full queue, nothing is
lost, repeated or overwritten, and what is published without a gap is popped by the writer's
own steps. -/
theorem queue_delivers (capacity : Capacity) (schedule : List (Event Entry))
    (guarded : Guarded (step capacity) (HoldsBack capacity) start schedule) :
    Always (step capacity) (Intact capacity) start schedule ∧
      ∀ finish, run (step capacity) start schedule = .ok finish →
        ∀ count, (∀ ticket, ticket < count → ticket ∈ finish.history.published) →
          ∃ further after, (∀ event ∈ further, Event.isWriters event = true) ∧
            run (step capacity) finish further = .ok after ∧
            (finish.history.emplaced.take count).map some <+: after.history.popped := by
  have preserved : ∀ (system : System Entry) (event : Event Entry) (next : System Entry),
      Sound capacity system → system.HoldsBack capacity event →
        system.step capacity event = .ok next → Sound capacity next :=
    fun _ _ _ sound held returned => sound.step held returned
  constructor
  · exact guarded.always (fun _ sound => sound.intact) preserved (start_sound capacity)
  · intro finish reached count published
    have sound := guarded.invariant preserved (start_sound capacity) reached
    obtain ⟨further, after, writers, runs, soundAfter, all, same⟩ := sound.delivers published
    refine ⟨further, after, writers, runs, ?_⟩
    rw [soundAfter.popped, same]
    apply List.IsPrefix.map
    apply List.take_prefix_take_left
    omega

def twoPlaces : Capacity :=
  { bits := 1
    bounded := by decide }

def emplaceAll (producer entry : Nat) : List (Event Nat) :=
  [.fetchAdd producer entry, .testTail producer, .construct producer, .publish producer]

def popOne : List (Event Nat) :=
  [.front, .awaitConstructed, .destroy, .clear, .storeTail]

/-- Two producers overtake one another, and the first of them comes again, is kept waiting and
goes on once the lap is over. -/
def twoProducers : List (Event Nat) :=
  [.fetchAdd 0 10] ++ emplaceAll 1 11 ++ [.testTail 0, .construct 0, .publish 0] ++ popOne ++
    [.fetchAdd 0 12, .testTail 0] ++ popOne ++ [.testTail 0, .construct 0, .publish 0]

theorem queue_delivers_twoProducers :
    Always (step twoPlaces) (Intact twoPlaces) start twoProducers ∧
      ∀ finish, run (step twoPlaces) start twoProducers = .ok finish →
        ∀ count, (∀ ticket, ticket < count → ticket ∈ finish.history.published) →
          ∃ further after, (∀ event ∈ further, Event.isWriters event = true) ∧
            run (step twoPlaces) finish further = .ok after ∧
            (finish.history.emplaced.take count).map some <+: after.history.popped :=
  queue_delivers twoPlaces twoProducers (by decide +kernel)

/-- One producer emplaces three entries in two places before any is popped. -/
def threeInTwoPlaces : List (Event Nat) :=
  emplaceAll 0 10 ++ emplaceAll 0 11 ++ emplaceAll 0 12

theorem full_queue_is_overwritten :
    ¬Always (step twoPlaces) (Intact twoPlaces) start threeInTwoPlaces := by
  intro always
  have evaluated : (run (step twoPlaces) start threeInTwoPlaces).toOption.map
      (fun finish => finish.history.overwritten) = some true := by decide +kernel
  obtain ⟨finish, reached, overwritten⟩ := returns_of_view evaluated
  have intact := always threeInTwoPlaces [] finish (List.append_nil _).symm reached
  rw [intact.neverOverwritten] at overwritten
  cases overwritten

end System

end Logging
end SpotExchange
