/-
What the instructions of a callback do, seen from the connection whose callback it is: to
itself, to its entries in the table, and to the other connections.
-/

import Mathlib.Data.Set.Insert
import SpotExchange.Server.Connections

namespace SpotExchange
namespace Server
namespace Clients

open Machine Program Wire OrderEntryStreamConnection

/-- The ids under which a connection stands in the table. -/
def entries (clients : Clients) (self : ConnectionRef) : Set UserId :=
  { userid | clients.clientStreams.lookup userid = some self }

abbrev Condition := Connection → Set UserId → Prop

/-- What holds of a connection and its entries, and of every other one. -/
def Around (clients : Clients) (self : ConnectionRef) (others : ConnectionRef → Condition)
    (here : Condition) : Prop :=
  here (clients.connections self) (clients.entries self) ∧
    ∀ other, other ≠ self → others other (clients.connections other) (clients.entries other)

@[simp]
theorem update_self (clients : Clients) (self : ConnectionRef)
    (change : Connection → Connection) :
    (clients.update self change).connections self = change (clients.connections self) :=
  Function.update_self self _ clients.connections

@[simp]
theorem update_other (clients : Clients) {self other : ConnectionRef}
    (change : Connection → Connection) (different : other ≠ self) :
    (clients.update self change).connections other = clients.connections other :=
  Function.update_of_ne different _ clients.connections

@[simp]
theorem update_entries (clients : Clients) (self other : ConnectionRef)
    (change : Connection → Connection) :
    (clients.update self change).entries other = clients.entries other := rfl

section Rules

variable {self : ConnectionRef} {others : ConnectionRef → Condition} {here after : Condition}

theorem around_update {clients : Clients} {change : Connection → Connection}
    (around : clients.Around self others here)
    (changes : here (clients.connections self) (clients.entries self) →
      after (change (clients.connections self)) (clients.entries self)) :
    (clients.update self change).Around self others after := by
  constructor
  · rw [update_self, update_entries]
    exact changes around.1
  · intro other different
    rw [update_other clients change different, update_entries]
    exact around.2 other different

theorem around_mono {clients : Clients} (around : clients.Around self others here)
    (implies : ∀ connection ids, here connection ids → after connection ids) :
    clients.Around self others after :=
  ⟨implies _ _ around.1, around.2⟩

/-- A condition on all connections is one around any of them. -/
theorem around_all (holds : ConnectionRef → Condition) (clients : Clients)
    (self : ConnectionRef) :
    clients.Around self holds (holds self) ↔
      ∀ connection, holds connection (clients.connections connection)
        (clients.entries connection) := by
  constructor
  · intro around connection
    by_cases same : connection = self
    · rw [same]
      exact around.1
    · exact around.2 connection same
  · intro all
    exact ⟨all self, fun other _ => all other⟩

/-- What an instruction on the connection leaves around it. -/
theorem effect_around {action : Connection.Action} {answered : Bool → Condition}
    (acts : ∀ connection ids answer next, here connection ids →
      connection.touch.act action = .ok (answer, next) → answered answer next ids)
    {clients next : Clients} {answer : Bool} (around : clients.Around self others here)
    (performed : effect clients (.on self action) = .ok (answer, next)) :
    next.Around self others (answered answer) := by
  simp only [effect] at performed
  split at performed
  · cases performed
  · rename_i given connection acted
    cases performed
    apply around_update around
    intro before
    exact acts _ _ answer connection before acted

theorem ask_around {action : Connection.Action} {answered : Bool → Condition}
    (acts : ∀ connection ids answer next, here connection ids →
      connection.touch.act action = .ok (answer, next) → answered answer next ids) :
    Ensures effect (fun clients => clients.Around self others here)
      (ask (.on self action)) (fun answer clients => clients.Around self others (answered answer)) := by
  apply Ensures.ask
  intro clients answer next around performed
  exact effect_around acts around performed

theorem perform_around {action : Connection.Action}
    (acts : ∀ connection ids answer next, here connection ids →
      connection.touch.act action = .ok (answer, next) → after next ids) :
    Ensures effect (fun clients => clients.Around self others here)
      (perform (.on self action)) (fun _ clients => clients.Around self others after) := by
  apply Ensures.perform
  intro clients answer next around performed
  exact effect_around (fun connection ids answer next => acts connection ids answer next) around
    performed

/-- An instruction on another connection. -/
theorem perform_elsewhere {receiver : ConnectionRef} {action : Connection.Action}
    (different : receiver ≠ self)
    (acts : ∀ connection ids answer next, others receiver connection ids →
      connection.touch.act action = .ok (answer, next) → others receiver next ids) :
    Ensures effect (fun clients => clients.Around self others here)
      (perform (.on receiver action)) (fun _ clients => clients.Around self others here) := by
  apply Ensures.perform
  intro clients answer next around performed
  simp only [effect] at performed
  split at performed
  · cases performed
  · rename_i given connection acted
    cases performed
    constructor
    · rw [update_other _ _ (Ne.symm different)]
      exact around.1
    · intro other apart
      by_cases reached : other = receiver
      · rw [reached, update_self]
        exact acts _ _ answer connection (around.2 receiver different) acted
      · rw [update_other _ _ reached]
        exact around.2 other apart

theorem terminate_entries (clients : Clients) (self other : ConnectionRef) :
    (clients.terminate self).entries other =
      clients.entries other \ {(clients.connections self).userid} := by
  ext userid
  simp only [entries, terminate, Set.mem_ofPred_eq, Set.mem_sdiff, Set.mem_singleton_iff]
  by_cases same : userid = (clients.connections self).userid
  · rw [same, AList.lookup_erase]
    simp
  · rw [AList.lookup_erase_ne same]
    simp [same]

theorem terminate_around
    (fewer : ∀ other connection (ids erased : Set UserId), others other connection ids →
      others other connection (ids \ erased))
    (releases : ∀ connection ids, here connection ids →
      after { connection.touch with released := true } (ids \ {connection.userid})) :
    Ensures effect (fun clients => clients.Around self others here)
      (perform (.terminateConnection self)) (fun _ clients => clients.Around self others after) := by
  apply Ensures.perform
  intro clients answer next around performed
  cases performed
  constructor
  · rw [terminate_entries]
    have released := releases _ _ around.1
    simpa [terminate] using released
  · intro other different
    rw [terminate_entries]
    have kept := fewer other _ _ {(clients.connections self).userid} (around.2 other different)
    simpa [terminate, different] using kept

theorem find_around {userid : UserId} {known : Bool}
    (touches : ∀ connection ids, here connection ids → here connection.touch ids) :
    Ensures effect
      (fun clients => clients.Around self others here ∧
        (clients.clientStreams.lookup userid).isSome = known)
      (ask (.find self userid))
      (fun answer clients => clients.Around self others here ∧ known = answer ∧
        (answer = false → clients.clientStreams.lookup userid = none)) := by
  apply Ensures.ask
  rintro clients answer next ⟨around, same⟩ performed
  cases performed
  refine ⟨around_update around (touches _ _), same.symm, ?_⟩
  intro absent
  exact Option.isSome_eq_false_iff.mp absent |> Option.isNone_iff_eq_none.mp

theorem emplace_around {userid : UserId}
    (enters : ∀ connection ids, here connection ids →
      after { connection.touch with registered := userid :: connection.registered }
        (insert userid ids)) :
    Ensures effect
      (fun clients => clients.Around self others here ∧
        clients.clientStreams.lookup userid = none)
      (perform (.emplace self userid)) (fun _ clients => clients.Around self others after) := by
  apply Ensures.perform
  rintro clients answer next ⟨around, absent⟩ performed
  cases performed
  have written : (clients.emplace self userid).clientStreams =
      clients.clientStreams.insert userid self := by
    simp only [emplace, absent, Option.isSome_none, Bool.false_eq_true, if_false]
  have changed : (clients.emplace self userid).connections =
      (clients.update self (fun connection =>
        { connection.touch with registered := userid :: connection.registered })).connections := by
    simp only [emplace, absent, Option.isSome_none, Bool.false_eq_true, if_false]
  constructor
  · have own : (clients.emplace self userid).entries self = insert userid (clients.entries self) := by
      ext other
      simp only [entries, written, Set.mem_ofPred_eq, Set.mem_insert_iff]
      by_cases same : other = userid
      · rw [same, AList.lookup_insert]
        simp
      · rw [AList.lookup_insert_ne same]
        simp [same]
    rw [own, changed, update_self]
    exact enters _ _ around.1
  · intro other different
    have same : (clients.emplace self userid).entries other = clients.entries other := by
      ext key
      simp only [entries, written, Set.mem_ofPred_eq]
      by_cases equal : key = userid
      · rw [equal, AList.lookup_insert, absent]
        simp [Ne.symm different]
      · rw [AList.lookup_insert_ne equal]
    rw [same, changed, update_other _ _ different]
    exact around.2 other different

theorem create_around {fresh : ConnectionRef} {userid : UserId}
    (constructed : ∀ connection ids, here connection ids → connection.constructed = true)
    (touches : ∀ connection ids, here connection ids → here connection.touch ids)
    (creates : ∀ other connection ids, others other connection ids →
      connection.constructed = false → others other (Connection.construct userid) ids) :
    Ensures effect (fun clients => clients.Around self others here)
      (perform (.createNewConn self fresh userid))
      (fun _ clients => clients.Around self others here) := by
  apply Ensures.perform
  intro clients answer next around performed
  simp only [effect] at performed
  split at performed
  · cases performed
  · rename_i unborn
    cases performed
    have different : fresh ≠ self := by
      intro same
      rw [same] at unborn
      exact unborn (constructed _ _ around.1)
    have touched : (clients.update self Connection.touch).Around self others here :=
      around_update around (touches _ _)
    constructor
    · rw [update_other _ _ (Ne.symm different), update_entries]
      exact touched.1
    · intro other apart
      by_cases same : other = fresh
      · rw [same, update_self, update_entries]
        apply creates fresh _ _ (touched.2 fresh different)
        rw [update_other _ _ different]
        exact Bool.eq_false_iff.mpr unborn
      · rw [update_other _ _ same, update_entries]
        exact touched.2 other apart

/-! ### The two places at which a connection is deleted -/

/-- A cancelled connection is deleted when its counter is at zero. -/
theorem testNoAsyncOps_around (counted : Condition)
    (touches : ∀ connection ids, counted connection ids → counted connection.touch ids)
    (stays : ∀ connection ids, counted connection ids → connection.currentAsyncOps ≠ 0 →
      after connection ids)
    (releases : Ensures effect
      (fun clients => clients.Around self others (fun connection ids =>
        counted connection ids ∧ connection.currentAsyncOps = 0))
      (perform (.terminateConnection self))
      (fun _ clients => clients.Around self others after)) :
    Ensures effect (fun clients => clients.Around self others counted)
      (do
        if ← ask (.on self .testNoAsyncOps) then
          perform (.terminateConnection self))
      (fun _ clients => clients.Around self others after) := by
  have tested : Ensures effect (fun clients => clients.Around self others counted)
      (ask (.on self .testNoAsyncOps))
      (fun answer clients => clients.Around self others (fun connection ids =>
        counted connection ids ∧ answer = (connection.currentAsyncOps == 0))) := by
    apply ask_around
    intro connection ids answer next before acted
    cases acted
    exact ⟨touches connection ids before, rfl⟩
  refine Ensures.bind tested ?_
  intro answer
  apply Ensures.branch
  · intro zero
    apply releases.weaken
    intro clients around
    apply around_mono around
    rintro connection ids ⟨before, same⟩
    rw [zero] at same
    exact ⟨before, eq_of_beq same.symm⟩
  · intro some
    apply Ensures.done
    intro clients around
    apply around_mono around
    rintro connection ids ⟨before, same⟩
    apply stays connection ids before
    rw [some] at same
    exact ne_of_beq_false same.symm

theorem asyncOpFinished_around (counted : Condition)
    (decrements : ∀ connection ids, here connection ids →
      counted
        { connection.touch with currentAsyncOps := connection.currentAsyncOps - 1 } ids)
    (touches : ∀ connection ids, counted connection ids → counted connection.touch ids)
    (stays : ∀ connection ids, counted connection ids →
      (connection.onStreamcancelledCalled = true → connection.currentAsyncOps ≠ 0) →
      after connection ids)
    (releases : Ensures effect
      (fun clients => clients.Around self others (fun connection ids =>
        (counted connection ids ∧ connection.onStreamcancelledCalled = true) ∧
          connection.currentAsyncOps = 0))
      (perform (.terminateConnection self))
      (fun _ clients => clients.Around self others after)) :
    Ensures effect (fun clients => clients.Around self others here) (asyncOpFinished self)
      (fun _ clients => clients.Around self others after) := by
  have decremented : Ensures effect (fun clients => clients.Around self others here)
      (perform (.on self .decrement))
      (fun _ clients => clients.Around self others counted) := by
    apply perform_around
    intro connection ids answer next before acted
    cases acted
    exact decrements connection ids before
  have tested : Ensures effect (fun clients => clients.Around self others counted)
      (ask (.on self .testCancelled))
      (fun answer clients => clients.Around self others (fun connection ids =>
        counted connection ids ∧ answer = connection.onStreamcancelledCalled)) := by
    apply ask_around
    intro connection ids answer next before acted
    cases acted
    exact ⟨touches connection ids before, rfl⟩
  refine Ensures.bind decremented ?_
  intro _
  refine Ensures.bind tested ?_
  intro answer
  apply Ensures.branch
  · intro cancelled
    apply testNoAsyncOps_around
    · rintro connection ids ⟨before, same⟩
      exact ⟨touches connection ids before, same⟩
    · rintro connection ids ⟨before, same⟩ some
      exact stays connection ids before (fun _ => some)
    · apply releases.weaken
      intro clients around
      apply around_mono around
      rintro connection ids ⟨⟨before, same⟩, zero⟩
      exact ⟨⟨before, same.symm.trans cancelled⟩, zero⟩
  · intro unset
    apply Ensures.done
    intro clients around
    apply around_mono around
    rintro connection ids ⟨before, same⟩
    apply stays connection ids before
    intro cancelled
    rw [unset, cancelled] at same
    cases same

theorem onStreamCancelled_around (counted : Condition)
    (cancels : ∀ connection ids, here connection ids →
      counted { connection.touch with onStreamcancelledCalled := true } ids)
    (touches : ∀ connection ids, counted connection ids → counted connection.touch ids)
    (stays : ∀ connection ids, counted connection ids → connection.currentAsyncOps ≠ 0 →
      after connection ids)
    (releases : Ensures effect
      (fun clients => clients.Around self others (fun connection ids =>
        counted connection ids ∧ connection.currentAsyncOps = 0))
      (perform (.terminateConnection self))
      (fun _ clients => clients.Around self others after)) :
    Ensures effect (fun clients => clients.Around self others here) (onStreamCancelled self)
      (fun _ clients => clients.Around self others after) := by
  have cancelled : Ensures effect (fun clients => clients.Around self others here)
      (perform (.on self .setCancelled))
      (fun _ clients => clients.Around self others counted) := by
    apply perform_around
    intro connection ids answer next before acted
    cases acted
    exact cancels connection ids before
  refine Ensures.bind cancelled ?_
  intro _
  exact testNoAsyncOps_around _ touches stays releases

/-- Nothing is to be shown of a connection that cannot be as the condition says. -/
theorem absurd_around {program : Program Instruction Unit} {ensured : Unit → Clients → Prop}
    (never : ∀ connection ids, ¬here connection ids) :
    Ensures effect (fun clients => clients.Around self others here) program ensured :=
  fun _ _ _ around _ => absurd around.1 (never _ _)

/-- A message that was read on a connection at rest leaves it at rest, if each write and
each send does, and the write after a flag was set does too. -/
theorem processEntry_around (cancelled : Condition) {processing : Processing}
    {request : OrderEntryRequest}
    (touches : ∀ connection ids, here connection ids → here connection.touch ids)
    (cancels : ∀ connection ids, here connection ids →
      cancelled { connection.touch with onStreamcancelledCalled := true } ids)
    (rejects : ∀ connection ids response answer next, cancelled connection ids →
      connection.touch.act (.writeToClient response) = .ok (answer, next) → here next ids)
    (acknowledges : ∀ connection ids response answer next, here connection ids →
      connection.touch.act (.writeToClient response) = .ok (answer, next) → here next ids)
    (receives : ∀ item ∈ processing.sends,
      Ensures effect (fun clients => clients.Around self others here) (receive item)
        (fun _ clients => clients.Around self others here)) :
    Ensures effect (fun clients => clients.Around self others here)
      (processEntry self processing request)
      (fun _ clients => clients.Around self others here) := by
  have handled : ∀ common acknowledgement,
      Ensures effect (fun clients => clients.Around self others here)
        (handleOrderType self processing common acknowledgement)
        (fun _ clients => clients.Around self others here) := by
    intro common acknowledgement
    have checked : Ensures effect (fun clients => clients.Around self others here)
        (userIDUsageRejection self common)
        (fun _ clients => clients.Around self others here) := by
      have tested : Ensures effect (fun clients => clients.Around self others here)
          (ask (.on self (.testUserid common.userId)))
          (fun _ clients => clients.Around self others here) := by
        apply ask_around
        intro connection ids answer next before acted
        cases acted
        exact touches connection ids before
      refine Ensures.bind tested ?_
      intro answer
      apply Ensures.branch
      · intro _
        exact Ensures.done (fun _ around => around)
      · intro _
        have flagged : Ensures effect (fun clients => clients.Around self others here)
            (perform (.on self .setCancelled))
            (fun _ clients => clients.Around self others cancelled) := by
          apply perform_around
          intro connection ids answer next before acted
          cases acted
          exact cancels connection ids before
        have rejected : Ensures effect (fun clients => clients.Around self others cancelled)
            (writeToClient self (usageRejection common))
            (fun _ clients => clients.Around self others here) := by
          apply perform_around
          intro connection ids answer next before acted
          exact rejects connection ids _ answer next before acted
        refine Ensures.bind flagged ?_
        intro _
        refine Ensures.bind rejected ?_
        intro _
        exact Ensures.done (fun _ around => around)
    refine Ensures.bind checked ?_
    intro rejected
    apply Ensures.branch
    · intro _
      exact Ensures.done (fun _ around => around)
    · intro _
      have acknowledged : Ensures effect (fun clients => clients.Around self others here)
          (writeToClient self acknowledgement)
          (fun _ clients => clients.Around self others here) := by
        apply perform_around
        intro connection ids answer next before acted
        exact acknowledges connection ids _ answer next before acted
      refine Ensures.bind acknowledged ?_
      intro _
      exact Ensures.each receives
  cases request with
  | newOrder order => exact handled _ _
  | modifyOrder modify => exact handled _ _
  | cancelOrder cancel => exact handled _ _
  | notSet => exact Ensures.done (fun _ around => around)

/-- The first message of a connection that is refused, and of one that is entered. -/
theorem verifyID_around (entered named : Condition) {known success : Bool}
    {request : OrderEntryRequest} {processing : Processing} {common : Info.OrderCommon}
    (read : (Exchange.orderCommon request).getD processing.unset = common)
    (touches : ∀ connection ids, here connection ids → here connection.touch ids)
    (enters : ∀ connection ids, here connection ids →
      entered { connection.touch with registered := common.userId :: connection.registered }
        (insert common.userId ids))
    (names : ∀ connection ids, entered connection ids →
      named { connection.touch with userid := common.userId } ids)
    (refused : known = true → Ensures effect (fun clients => clients.Around self others here)
      (do
        asyncOpFinished self
        perform (.on self .setCancelled)
        perform (.on self .setCancelled)
        writeToClient self (usageRejection common))
      (fun _ clients => clients.Around self others after))
    (accepted : known = false →
      Ensures effect (fun clients => clients.Around self others named)
        (readOrderEntryCallback self success request processing)
        (fun _ clients => clients.Around self others after)) :
    Ensures effect
      (fun clients => clients.Around self others here ∧
        (clients.clientStreams.lookup common.userId).isSome = known)
      (verifyID self success request processing)
      (fun _ clients => clients.Around self others after) := by
  unfold verifyID
  rw [read]
  refine Ensures.bind (find_around touches) ?_
  intro answer
  by_cases agrees : known = answer
  · rw [← agrees]
    apply Ensures.branch
    · intro found
      exact (refused found).weaken (fun _ before => before.1)
    · intro unknown
      have enter : Ensures effect
          (fun clients => clients.Around self others here ∧ known = known ∧
            (known = false → clients.clientStreams.lookup common.userId = none))
          (perform (.emplace self common.userId))
          (fun _ clients => clients.Around self others entered) :=
        (emplace_around enters).weaken (fun _ before => ⟨before.1, before.2.2 unknown⟩)
      have name : Ensures effect (fun clients => clients.Around self others entered)
          (perform (.on self (.setUserid common.userId)))
          (fun _ clients => clients.Around self others named) := by
        apply perform_around
        intro connection ids answer next before acted
        cases acted
        exact names connection ids before
      refine Ensures.bind enter ?_
      intro _
      refine Ensures.bind name ?_
      intro _
      exact accepted unknown
  · intro _ _ _ before
    exact absurd before.2.1 agrees

end Rules

end Clients
end Server
end SpotExchange
