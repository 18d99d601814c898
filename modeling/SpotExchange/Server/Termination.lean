/-
The deletion of connections. A connection is deleted inside a callback, when the counter
reaches zero after its stream was taken for cancelled. That is the end of it if the
callback has nothing more to do and nothing else is still to be delivered.
-/

import Mathlib.Order.BooleanAlgebra.Set
import SpotExchange.Server.PendingOperations

namespace SpotExchange
namespace Server

open Machine Program Wire OrderEntryStreamConnection

namespace Connection

/-- A deleted connection is not used again, nothing is still to be delivered to it, and no
loop went on from its entry. -/
structure Undisturbed (connection : Connection) : Prop where
  unused : connection.usedAfterRelease = false
  kept : connection.lostEntry = false
  finished : connection.released = true →
    connection.outstanding = 0 ∧ connection.notified = true

end Connection

/-- What the use of a connection depends on, apart from its counter and its writes. -/
structure Life where
  constructed : Bool
  userid : UserId
  pending : List Callback
  released : Bool
  usedAfterRelease : Bool
  lostEntry : Bool

def Connection.life (connection : Connection) : Life :=
  { constructed := connection.constructed
    userid := connection.userid
    pending := connection.pending
    released := connection.released
    usedAfterRelease := connection.usedAfterRelease
    lostEntry := connection.lostEntry }

namespace Life

/-- Not deleted, and entered under its user id, if it is, once its first message came. -/
structure Alive (life : Life) (ids : Set UserId) : Prop where
  unused : life.usedAfterRelease = false
  kept : life.lostEntry = false
  alive : life.released = false
  few : life.pending.length ≤ 1
  entered : ∀ userid ∈ ids, life.constructed = true ∧ life.userid = userid ∧
    .initialiseOEConn ∉ life.pending ∧ .verifyID ∉ life.pending

/-- In a callback, with no call but writes pending, and entries within `limit`. -/
structure Ready (limit : Set UserId) (life : Life) (ids : Set UserId) : Prop
    extends life.Alive ids where
  idle : life.pending = []
  within : ids ⊆ limit
  constructed : life.constructed = true

end Life

namespace Connection

structure Gone (connection : Connection) (ids : Set UserId) : Prop where
  unused : connection.usedAfterRelease = false
  kept : connection.lostEntry = false
  gone : connection.released = true
  none : connection.outstanding = 0
  notified : connection.notified = true
  removed : ids = ∅

def Safe (connection : Connection) (ids : Set UserId) : Prop :=
  connection.life.Alive ids ∨ connection.Gone ids

/-- For a connection taken for cancelled the counter is at `level` only where it may be. -/
def Leaves (mayRelease : Bool) (level : UInt64) (connection : Connection) : Prop :=
  connection.onStreamcancelledCalled = true → connection.currentAsyncOps = level →
    mayRelease = true ∧ connection.outstanding = 0 ∧ connection.notified = true

section Lemmas

variable {connection next : Connection} {ids limit : Set UserId} {answer mayRelease : Bool}
  {level : UInt64}

theorem Safe.undisturbed (safe : connection.Safe ids) : connection.Undisturbed := by
  rcases safe with alive | gone
  · constructor
    · exact alive.unused
    · exact alive.kept
    · intro released
      have not : connection.released = false := alive.alive
      rw [not] at released
      cases released
  · exact
      { unused := gone.unused
        kept := gone.kept
        finished := fun _ => ⟨gone.none, gone.notified⟩ }

theorem Safe.alive (safe : connection.Safe ids) (alive : connection.released = false) :
    connection.life.Alive ids := by
  rcases safe with here | gone
  · exact here
  · rw [gone.gone] at alive
    cases alive

theorem Safe.unborn (safe : connection.Safe ids) (unborn : connection.constructed = false) :
    ids = ∅ := by
  rcases safe with alive | gone
  · apply Set.eq_empty_of_forall_notMem
    intro userid member
    have constructed : connection.constructed = true := (alive.entered userid member).1
    rw [unborn] at constructed
    cases constructed
  · exact gone.removed

theorem construct_safe (userid : UserId) (none : ids = ∅) : (construct userid).Safe ids := by
  rw [none]
  exact Or.inl
    { unused := rfl
      kept := rfl
      alive := rfl
      few := Nat.le_refl 1
      entered := fun _ member => absurd member (Set.notMem_empty _) }

theorem Safe.fewer (safe : connection.Safe ids) (erased : Set UserId) :
    connection.Safe (ids \ erased) := by
  rcases safe with alive | gone
  · exact Or.inl { alive with entered := fun userid member => alive.entered userid member.1 }
  · refine Or.inr { gone with removed := ?_ }
    rw [gone.removed, Set.empty_sdiff]

theorem Alive.touch (alive : connection.life.Alive ids) : connection.touch.life.Alive ids := by
  have unused := alive.unused
  have living := alive.alive
  refine { alive with unused := ?_ }
  simp only [life] at unused living
  simp only [life, Connection.touch, unused, living, Bool.or_false]

theorem Ready.touch (ready : connection.life.Ready limit ids) :
    connection.touch.life.Ready limit ids :=
  { Alive.touch ready.toAlive with
    idle := ready.idle
    within := ready.within
    constructed := ready.constructed }

/-- What is written to a connection does not matter for its deletion. -/
theorem writeToClient_life {response : OrderEntryResponse}
    (acted : connection.act (.writeToClient response) = .ok (answer, next)) :
    next.life = connection.life := by
  rcases act_writeToClient acted with ⟨-, same⟩ | ⟨-, same⟩ <;> rw [same] <;> rfl

theorem sendFromQueue_life {success : Bool}
    (acted : connection.act (.sendFromQueue success) = .ok (answer, next)) :
    next.life = connection.life := by
  rcases act_sendFromQueue acted with ⟨_, same⟩ | ⟨_, _, same⟩ <;> rw [same] <;> rfl

theorem Leaves.decrement (leaves : connection.Leaves mayRelease 1) :
    Leaves mayRelease 0
      { connection.touch with currentAsyncOps := connection.currentAsyncOps - 1 } := by
  intro cancelled zero
  apply leaves cancelled
  change connection.currentAsyncOps - 1 = 0 at zero
  have sum := congrArg (fun word => word + 1) zero
  simpa using sum

/-- A connection that is deleted where it may be leaves nothing behind. -/
theorem Leaves.gone (leaves : connection.Leaves mayRelease 0) (alive : connection.life.Alive ids)
    (cancelled : connection.onStreamcancelledCalled = true)
    (zero : connection.currentAsyncOps = 0) :
    mayRelease = true ∧
      Gone { connection.touch with released := true } (ids \ {connection.userid}) := by
  obtain ⟨permitted, none, notified⟩ := leaves cancelled zero
  refine ⟨permitted, ?_⟩
  constructor
  · exact (Alive.touch alive).unused
  · exact alive.kept
  · rfl
  · exact none
  · exact notified
  · apply Set.sdiff_eq_empty.mpr
    intro userid member
    exact (alive.entered userid member).2.1.symm

end Lemmas

end Connection

namespace Clients

open Connection

/-- Between two callbacks, and for the receivers of what a book sends, not deleted. -/
def standing (receivers : List ConnectionRef) : ConnectionRef → Condition :=
  fun other connection ids =>
    connection.Safe ids ∧ (other ∈ receivers → connection.released = false)

section Callbacks

variable {self : ConnectionRef} {receivers : List ConnectionRef} {limit : Set UserId}
  {mayRelease : Bool}

theorem standing_fewer (other : ConnectionRef) (connection : Connection)
    (ids erased : Set UserId) (stands : standing receivers other connection ids) :
    standing receivers other connection (ids \ erased) :=
  ⟨stands.1.fewer erased, stands.2⟩

theorem asyncOpFinished_leaves {holds : Life → Set UserId → Prop}
    (alive : ∀ life ids, holds life ids → life.Alive ids)
    (touches : ∀ (connection : Connection) ids, holds connection.life ids →
      holds connection.touch.life ids) :
    Ensures effect
      (fun clients => clients.Around self (standing receivers) (fun connection ids =>
        holds connection.life ids ∧ connection.Leaves mayRelease 1))
      (asyncOpFinished self)
      (fun _ clients => clients.Around self (standing receivers) (fun connection ids =>
        holds connection.life ids ∨ (mayRelease = true ∧ connection.Gone ids))) := by
  apply asyncOpFinished_around (fun connection ids =>
    holds connection.life ids ∧ connection.Leaves mayRelease 0)
  · rintro connection ids ⟨here, leaves⟩
    exact ⟨touches connection ids here, leaves.decrement⟩
  · rintro connection ids ⟨here, leaves⟩
    exact ⟨touches connection ids here, leaves⟩
  · rintro connection ids ⟨here, leaves⟩ stays
    exact Or.inl here
  · apply terminate_around standing_fewer
    rintro connection ids ⟨⟨⟨here, leaves⟩, cancelled⟩, zero⟩
    exact Or.inr (leaves.gone (alive connection.life ids here) cancelled zero)

theorem writeToClient_ready {response : OrderEntryResponse} :
    Ensures effect
      (fun clients => clients.Around self (standing receivers) (fun connection ids =>
        connection.life.Ready limit ids))
      (writeToClient self response)
      (fun _ clients => clients.Around self (standing receivers) (fun connection ids =>
        connection.life.Ready limit ids)) := by
  apply perform_around
  intro connection ids answer next ready acted
  rw [writeToClient_life acted]
  exact Ready.touch ready

theorem asyncOpStarted_ready :
    Ensures effect
      (fun clients => clients.Around self (standing receivers) (fun connection ids =>
        connection.life.Ready limit ids))
      (perform (.on self .asyncOpStarted))
      (fun _ clients => clients.Around self (standing receivers) (fun connection ids =>
        connection.life.Ready limit ids)) := by
  apply perform_around
  intro connection ids answer next ready acted
  cases acted
  exact Ready.touch ready

/-- What is sent to connections that are not deleted disturbs none of them. -/
theorem receive_ready {item : ConnectionRef × Send} (known : item.1 ∈ receivers) :
    Ensures effect
      (fun clients => clients.Around self (standing receivers) (fun connection ids =>
        connection.life.Ready limit ids))
      (receive item)
      (fun _ clients => clients.Around self (standing receivers) (fun connection ids =>
        connection.life.Ready limit ids)) := by
  obtain ⟨receiver, send⟩ := item
  by_cases same : receiver = self
  · rw [same]
    cases send with
    | response response => exact writeToClient_ready
    | rejection rejection =>
        refine Ensures.bind asyncOpStarted_ready ?_
        intro _
        exact writeToClient_ready
  · have written : ∀ response,
        Ensures effect
          (fun clients => clients.Around self (standing receivers) (fun connection ids =>
            connection.life.Ready limit ids))
          (writeToClient receiver response)
          (fun _ clients => clients.Around self (standing receivers) (fun connection ids =>
            connection.life.Ready limit ids)) := by
      intro response
      apply perform_elsewhere same
      rintro connection ids answer next ⟨safe, stands⟩ acted
      have alive := Alive.touch (safe.alive (stands known))
      rw [← writeToClient_life acted] at alive
      exact ⟨Or.inl alive, fun _ => alive.alive⟩
    cases send with
    | response response => exact written response
    | rejection rejection =>
        have started : Ensures effect
            (fun clients => clients.Around self (standing receivers) (fun connection ids =>
              connection.life.Ready limit ids))
            (perform (.on receiver .asyncOpStarted))
            (fun _ clients => clients.Around self (standing receivers) (fun connection ids =>
              connection.life.Ready limit ids)) := by
          apply perform_elsewhere same
          rintro connection ids answer next ⟨safe, stands⟩ acted
          cases acted
          exact ⟨Or.inl (Alive.touch (safe.alive (stands known))), stands⟩
        refine Ensures.bind started ?_
        intro _
        exact written _

theorem processEntry_ready {processing : Processing} {request : OrderEntryRequest}
    (known : ∀ item ∈ processing.sends, item.1 ∈ receivers) :
    Ensures effect
      (fun clients => clients.Around self (standing receivers) (fun connection ids =>
        connection.life.Ready limit ids))
      (processEntry self processing request)
      (fun _ clients => clients.Around self (standing receivers) (fun connection ids =>
        connection.life.Ready limit ids)) := by
  apply processEntry_around (fun connection ids => connection.life.Ready limit ids)
  · intro connection ids ready
    exact Ready.touch ready
  · intro connection ids ready
    exact Ready.touch ready
  · intro connection ids response answer next ready acted
    rw [writeToClient_life acted]
    exact Ready.touch ready
  · intro connection ids response answer next ready acted
    rw [writeToClient_life acted]
    exact Ready.touch ready
  · intro item member
    exact receive_ready (known item member)

/-- A callback that is not the last goes on with a connection that is still there. -/
theorem asyncOpFinished_ready (stays : mayRelease = false) :
    Ensures effect
      (fun clients => clients.Around self (standing receivers) (fun connection ids =>
        connection.life.Ready limit ids ∧ connection.Leaves mayRelease 1))
      (asyncOpFinished self)
      (fun _ clients => clients.Around self (standing receivers) (fun connection ids =>
        connection.life.Ready limit ids)) := by
  have finished := @asyncOpFinished_leaves self receivers mayRelease
    (fun life ids => life.Ready limit ids) (fun _ _ ready => ready.toAlive)
    (fun _ _ ready => Ready.touch ready)
  refine finished.conclude ?_
  intro _ clients around
  apply around_mono around
  intro connection ids left
  rcases left with ready | gone
  · exact ready
  · rw [stays] at gone
    exact absurd gone.1 Bool.false_ne_true

theorem asyncOpFinished_safe :
    Ensures effect
      (fun clients => clients.Around self (standing receivers) (fun connection ids =>
        connection.life.Ready limit ids ∧ connection.Leaves mayRelease 1))
      (asyncOpFinished self)
      (fun _ clients => clients.Around self (standing receivers) Connection.Safe) := by
  have finished := @asyncOpFinished_leaves self receivers mayRelease
    (fun life ids => life.Ready limit ids) (fun _ _ ready => ready.toAlive)
    (fun _ _ ready => Ready.touch ready)
  refine finished.conclude ?_
  intro _ clients around
  apply around_mono around
  intro connection ids left
  rcases left with ready | gone
  · exact Or.inl ready.toAlive
  · exact Or.inr gone.2

theorem read_safe {callback : Callback}
    (fits : callback = .readOrderEntryCallback ∨ limit = ∅) :
    Ensures effect
      (fun clients => clients.Around self (standing receivers) (fun connection ids =>
        connection.life.Ready limit ids))
      (do
        perform (.on self .asyncOpStarted)
        perform (.on self (.read callback)))
      (fun _ clients => clients.Around self (standing receivers) Connection.Safe) := by
  refine Ensures.bind asyncOpStarted_ready ?_
  intro _
  apply perform_around
  intro connection ids answer next ready acted
  cases acted
  have touched := Ready.touch ready
  have idle : connection.pending = [] := ready.idle
  have after : (connection.touch.pending ++ [callback]) = [callback] := by
    rw [touch_pending, idle, List.nil_append]
  refine Or.inl { touched.toAlive with few := ?_, entered := ?_ }
  · change (connection.touch.pending ++ [callback]).length ≤ 1
    rw [after]
    exact Nat.le_refl 1
  · intro userid member
    change connection.constructed = true ∧ connection.userid = userid ∧
      .initialiseOEConn ∉ connection.touch.pending ++ [callback] ∧
      .verifyID ∉ connection.touch.pending ++ [callback]
    rw [after]
    rcases fits with later | none
    · rw [later]
      exact ⟨ready.constructed, (ready.entered userid member).2.1, by decide, by decide⟩
    · have inside := ready.within member
      rw [none] at inside
      exact absurd inside (Set.notMem_empty userid)

theorem readOrderEntryCallback_safe {success : Bool} {request : OrderEntryRequest}
    {processing : Processing} (stays : success = true → mayRelease = false)
    (known : success = true → ∀ item ∈ processing.sends, item.1 ∈ receivers) :
    Ensures effect
      (fun clients => clients.Around self (standing receivers) (fun connection ids =>
        connection.life.Ready limit ids ∧ connection.Leaves mayRelease 1))
      (readOrderEntryCallback self success request processing)
      (fun _ clients => clients.Around self (standing receivers) Connection.Safe) := by
  cases success with
  | true =>
      refine Ensures.bind (asyncOpFinished_ready (stays rfl)) ?_
      intro _
      refine Ensures.bind (processEntry_ready (known rfl)) ?_
      intro _
      exact read_safe (Or.inl rfl)
  | false =>
      refine Ensures.bind asyncOpFinished_safe ?_
      intro _
      exact Ensures.done (fun _ around => around)

theorem refuse_safe {common : Info.OrderCommon} (stays : mayRelease = false) :
    Ensures effect
      (fun clients => clients.Around self (standing receivers) (fun connection ids =>
        connection.life.Ready limit ids ∧ connection.Leaves mayRelease 1))
      (do
        asyncOpFinished self
        perform (.on self .setCancelled)
        perform (.on self .setCancelled)
        writeToClient self (usageRejection common))
      (fun _ clients => clients.Around self (standing receivers) Connection.Safe) := by
  have flagged : Ensures effect
      (fun clients => clients.Around self (standing receivers) (fun connection ids =>
        connection.life.Ready limit ids))
      (perform (.on self .setCancelled))
      (fun _ clients => clients.Around self (standing receivers) (fun connection ids =>
        connection.life.Ready limit ids)) := by
    apply perform_around
    intro connection ids answer next ready acted
    cases acted
    exact Ready.touch ready
  refine Ensures.bind (asyncOpFinished_ready stays) ?_
  intro _
  refine Ensures.bind flagged ?_
  intro _
  refine Ensures.bind flagged ?_
  intro _
  refine writeToClient_ready.conclude ?_
  intro _ clients around
  exact around_mono around (fun _ _ ready => Or.inl ready.toAlive)

theorem verifyID_safe {known success : Bool} {request : OrderEntryRequest}
    {processing : Processing} (stays : success = true → mayRelease = false)
    (refuses : known = true → mayRelease = false)
    (alive : success = true → ∀ item ∈ processing.sends, item.1 ∈ receivers) :
    Ensures effect
      (fun clients =>
        clients.Around self (standing receivers) (fun connection ids =>
          connection.life.Ready ∅ ids ∧ connection.Leaves mayRelease 1) ∧
        (clients.clientStreams.lookup
          ((Exchange.orderCommon request).getD processing.unset).userId).isSome = known)
      (verifyID self success request processing)
      (fun _ clients => clients.Around self (standing receivers) Connection.Safe) := by
  apply verifyID_around
    (fun connection ids =>
      connection.life.Ready ∅ ∅ ∧ connection.Leaves mayRelease 1 ∧
        ids ⊆ {((Exchange.orderCommon request).getD processing.unset).userId})
    (fun connection ids =>
      connection.life.Ready Set.univ ids ∧ connection.Leaves mayRelease 1) rfl
  · rintro connection ids ⟨ready, leaves⟩
    exact ⟨Ready.touch ready, leaves⟩
  · rintro connection ids ⟨ready, leaves⟩
    have none : ids = ∅ := Set.subset_empty_iff.mp ready.within
    rw [none] at ready ⊢
    refine ⟨Ready.touch ready, leaves, ?_⟩
    intro userid member
    rcases member with same | inside
    · exact same
    · exact absurd inside (Set.notMem_empty userid)
  · rintro connection ids ⟨ready, leaves, single⟩
    have touched := Ready.touch ready
    refine ⟨?_, leaves⟩
    constructor
    · constructor
      · exact touched.unused
      · exact touched.kept
      · exact touched.alive
      · exact touched.few
      · intro userid member
        have idle : connection.pending = [] := ready.idle
        refine ⟨ready.constructed, (single member).symm, ?_, ?_⟩
        · change .initialiseOEConn ∉ connection.pending
          rw [idle]
          exact List.not_mem_nil
        · change .verifyID ∉ connection.pending
          rw [idle]
          exact List.not_mem_nil
    · exact touched.idle
    · exact Set.subset_univ ids
    · exact touched.constructed
  · intro found
    exact refuse_safe (refuses found)
  · intro _
    exact readOrderEntryCallback_safe stays alive

theorem initialiseOEConn_safe {success : Bool} {fresh : ConnectionRef} {userid : UserId}
    (stays : success = true → mayRelease = false) :
    Ensures effect
      (fun clients => clients.Around self (standing receivers) (fun connection ids =>
        connection.life.Ready ∅ ids ∧ connection.Leaves mayRelease 1))
      (initialiseOEConn self success fresh userid)
      (fun _ clients => clients.Around self (standing receivers) Connection.Safe) := by
  have created : Ensures effect
      (fun clients => clients.Around self (standing receivers) (fun connection ids =>
        connection.life.Ready ∅ ids ∧ connection.Leaves mayRelease 1))
      (perform (.createNewConn self fresh userid))
      (fun _ clients => clients.Around self (standing receivers) (fun connection ids =>
        connection.life.Ready ∅ ids ∧ connection.Leaves mayRelease 1)) := by
    apply create_around
    · rintro connection ids ⟨ready, -⟩
      exact ready.constructed
    · rintro connection ids ⟨ready, leaves⟩
      exact ⟨Ready.touch ready, leaves⟩
    · rintro other connection ids ⟨safe, -⟩ unborn
      exact ⟨construct_safe userid (safe.unborn unborn), fun _ => rfl⟩
  refine Ensures.bind created ?_
  intro _
  cases success with
  | true =>
      refine Ensures.bind (asyncOpFinished_ready (stays rfl)) ?_
      intro _
      exact read_safe (Or.inr rfl)
  | false =>
      refine Ensures.bind asyncOpFinished_safe ?_
      intro _
      exact Ensures.done (fun _ around => around)

theorem sendResponseFromQueue_safe {success : Bool} :
    Ensures effect
      (fun clients => clients.Around self (standing receivers) (fun connection ids =>
        connection.life.Alive ids ∧ connection.Leaves false 1))
      (sendResponseFromQueue self success)
      (fun _ clients => clients.Around self (standing receivers) Connection.Safe) := by
  have finished := @asyncOpFinished_leaves self receivers false
    (fun life ids => life.Alive ids) (fun _ _ alive => alive) (fun _ _ alive => Alive.touch alive)
  refine Ensures.bind finished ?_
  intro _
  apply perform_around
  intro connection ids answer next left acted
  rcases left with alive | gone
  · have touched := Alive.touch alive
    rw [← sendFromQueue_life acted] at touched
    exact Or.inl touched
  · exact absurd gone.1 Bool.false_ne_true

theorem onStreamCancelled_safe :
    Ensures effect
      (fun clients => clients.Around self (standing receivers) (fun connection ids =>
        connection.life.Alive ids ∧ connection.notified = true ∧
          (connection.currentAsyncOps = 0 → connection.outstanding = 0)))
      (onStreamCancelled self)
      (fun _ clients => clients.Around self (standing receivers) Connection.Safe) := by
  apply onStreamCancelled_around (fun connection ids =>
    (connection.life.Alive ids ∧ connection.Leaves true 0) ∧
      connection.onStreamcancelledCalled = true)
  · rintro connection ids ⟨alive, notified, none⟩
    refine ⟨⟨Alive.touch alive, ?_⟩, rfl⟩
    intro _ zero
    exact ⟨rfl, none zero, notified⟩
  · rintro connection ids ⟨⟨alive, leaves⟩, cancelled⟩
    exact ⟨⟨Alive.touch alive, leaves⟩, cancelled⟩
  · rintro connection ids ⟨⟨alive, -⟩, -⟩ _
    exact Or.inl alive
  · apply terminate_around standing_fewer
    rintro connection ids ⟨⟨⟨alive, leaves⟩, cancelled⟩, zero⟩
    exact Or.inr (leaves.gone alive cancelled zero).2

end Callbacks

/-! ### The shutdown loop -/

/-- During the loop: the table is as it was, and who stands in it has calls outstanding. -/
def looping (table : ConnectionRef → Set UserId) : ConnectionRef → Condition :=
  fun other connection ids =>
    connection.Safe ids ∧ ids = table other ∧ (ids.Nonempty → connection.currentAsyncOps ≠ 0)

theorem visit_looping {table : ConnectionRef → Set UserId} {entry : UserId × ConnectionRef}
    (listed : entry.1 ∈ table entry.2) :
    Ensures effect
      (fun clients => clients.Around entry.2 (looping table) (looping table entry.2))
      (do
        onStreamCancelled entry.2
        perform (.nextEntry entry.2 entry.1))
      (fun _ clients => clients.Around entry.2 (looping table) (looping table entry.2)) := by
  have alive : ∀ connection ids, looping table entry.2 connection ids →
      connection.life.Alive ids := by
    rintro connection ids ⟨safe, same, -⟩
    rcases safe with alive | gone
    · exact alive
    · rw [← same, gone.removed] at listed
      exact absurd listed (Set.notMem_empty entry.1)
  have touches : ∀ connection ids, looping table entry.2 connection ids →
      looping table entry.2 connection.touch ids :=
    fun connection ids before =>
      ⟨Or.inl (Alive.touch (alive connection ids before)), before.2⟩
  have cancelled : Ensures effect
      (fun clients => clients.Around entry.2 (looping table) (looping table entry.2))
      (onStreamCancelled entry.2)
      (fun _ clients => clients.Around entry.2 (looping table) (looping table entry.2)) := by
    apply onStreamCancelled_around (looping table entry.2)
    · intro connection ids before
      exact ⟨Or.inl (Alive.touch (alive connection ids before)), before.2⟩
    · exact touches
    · intro connection ids before _
      exact before
    · apply absurd_around
      rintro connection ids ⟨⟨-, same, some⟩, zero⟩
      rw [← same] at listed
      exact some ⟨entry.1, listed⟩ zero
  refine Ensures.bind cancelled ?_
  intro _
  apply Ensures.perform
  intro clients answer next around performed
  cases performed
  have found : clients.clientStreams.lookup entry.1 = some entry.2 := by
    have present : entry.1 ∈ clients.entries entry.2 := by
      rw [around.1.2.1]
      exact listed
    exact present
  apply around_update around
  rintro ⟨safe, same, some⟩
  refine ⟨?_, same, some⟩
  have living := alive _ _ ⟨safe, same, some⟩
  refine Or.inl { living with kept := ?_ }
  have kept := living.kept
  simp only [life] at kept
  simp only [life, kept, found, Option.isSome_some, Bool.not_true, Bool.or_false]

/-! ### Deliveries -/

end Clients

namespace Connection

/-- One more callback takes the counter of a connection that is taken for cancelled to
zero. -/
def leaving (connection : Connection) : Bool :=
  connection.onStreamcancelledCalled && connection.currentAsyncOps == 1

/-- Nothing is to be delivered but the completion of one call. -/
def lastCall (connection : Connection) : Bool :=
  connection.outstanding == 1 && connection.notified

end Connection

namespace Clients

open Connection

/-- The books send to connections that have not been deleted. -/
def reaches (clients : Clients) (processing : Processing) : Bool :=
  processing.sends.all (fun item => !(clients.connections item.1).released)

/-- The id of the first message is in use. -/
def refuses (clients : Clients) (self : ConnectionRef) (success : Bool)
    (message : OrderEntryRequest) (processing : Processing) : Bool :=
  (clients.clientStreams.lookup
    ((Exchange.orderCommon
      ((clients.connections self).reads .verifyID success message).oeRequest).getD
        processing.unset).userId).isSome

/-- A connection is deleted only with the failure of its last request or read, after the
end of its stream was notified, or with that notification when nothing else is
outstanding; and the books send to no deleted connection. -/
def deletesLast (clients : Clients) : Delivery → Bool
  | .makeNewOrderEntryConnection _ _ => true
  | .requested self success _ _ =>
      !(clients.connections self).leaving || (!success && (clients.connections self).lastCall)
  | .firstRead self success message processing =>
      (!(clients.connections self).leaving ||
        (!success && !clients.refuses self success message processing &&
          (clients.connections self).lastCall)) &&
      (!success || clients.reaches processing)
  | .nextRead self success _ processing =>
      (!(clients.connections self).leaving ||
        (!success && (clients.connections self).lastCall)) &&
      (!success || clients.reaches processing)
  | .written self _ _ => !(clients.connections self).leaving
  | .streamDone self =>
      !((clients.connections self).currentAsyncOps == 0) ||
        (clients.connections self).outstanding == 0
  | .shutdownServer _ =>
      clients.clientStreams.entries.all (fun entry =>
        !((clients.connections entry.2).currentAsyncOps == 0))

def AllSafe (clients : Clients) : Prop :=
  ∀ connection, (clients.connections connection).Safe (clients.entries connection)

theorem start_safe : start.AllSafe := by
  intro connection
  refine Or.inl ?_
  constructor
  · rfl
  · rfl
  · rfl
  · exact Nat.zero_le 1
  · intro userid member
    cases member

theorem safe_around {clients : Clients} (safe : clients.AllSafe) (self : ConnectionRef)
    {receivers : List ConnectionRef}
    (alive : ∀ receiver ∈ receivers, (clients.connections receiver).released = false) :
    clients.Around self (standing receivers) Connection.Safe :=
  ⟨safe self, fun other _ => ⟨safe other, alive other⟩⟩

theorem safe_alone {clients : Clients} (safe : clients.AllSafe) (self : ConnectionRef) :
    clients.Around self (standing []) Connection.Safe :=
  safe_around safe self (fun _ member => absurd member List.not_mem_nil)

theorem around_safe {clients : Clients} {self : ConnectionRef} {receivers : List ConnectionRef}
    (around : clients.Around self (standing receivers) Connection.Safe) : clients.AllSafe := by
  intro connection
  by_cases same : connection = self
  · rw [same]
    exact around.1
  · exact (around.2 connection same).1

section Delivered

variable {clients : Clients} {self : ConnectionRef} {receivers : List ConnectionRef}
  {mayRelease : Bool}

/-- A call that completes finds its connection there, with no other call but writes. -/
theorem reads_ready (safe : clients.AllSafe) {callback : Callback}
    (awaits : (clients.connections self).Awaits callback) {success : Bool}
    {message : OrderEntryRequest} {limit : Set UserId}
    (within : callback = .readOrderEntryCallback → limit = Set.univ)
    (alive : ∀ receiver ∈ receivers, (clients.connections receiver).released = false)
    (leaves : (clients.connections self).leaving = true →
      mayRelease = true ∧ (clients.connections self).lastCall = true) :
    (clients.update self (fun connection => connection.reads callback success message)).Around
      self (standing receivers)
      (fun connection ids => connection.life.Ready limit ids ∧ connection.Leaves mayRelease 1) := by
  apply around_update (safe_around safe self alive)
  intro here
  have length := List.length_erase_of_mem awaits.2
  have positive := List.length_pos_of_mem awaits.2
  have living : (clients.connections self).life.Alive (clients.entries self) := by
    rcases here with living | gone
    · exact living
    · have none := gone.none
      unfold outstanding at none
      omega
  have few : (clients.connections self).pending.length ≤ 1 := living.few
  have idle : (clients.connections self).pending.erase callback = [] := by
    apply List.length_eq_zero_iff.mp
    omega
  constructor
  · constructor
    · constructor
      · exact living.unused
      · exact living.kept
      · exact living.alive
      · change ((clients.connections self).pending.erase callback).length ≤ 1
        rw [idle]
        exact Nat.zero_le 1
      · intro userid member
        obtain ⟨constructed, same, -, -⟩ := living.entered userid member
        refine ⟨constructed, same, ?_, ?_⟩
        · change .initialiseOEConn ∉ (clients.connections self).pending.erase callback
          rw [idle]
          exact List.not_mem_nil
        · change .verifyID ∉ (clients.connections self).pending.erase callback
          rw [idle]
          exact List.not_mem_nil
    · exact idle
    · intro userid member
      obtain ⟨-, -, first, second⟩ := living.entered userid member
      cases callback with
      | initialiseOEConn => exact absurd awaits.2 first
      | verifyID => exact absurd awaits.2 second
      | readOrderEntryCallback =>
          rw [within rfl]
          exact Set.mem_univ userid
    · exact awaits.1
  · intro cancelled one
    have leaving : (clients.connections self).leaving = true := by
      change (clients.connections self).onStreamcancelledCalled = true at cancelled
      change (clients.connections self).currentAsyncOps = 1 at one
      simp only [Connection.leaving, cancelled, one, beq_self_eq_true, Bool.and_self]
    obtain ⟨permitted, last⟩ := leaves leaving
    have both := (Bool.and_eq_true _ _).mp last
    have single : (clients.connections self).outstanding = 1 := eq_of_beq both.1
    refine ⟨permitted, ?_, both.2⟩
    simp only [outstanding, reads] at single ⊢
    omega

theorem reached_alive {processing : Processing} (reached : clients.reaches processing = true) :
    ∀ receiver ∈ processing.sends.map Prod.fst,
      (clients.connections receiver).released = false := by
  intro receiver member
  obtain ⟨item, present, same⟩ := List.mem_map.mp member
  have alive := List.all_eq_true.mp reached item present
  rw [← same]
  simpa using alive

theorem requested_safe (safe : clients.AllSafe) {success : Bool} {fresh : ConnectionRef}
    {userid : UserId}
    (last : clients.deletesLast (.requested self success fresh userid) = true)
    {delivered finish : Clients} {program : Program Instruction Unit}
    (started : clients.deliver (.requested self success fresh userid) = .ok (delivered, program))
    (ran : program.alone effect delivered = .ok ((), finish)) : finish.AllSafe := by
  simp only [deliver] at started
  split at started
  · rename_i awaits
    cases started
    have leaves : (clients.connections self).leaving = true →
        (!success) = true ∧ (clients.connections self).lastCall = true := by
      intro leaving
      simpa [deletesLast, leaving] using last
    have otherCallback : Callback.initialiseOEConn = .readOrderEntryCallback →
        (∅ : Set UserId) = Set.univ := by
      intro same
      cases same
    have nobody : ∀ receiver ∈ ([] : List ConnectionRef),
        (clients.connections receiver).released = false := by
      intro receiver member
      cases member
    have ready := @reads_ready clients self [] (!success) safe _ awaits false .notSet ∅
      otherCallback nobody leaves
    have stays : success = true → (!success) = false := by
      intro succeeded
      rw [succeeded]
      rfl
    exact around_safe (initialiseOEConn_safe stays _ () finish ready ran)
  · cases started

/-- The receivers of what the books send, if they send anything. -/
theorem sends_alive {success : Bool} {processing : Processing}
    (reached : success = true → clients.reaches processing = true) :
    ∀ receiver ∈ (if success then processing.sends.map Prod.fst else []),
      (clients.connections receiver).released = false := by
  cases success with
  | true => exact reached_alive (reached rfl)
  | false =>
      intro receiver member
      cases member

theorem sends_known {success : Bool} {processing : Processing} (succeeded : success = true) :
    ∀ item ∈ processing.sends,
      item.1 ∈ (if success then processing.sends.map Prod.fst else []) := by
  intro item member
  rw [if_pos succeeded]
  exact List.mem_map_of_mem member

theorem firstRead_safe (safe : clients.AllSafe) {success : Bool} {message : OrderEntryRequest}
    {processing : Processing}
    (last : clients.deletesLast (.firstRead self success message processing) = true)
    {delivered finish : Clients} {program : Program Instruction Unit}
    (started : clients.deliver (.firstRead self success message processing) =
      .ok (delivered, program))
    (ran : program.alone effect delivered = .ok ((), finish)) : finish.AllSafe := by
  simp only [deliver] at started
  split at started
  · rename_i awaits
    cases started
    obtain ⟨quiet, reached⟩ := (Bool.and_eq_true _ _).mp last
    have reaches : success = true → clients.reaches processing = true := by
      intro succeeded
      simpa [succeeded] using reached
    have leaves : (clients.connections self).leaving = true →
        (!success && !clients.refuses self success message processing) = true ∧
          (clients.connections self).lastCall = true := by
      intro leaving
      have permitted : (!success && !clients.refuses self success message processing &&
          (clients.connections self).lastCall) = true := by
        simpa [leaving] using quiet
      exact (Bool.and_eq_true _ _).mp permitted
    have stays : success = true →
        (!success && !clients.refuses self success message processing) = false := by
      intro succeeded
      rw [succeeded]
      rfl
    have refused : clients.refuses self success message processing = true →
        (!success && !clients.refuses self success message processing) = false := by
      intro found
      rw [found]
      exact Bool.and_false (!success)
    have otherCallback : Callback.verifyID = .readOrderEntryCallback →
        (∅ : Set UserId) = Set.univ := by
      intro same
      cases same
    have ready := @reads_ready clients self _ _ safe _ awaits success message ∅ otherCallback
      (sends_alive reaches) leaves
    exact around_safe
      (verifyID_safe stays refused sends_known _ () finish ⟨ready, rfl⟩ ran)
  · cases started

theorem nextRead_safe (safe : clients.AllSafe) {success : Bool} {message : OrderEntryRequest}
    {processing : Processing}
    (last : clients.deletesLast (.nextRead self success message processing) = true)
    {delivered finish : Clients} {program : Program Instruction Unit}
    (started : clients.deliver (.nextRead self success message processing) =
      .ok (delivered, program))
    (ran : program.alone effect delivered = .ok ((), finish)) : finish.AllSafe := by
  simp only [deliver] at started
  split at started
  · rename_i awaits
    cases started
    obtain ⟨quiet, reached⟩ := (Bool.and_eq_true _ _).mp last
    have reaches : success = true → clients.reaches processing = true := by
      intro succeeded
      simpa [succeeded] using reached
    have leaves : (clients.connections self).leaving = true →
        (!success) = true ∧ (clients.connections self).lastCall = true := by
      intro leaving
      simpa [leaving] using quiet
    have stays : success = true → (!success) = false := by
      intro succeeded
      rw [succeeded]
      rfl
    have ready := @reads_ready clients self _ _ safe _ awaits success message Set.univ
      (fun _ => rfl) (sends_alive reaches) leaves
    exact around_safe (readOrderEntryCallback_safe stays sends_known _ () finish ready ran)
  · cases started

theorem written_safe (safe : clients.AllSafe) {position : Nat} {success : Bool}
    (last : clients.deletesLast (.written self position success) = true)
    {delivered finish : Clients} {program : Program Instruction Unit}
    (started : clients.deliver (.written self position success) = .ok (delivered, program))
    (ran : program.alone effect delivered = .ok ((), finish)) : finish.AllSafe := by
  simp only [deliver] at started
  split at started
  · rename_i below
    cases started
    have ready : (clients.update self (fun connection => connection.written position)).Around
        self (standing [])
        (fun connection ids => connection.life.Alive ids ∧ connection.Leaves false 1) := by
      apply around_update (safe_alone safe self)
      intro here
      rcases here with alive | gone
      · refine ⟨alive, ?_⟩
        intro cancelled one
        change (clients.connections self).onStreamcancelledCalled = true at cancelled
        change (clients.connections self).currentAsyncOps = 1 at one
        simp [deletesLast, Connection.leaving, cancelled, one] at last
      · have none := gone.none
        unfold outstanding at none
        omega
    exact around_safe (sendResponseFromQueue_safe _ () finish ready ran)
  · cases started

theorem streamDone_safe (safe : clients.AllSafe)
    (last : clients.deletesLast (.streamDone self) = true)
    {delivered finish : Clients} {program : Program Instruction Unit}
    (started : clients.deliver (.streamDone self) = .ok (delivered, program))
    (ran : program.alone effect delivered = .ok ((), finish)) : finish.AllSafe := by
  simp only [deliver] at started
  split at started
  · rename_i unnotified
    cases started
    have ready : (clients.update self (fun connection =>
          { connection with notified := true })).Around self (standing [])
        (fun connection ids =>
          connection.life.Alive ids ∧ connection.notified = true ∧
            (connection.currentAsyncOps = 0 → connection.outstanding = 0)) := by
      apply around_update (safe_alone safe self)
      intro here
      rcases here with alive | gone
      · refine ⟨alive, rfl, ?_⟩
        intro zero
        change (clients.connections self).currentAsyncOps = 0 at zero
        have none : (clients.connections self).outstanding = 0 := by
          simpa [deletesLast, zero] using last
        exact none
      · exact absurd gone.notified unnotified.2
    exact around_safe (onStreamCancelled_safe _ () finish ready ran)
  · cases started

theorem shutdownServer_safe (safe : clients.AllSafe) {order : List UserId}
    (last : clients.deletesLast (.shutdownServer order) = true)
    {delivered finish : Clients} {program : Program Instruction Unit}
    (started : clients.deliver (.shutdownServer order) = .ok (delivered, program))
    (ran : program.alone effect delivered = .ok ((), finish)) : finish.AllSafe := by
  simp only [deliver] at started
  split at started
  · cases started
    let table : ConnectionRef → Set UserId := clients.entries
    let All : Clients → Prop := fun state =>
      ∀ connection, looping table connection (state.connections connection)
        (state.entries connection)
    have begun : All clients := by
      intro connection
      refine ⟨safe connection, rfl, ?_⟩
      rintro ⟨userid, member⟩
      have listed := AList.mem_lookup_iff.mp member
      have some := List.all_eq_true.mp last _ listed
      simpa using some
    have kept : Ensures effect All (shutdownServer
        (order.filterMap (fun userid =>
          (clients.clientStreams.lookup userid).map (fun connection => (userid, connection)))))
        (fun _ => All) := by
      apply Ensures.each
      intro entry member
      obtain ⟨userid, -, made⟩ := List.mem_filterMap.mp member
      obtain ⟨connection, found, same⟩ := Option.map_eq_some_iff.mp made
      have listed : entry.1 ∈ table entry.2 := by
        rw [← same]
        exact found
      have around := (visit_looping listed).weaken
        (fun state (all : All state) => (around_all (looping table) state entry.2).mpr all)
      exact around.conclude (fun _ state => (around_all (looping table) state entry.2).mp)
    intro connection
    exact (kept clients () finish begun ran connection).1
  · cases started

/-- A delivery that deletes connections last leaves all of them undisturbed. -/
theorem step_safe {next : Clients} {delivery : Delivery} (safe : clients.AllSafe)
    (last : clients.deletesLast delivery = true) (taken : clients.step delivery = .ok next) :
    next.AllSafe := by
  unfold step handle at taken
  split at taken
  · cases taken
  · rename_i delivered program started
    obtain ⟨⟨value, finish⟩, ran, same⟩ := map_eq_ok taken
    change finish = next at same
    rw [← same]
    cases delivery with
    | makeNewOrderEntryConnection fresh userid =>
        simp only [deliver] at started
        split at started
        · cases started
        · rename_i unborn
          cases started
          cases ran
          intro connection
          by_cases new : connection = fresh
          · rw [new, update_self, update_entries]
            exact construct_safe userid
              ((safe fresh).unborn (Bool.eq_false_iff.mpr unborn))
          · rw [update_other _ _ new, update_entries]
            exact safe connection
    | requested self success fresh userid => exact requested_safe safe last started ran
    | firstRead self success message processing => exact firstRead_safe safe last started ran
    | nextRead self success message processing => exact nextRead_safe safe last started ran
    | written self position success => exact written_safe safe last started ran
    | streamDone self => exact streamDone_safe safe last started ran
    | shutdownServer order => exact shutdownServer_safe safe last started ran

end Delivered

/-- Along every run in which connections are deleted only with their last callback, no
connection is used after its deletion, and nothing is left to be delivered to it. -/
theorem connections_undisturbed {deliveries : List Delivery}
    (last : Guarded step (fun clients delivery => clients.deletesLast delivery = true) start
      deliveries) :
    Always step (fun clients => ∀ connection, (clients.connections connection).Undisturbed) start
      deliveries :=
  Guarded.always (fun _ safe connection => (safe connection).undisturbed)
    (fun _ _ _ => step_safe) start_safe last

theorem visit_undisturbed :
    Always step (fun clients => ∀ connection, (clients.connections connection).Undisturbed) start
      (visit cancelsSomething [.written 1 0 true]) :=
  connections_undisturbed (by decide +kernel)

/-- The second client asks under the user id of the first, and the write of its rejection
completes. -/
def refusedVisit : List Delivery :=
  [.makeNewOrderEntryConnection 1 0,
    .requested 1 true 2 0,
    .firstRead 1 true (.cancelOrder { orderCommon := asked }) cancelsSomething,
    .requested 2 true 3 0,
    .firstRead 2 true (.cancelOrder { orderCommon := asked }) cancelsSomething,
    .written 2 0 true]

/-- The server is shut down after a read has failed and before the end of the stream is
notified. -/
def interruptedVisit : List Delivery :=
  [.makeNewOrderEntryConnection 1 0,
    .requested 1 true 2 0,
    .firstRead 1 true (.cancelOrder { orderCommon := asked }) cancelsSomething,
    .written 1 0 true,
    .nextRead 1 false .notSet cancelsSomething,
    .shutdownServer [7],
    .streamDone 1]

/-- A refused connection is used after its deletion; so is one that the shutdown deletes,
from whose entry the loop goes on. -/
theorem visits_disturbed :
    (∃ finish, run step start refusedVisit = .ok finish ∧
      (finish.connections 2).released = true ∧
      (finish.connections 2).usedAfterRelease = true) ∧
    (∃ finish, run step start interruptedVisit = .ok finish ∧
      (finish.connections 1).lostEntry = true ∧
      (finish.connections 1).usedAfterRelease = true) := by
  constructor
  · have evaluated :
        (run step start refusedVisit).toOption.map (fun clients =>
            ((clients.connections 2).released, (clients.connections 2).usedAfterRelease)) =
          some (true, true) := by
      decide +kernel
    obtain ⟨finish, reached, seen⟩ := returns_of_view evaluated
    exact ⟨finish, reached, Prod.mk.inj seen⟩
  · have evaluated :
        (run step start interruptedVisit).toOption.map (fun clients =>
            ((clients.connections 1).lostEntry, (clients.connections 1).usedAfterRelease)) =
          some (true, true) := by
      decide +kernel
    obtain ⟨finish, reached, seen⟩ := returns_of_view evaluated
    exact ⟨finish, reached, Prod.mk.inj seen⟩

end Clients

end Server
end SpotExchange
