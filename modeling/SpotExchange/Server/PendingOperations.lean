/-
The counter of pending operations. Between two callbacks it is the number of calls of the
connection that have not completed, as long as no book sends a rejection: the write of a
rejection is counted twice.
-/

import SpotExchange.Server.ConnectionRules

namespace SpotExchange
namespace Server

open Machine Program Wire OrderEntryStreamConnection

namespace Connection

/-- The counter is exact, and a cancelled connection without pending calls is released. -/
structure Exact (connection : Connection) : Prop where
  counted : connection.currentAsyncOps.toNat = connection.outstanding
  settled : connection.onStreamcancelledCalled = true → connection.outstanding = 0 →
    connection.released = true

/-- A write is on its way exactly while the flag says so. -/
def Steady (responses : Writer OrderEntryResponse) : Prop :=
  responses.outstanding.length = if responses.writeInProgress then 1 else 0

/-- The write on its way has completed, and its callback has not yet seen the queue. -/
def Completing (responses : Writer OrderEntryResponse) : Prop :=
  responses.writeInProgress = true ∧ responses.outstanding.length = 0

/-- At most `calls` calls other than writes are pending, and the counter is ahead of what
is outstanding by `ahead`. -/
structure Tally (calls ahead : Nat) (writes : Writer OrderEntryResponse → Prop)
    (connection : Connection) : Prop where
  few : connection.pending.length ≤ calls
  counted : connection.currentAsyncOps.toNat = connection.outstanding + ahead
  writing : writes connection.responses

structure Settled (calls : Nat) (writes : Writer OrderEntryResponse → Prop)
    (connection : Connection) : Prop extends Tally calls 0 writes connection where
  released : connection.onStreamcancelledCalled = true → connection.outstanding = 0 →
    connection.released = true

theorem Settled.exact {connection : Connection} {calls : Nat}
    {writes : Writer OrderEntryResponse → Prop} (settled : Settled calls writes connection) :
    connection.Exact :=
  { counted := settled.counted
    settled := settled.released }

theorem steady_writes {responses : Writer OrderEntryResponse} (steady : Steady responses) :
    responses.outstanding.length ≤ 1 := by
  unfold Steady at steady
  split at steady <;> omega

section Actions

variable {connection next : Connection} {calls ahead : Nat} {answer : Bool}
  {writes : Writer OrderEntryResponse → Prop}

theorem Tally.touch (tally : Tally calls ahead writes connection) :
    Tally calls ahead writes connection.touch :=
  { few := tally.few
    counted := tally.counted
    writing := tally.writing }

theorem Tally.decrement (tally : Tally calls 1 writes connection) :
    Tally calls 0 writes
      { connection.touch with currentAsyncOps := connection.currentAsyncOps - 1 } := by
  have counted := tally.counted
  have one : (1 : UInt64) ≤ connection.currentAsyncOps := by
    rw [UInt64.le_iff_toNat_le, counted]
    exact Nat.le_add_left 1 connection.outstanding
  constructor
  · exact tally.few
  · change (connection.currentAsyncOps - 1).toNat = connection.outstanding + 0
    rw [UInt64.toNat_sub_of_le _ _ one, counted]
    exact Nat.add_sub_cancel connection.outstanding 1
  · exact tally.writing

theorem toNat_add_one {word : UInt64} (small : word.toNat ≤ 2) :
    (word + 1).toNat = word.toNat + 1 := by
  rw [UInt64.toNat_add]
  change (word.toNat + 1) % 2 ^ 64 = word.toNat + 1
  omega

theorem Tally.outstanding_le (tally : Tally 1 0 Steady connection) :
    connection.currentAsyncOps.toNat ≤ 2 := by
  have few := tally.few
  have single := steady_writes tally.writing
  rw [tally.counted]
  unfold outstanding
  omega

theorem Tally.more (tally : Tally calls ahead writes connection) {more : Nat}
    (le : calls ≤ more) : Tally more ahead writes connection :=
  { tally with few := Nat.le_trans tally.few le }

theorem Settled.more (settled : Settled 0 Steady connection) : Settled 1 Steady connection :=
  { settled.toTally.more (Nat.zero_le 1) with released := settled.released }

theorem Settled.touch (settled : Settled calls writes connection) :
    Settled calls writes connection.touch :=
  { settled.toTally.touch with released := settled.released }

/-- A started read is counted once. -/
theorem Tally.asyncOpStarted (tally : Tally 0 0 Steady connection) :
    Tally 0 1 Steady
      { connection.touch with currentAsyncOps := connection.currentAsyncOps + 1 } := by
  constructor
  · exact tally.few
  · change (connection.currentAsyncOps + 1).toNat = connection.outstanding + 1
    rw [toNat_add_one (tally.more (Nat.zero_le 1)).outstanding_le, tally.counted]
  · exact tally.writing

theorem Tally.read (tally : Tally 0 1 Steady connection) (callback : Callback) :
    Settled 1 Steady
      { connection.touch with pending := connection.pending ++ [callback] } := by
  have none : connection.pending = [] := List.length_eq_zero_iff.mp (Nat.le_zero.mp tally.few)
  have counted := tally.counted
  constructor
  · constructor
    · simp [none]
    · simp only [outstanding, none, List.nil_append, List.length_cons, List.length_nil,
        touch_currentAsyncOps, touch_responses] at counted ⊢
      omega
    · exact tally.writing
  · intro _ empty
    simp [outstanding] at empty

/-- A connection to which a response was just sent has a write on its way. -/
theorem Tally.writeToClient (tally : Tally calls 0 Steady connection) (one : calls ≤ 1)
    {response : OrderEntryResponse}
    (acted : connection.touch.act (.writeToClient response) = .ok (answer, next)) :
    Settled calls Steady next := by
  have steady := tally.writing
  have small := (tally.more one).outstanding_le
  have counted := tally.counted
  unfold Steady at steady
  rcases act_writeToClient acted with ⟨busy, same⟩ | ⟨idle, same⟩
  · rw [touch_responses] at busy
    rw [busy, if_pos rfl] at steady
    rw [same]
    constructor
    · constructor
      · exact tally.few
      · exact counted
      · simp only [Steady, Writer.pushBack, touch_responses, busy, if_true]
        exact steady
    · intro _ empty
      simp only [outstanding, Writer.pushBack, touch_responses] at empty
      omega
  · rw [touch_responses] at idle
    rw [idle, if_neg Bool.false_ne_true] at steady
    rw [same]
    constructor
    · constructor
      · exact tally.few
      · simp only [outstanding, Writer.startWrite, Writer.pushBack, List.length_append,
          List.length_cons, List.length_nil, touch_currentAsyncOps, touch_pending,
          touch_responses] at counted ⊢
        rw [toNat_add_one small]
        omega
      · simp only [Steady, Writer.startWrite, Writer.pushBack, List.length_append,
          List.length_cons, List.length_nil, if_true, touch_responses]
        omega
    · intro _ empty
      simp [outstanding, Writer.startWrite] at empty

/-- The next write is counted; without one nothing changes but the flag. -/
theorem Settled.sendFromQueue (settled : Settled 1 Completing connection) {success : Bool}
    (acted : connection.touch.act (.sendFromQueue success) = .ok (answer, next)) :
    Settled 1 Steady next := by
  obtain ⟨busy, none⟩ := settled.writing
  have few := settled.few
  have counted := settled.counted
  have small : connection.currentAsyncOps.toNat ≤ 2 := by
    rw [counted]
    unfold outstanding
    omega
  rcases act_sendFromQueue acted with ⟨rest, same⟩ | ⟨following, others, same⟩
  · rw [same]
    constructor
    · constructor
      · exact few
      · exact counted
      · exact none
    · exact settled.released
  · rw [same]
    constructor
    · constructor
      · exact few
      · simp only [outstanding, Writer.startWrite, List.length_append, List.length_cons,
          List.length_nil, touch_currentAsyncOps, touch_pending, touch_responses] at counted ⊢
        rw [toNat_add_one small]
        omega
      · simp only [Steady, Writer.startWrite, List.length_append, List.length_cons,
          List.length_nil, touch_responses, busy, if_true]
        omega
    · intro _ zero
      simp [outstanding, Writer.startWrite] at zero

end Actions

theorem absent_settled : Settled 1 Steady absent :=
  { few := Nat.zero_le 1
    counted := rfl
    writing := rfl
    released := nofun }

theorem construct_settled (userid : UserId) : Settled 1 Steady (construct userid) :=
  { few := Nat.le_refl 1
    counted := rfl
    writing := rfl
    released := nofun }

end Connection

/-- The book sends a rejection while it processes a message. -/
def Processing.rejects (processing : Processing) : Bool :=
  processing.sends.any (fun item =>
    match item.2 with
    | .response _ => false
    | .rejection _ => true)

/-- No book rejects what it is asked for during a callback. -/
def Delivery.rejectsNothing : Delivery → Bool
  | .firstRead _ _ _ processing => !processing.rejects
  | .nextRead _ _ _ processing => !processing.rejects
  | _ => true

namespace Clients

open Connection

/-- Between two callbacks. -/
def atRest : ConnectionRef → Condition := fun _ connection _ => Settled 1 Steady connection

abbrev Tallying (clients : Clients) (self : ConnectionRef)
    (here : Connection → Prop) : Prop :=
  clients.Around self atRest (fun connection _ => here connection)

section Callbacks

variable {self : ConnectionRef} {calls : Nat} {writes : Writer OrderEntryResponse → Prop}

theorem asyncOpFinished_settles :
    Ensures effect (fun clients => clients.Tallying self (Tally calls 1 writes))
      (asyncOpFinished self) (fun _ clients => clients.Tallying self (Settled calls writes)) := by
  apply asyncOpFinished_around (fun connection _ => Tally calls 0 writes connection)
  · intro connection _ tally
    exact tally.decrement
  · intro connection _ tally
    exact tally.touch
  · intro connection _ tally some
    refine { tally with released := ?_ }
    intro cancelled none
    have zero := tally.counted
    rw [none] at zero
    exact absurd (UInt64.toNat_inj.mp zero) (some cancelled)
  · apply terminate_around (fun _ _ _ _ settled => settled)
    rintro connection _ ⟨⟨tally, -⟩, -⟩
    exact
      { few := tally.few
        counted := tally.counted
        writing := tally.writing
        released := fun _ _ => rfl }

theorem writeToClient_settles {receiver : ConnectionRef} {response : OrderEntryResponse}
    (small : calls ≤ 1) :
    Ensures effect (fun clients => clients.Tallying receiver (Tally calls 0 Steady))
      (writeToClient receiver response)
      (fun _ clients => clients.Tallying receiver (Settled calls Steady)) := by
  apply perform_around
  intro connection _ answer next tally acted
  exact tally.writeToClient small acted

/-- A response to any connection leaves each as it was counted. -/
theorem respond_settles {receiver : ConnectionRef} {response : OrderEntryResponse} :
    Ensures effect (fun clients => clients.Tallying self (Settled 0 Steady))
      (writeToClient receiver response)
      (fun _ clients => clients.Tallying self (Settled 0 Steady)) := by
  by_cases same : receiver = self
  · rw [same]
    exact (writeToClient_settles (Nat.zero_le 1)).weaken
      (fun _ around => around_mono around (fun _ _ settled => settled.toTally))
  · apply perform_elsewhere same
    intro connection _ answer next settled acted
    exact settled.toTally.writeToClient (Nat.le_refl 1) acted

theorem read_settles {callback : Callback} :
    Ensures effect (fun clients => clients.Tallying self (Settled 0 Steady))
      (do
        perform (.on self .asyncOpStarted)
        perform (.on self (.read callback)))
      (fun _ clients => clients.Tallying self (Settled 1 Steady)) := by
  have counted : Ensures effect (fun clients => clients.Tallying self (Settled 0 Steady))
      (perform (.on self .asyncOpStarted))
      (fun _ clients => clients.Tallying self (Tally 0 1 Steady)) := by
    apply perform_around
    intro connection _ answer next settled acted
    cases acted
    exact settled.toTally.asyncOpStarted
  have started : Ensures effect (fun clients => clients.Tallying self (Tally 0 1 Steady))
      (perform (.on self (.read callback)))
      (fun _ clients => clients.Tallying self (Settled 1 Steady)) := by
    apply perform_around
    intro connection _ answer next tally acted
    cases acted
    exact tally.read callback
  exact Ensures.bind counted (fun _ => started)

theorem processEntry_settles {processing : Processing} {request : OrderEntryRequest}
    (accepted : processing.rejects = false) :
    Ensures effect (fun clients => clients.Tallying self (Settled 0 Steady))
      (processEntry self processing request)
      (fun _ clients => clients.Tallying self (Settled 0 Steady)) := by
  apply processEntry_around (fun connection _ => Tally 0 0 Steady connection)
  · intro connection _ settled
    exact settled.touch
  · intro connection _ settled
    exact
      { few := settled.few
        counted := settled.counted
        writing := settled.writing }
  · intro connection _ response answer next tally acted
    exact tally.writeToClient (Nat.zero_le 1) acted
  · intro connection _ response answer next settled acted
    exact settled.toTally.writeToClient (Nat.zero_le 1) acted
  · rintro ⟨receiver, send⟩ member
    cases send with
    | response response => exact respond_settles
    | rejection rejection =>
        have rejects : processing.rejects = true := List.any_eq_true.mpr ⟨_, member, rfl⟩
        rw [accepted] at rejects
        cases rejects

theorem readOrderEntryCallback_settles {success : Bool} {request : OrderEntryRequest}
    {processing : Processing} (accepted : processing.rejects = false) :
    Ensures effect (fun clients => clients.Tallying self (Tally 0 1 Steady))
      (readOrderEntryCallback self success request processing)
      (fun _ clients => clients.Tallying self (Settled 1 Steady)) := by
  refine Ensures.bind asyncOpFinished_settles ?_
  intro _
  apply Ensures.branch
  · intro _
    refine Ensures.bind (processEntry_settles accepted) ?_
    intro _
    exact read_settles
  · intro _
    apply Ensures.done
    intro clients around
    exact around_mono around (fun _ _ settled => settled.more)

theorem refuse_settles {common : Info.OrderCommon} :
    Ensures effect (fun clients => clients.Tallying self (Tally 0 1 Steady))
      (do
        asyncOpFinished self
        perform (.on self .setCancelled)
        perform (.on self .setCancelled)
        writeToClient self (usageRejection common))
      (fun _ clients => clients.Tallying self (Settled 1 Steady)) := by
  have flagged : Ensures effect (fun clients => clients.Tallying self (Tally 0 0 Steady))
      (perform (.on self .setCancelled))
      (fun _ clients => clients.Tallying self (Tally 0 0 Steady)) := by
    apply perform_around
    intro connection _ answer next tally acted
    cases acted
    exact
      { few := tally.few
        counted := tally.counted
        writing := tally.writing }
  have finished : Ensures effect (fun clients => clients.Tallying self (Tally 0 1 Steady))
      (asyncOpFinished self)
      (fun _ clients => clients.Tallying self (Tally 0 0 Steady)) :=
    asyncOpFinished_settles.conclude
      (fun _ _ around => around_mono around (fun _ _ settled => settled.toTally))
  refine Ensures.bind finished ?_
  intro _
  refine Ensures.bind flagged ?_
  intro _
  refine Ensures.bind flagged ?_
  intro _
  exact (writeToClient_settles (Nat.zero_le 1)).conclude
    (fun _ _ around => around_mono around (fun _ _ settled => settled.more))

theorem verifyID_settles {success : Bool} {request : OrderEntryRequest}
    {processing : Processing} {known : Bool} (accepted : processing.rejects = false) :
    Ensures effect
      (fun clients => clients.Tallying self (Tally 0 1 Steady) ∧
        (clients.clientStreams.lookup
          ((Exchange.orderCommon request).getD processing.unset).userId).isSome = known)
      (verifyID self success request processing)
      (fun _ clients => clients.Tallying self (Settled 1 Steady)) := by
  apply verifyID_around (fun connection _ => Tally 0 1 Steady connection)
    (fun connection _ => Tally 0 1 Steady connection) rfl
  · intro _ _ tally
    exact tally.touch
  · intro _ _ tally
    exact
      { few := tally.few
        counted := tally.counted
        writing := tally.writing }
  · intro _ _ tally
    exact
      { few := tally.few
        counted := tally.counted
        writing := tally.writing }
  · intro _
    exact refuse_settles
  · intro _
    exact readOrderEntryCallback_settles accepted

theorem initialiseOEConn_settles {success : Bool} {fresh : ConnectionRef} {userid : UserId} :
    Ensures effect
      (fun clients => clients.Tallying self (fun connection =>
        Tally 0 1 Steady connection ∧ connection.constructed = true))
      (initialiseOEConn self success fresh userid)
      (fun _ clients => clients.Tallying self (Settled 1 Steady)) := by
  have created : Ensures effect
      (fun clients => clients.Tallying self (fun connection =>
        Tally 0 1 Steady connection ∧ connection.constructed = true))
      (perform (.createNewConn self fresh userid))
      (fun _ clients => clients.Tallying self (fun connection =>
        Tally 0 1 Steady connection ∧ connection.constructed = true)) := by
    apply create_around
    · intro connection _ before
      exact before.2
    · intro connection _ before
      exact ⟨before.1.touch, before.2⟩
    · intro other connection _ _ _
      exact construct_settled userid
  have finished : Ensures effect
      (fun clients => clients.Tallying self (fun connection =>
        Tally 0 1 Steady connection ∧ connection.constructed = true))
      (asyncOpFinished self)
      (fun _ clients => clients.Tallying self (Settled 0 Steady)) :=
    asyncOpFinished_settles.weaken
      (fun _ around => around_mono around (fun _ _ before => before.1))
  refine Ensures.bind created ?_
  intro _
  refine Ensures.bind finished ?_
  intro _
  apply Ensures.branch
  · intro _
    exact read_settles
  · intro _
    apply Ensures.done
    intro clients around
    exact around_mono around (fun _ _ settled => settled.more)

theorem sendResponseFromQueue_settles {success : Bool} :
    Ensures effect (fun clients => clients.Tallying self (Tally 1 1 Completing))
      (sendResponseFromQueue self success)
      (fun _ clients => clients.Tallying self (Settled 1 Steady)) := by
  have sent : Ensures effect (fun clients => clients.Tallying self (Settled 1 Completing))
      (perform (.on self (.sendFromQueue success)))
      (fun _ clients => clients.Tallying self (Settled 1 Steady)) := by
    apply perform_around
    intro connection _ answer next settled acted
    exact settled.sendFromQueue acted
  exact Ensures.bind asyncOpFinished_settles (fun _ => sent)

theorem onStreamCancelled_settles :
    Ensures effect (fun clients => clients.Tallying self (Settled 1 Steady))
      (onStreamCancelled self)
      (fun _ clients => clients.Tallying self (Settled 1 Steady)) := by
  apply onStreamCancelled_around (fun connection _ => Tally 1 0 Steady connection)
  · intro connection _ settled
    exact
      { few := settled.few
        counted := settled.counted
        writing := settled.writing }
  · intro connection _ tally
    exact tally.touch
  · intro connection _ tally some
    refine { tally with released := ?_ }
    intro _ none
    have zero := tally.counted
    rw [none] at zero
    exact absurd (UInt64.toNat_inj.mp zero) some
  · apply terminate_around (fun _ _ _ _ settled => settled)
    rintro connection _ ⟨tally, -⟩
    exact
      { few := tally.few
        counted := tally.counted
        writing := tally.writing
        released := fun _ _ => rfl }

end Callbacks

/-! ### Deliveries -/

/-- Every connection is counted exactly. -/
def Counted (clients : Clients) : Prop :=
  ∀ connection, Settled 1 Steady (clients.connections connection)

theorem start_counted : start.Counted := fun _ => absent_settled

theorem counted_around {clients : Clients} (counted : clients.Counted) (self : ConnectionRef) :
    clients.Tallying self (Settled 1 Steady) :=
  (around_all atRest clients self).mpr counted

theorem around_counted {clients : Clients} (self : ConnectionRef)
    (around : clients.Tallying self (Settled 1 Steady)) : clients.Counted :=
  (around_all atRest clients self).mp around

theorem shutdownServer_settles (entries : List (UserId × ConnectionRef)) :
    Ensures effect Counted (shutdownServer entries) (fun _ => Counted) := by
  apply Ensures.each
  intro entry _
  have around := (@onStreamCancelled_settles entry.2).weaken
    (fun clients (counted : clients.Counted) => counted_around counted entry.2)
  have cancelled : Ensures effect Counted (onStreamCancelled entry.2) (fun _ => Counted) :=
    around.conclude (fun _ _ => around_counted entry.2)
  refine Ensures.bind cancelled ?_
  intro _
  apply Ensures.perform
  intro clients answer next counted performed
  cases performed
  apply around_counted entry.2
  apply around_update (counted_around counted entry.2)
  intro settled
  exact
    { few := settled.few
      counted := settled.counted
      writing := settled.writing
      released := settled.released }

/-- A call that completes leaves the counter one ahead until its callback has run. -/
theorem completed_tally {clients : Clients} {self : ConnectionRef} {callback : Callback}
    (counted : clients.Counted) (awaits : (clients.connections self).Awaits callback)
    {change : Connection → Connection}
    (erased : (change (clients.connections self)).pending =
      (clients.connections self).pending.erase callback)
    (sameOps : (change (clients.connections self)).currentAsyncOps =
      (clients.connections self).currentAsyncOps)
    (sameResponses : (change (clients.connections self)).responses =
      (clients.connections self).responses) :
    (clients.update self change).Tallying self (Tally 0 1 Steady) := by
  apply around_update (counted_around counted self)
  intro settled
  have length := List.length_erase_of_mem awaits.2
  have positive := List.length_pos_of_mem awaits.2
  have few := settled.few
  have exact_count := settled.counted
  constructor
  · rw [erased, length]
    omega
  · simp only [outstanding, erased, sameOps, sameResponses, length] at exact_count ⊢
    omega
  · rw [sameResponses]
    exact settled.writing

theorem written_tally {clients : Clients} {self : ConnectionRef} {position : Nat}
    (counted : clients.Counted)
    (below : position < (clients.connections self).responses.outstanding.length) :
    (clients.update self (fun connection => connection.written position)).Tallying self
      (Tally 1 1 Completing) := by
  apply around_update (counted_around counted self)
  intro settled
  have single := steady_writes settled.writing
  have exact_count := settled.counted
  have steady := settled.writing
  have length := List.length_eraseIdx_of_lt below
  unfold Steady at steady
  constructor
  · exact settled.few
  · simp only [outstanding, written, length] at exact_count ⊢
    omega
  · constructor
    · by_contra idle
      change ¬(clients.connections self).responses.writeInProgress = true at idle
      rw [if_neg idle] at steady
      omega
    · simp only [written, length]
      omega

section Delivered

variable {clients delivered finish : Clients} {self : ConnectionRef} {success : Bool}
  {message : OrderEntryRequest} {processing : Processing} {program : Program Instruction Unit}

theorem constructed_counted (counted : clients.Counted) (fresh : ConnectionRef)
    (userid : UserId) :
    (clients.update fresh (fun _ => Connection.construct userid)).Counted := by
  intro connection
  by_cases new : connection = fresh
  · rw [new, update_self]
    exact construct_settled userid
  · rw [update_other _ _ new]
    exact counted connection

theorem requested_counted (counted : clients.Counted) {fresh : ConnectionRef} {userid : UserId}
    (started : clients.deliver (.requested self success fresh userid) = .ok (delivered, program))
    (ran : program.alone effect delivered = .ok ((), finish)) : finish.Counted := by
  simp only [deliver] at started
  split at started
  · rename_i awaits
    cases started
    apply around_counted self
    apply initialiseOEConn_settles _ () finish _ ran
    have tally : (clients.update self (fun connection =>
        connection.completed .initialiseOEConn)).Tallying self (Tally 0 1 Steady) :=
      completed_tally counted awaits rfl rfl rfl
    refine ⟨⟨tally.1, ?_⟩, tally.2⟩
    rw [update_self]
    exact awaits.1
  · cases started

theorem firstRead_counted (counted : clients.Counted) (quiet : processing.rejects = false)
    (started : clients.deliver (.firstRead self success message processing) =
      .ok (delivered, program))
    (ran : program.alone effect delivered = .ok ((), finish)) : finish.Counted := by
  simp only [deliver] at started
  split at started
  · rename_i awaits
    cases started
    apply around_counted self
    exact verifyID_settles quiet _ () finish ⟨completed_tally counted awaits rfl rfl rfl, rfl⟩ ran
  · cases started

theorem nextRead_counted (counted : clients.Counted) (quiet : processing.rejects = false)
    (started : clients.deliver (.nextRead self success message processing) =
      .ok (delivered, program))
    (ran : program.alone effect delivered = .ok ((), finish)) : finish.Counted := by
  simp only [deliver] at started
  split at started
  · rename_i awaits
    cases started
    apply around_counted self
    exact readOrderEntryCallback_settles quiet _ () finish
      (completed_tally counted awaits rfl rfl rfl) ran
  · cases started

theorem written_counted (counted : clients.Counted) {position : Nat}
    (started : clients.deliver (.written self position success) = .ok (delivered, program))
    (ran : program.alone effect delivered = .ok ((), finish)) : finish.Counted := by
  simp only [deliver] at started
  split at started
  · rename_i below
    cases started
    apply around_counted self
    exact sendResponseFromQueue_settles _ () finish (written_tally counted below) ran
  · cases started

theorem streamDone_counted (counted : clients.Counted)
    (started : clients.deliver (.streamDone self) = .ok (delivered, program))
    (ran : program.alone effect delivered = .ok ((), finish)) : finish.Counted := by
  simp only [deliver] at started
  split at started
  · cases started
    apply around_counted self
    apply onStreamCancelled_settles _ () finish _ ran
    apply around_update (counted_around counted self)
    intro settled
    exact
      { few := settled.few
        counted := settled.counted
        writing := settled.writing
        released := settled.released }
  · cases started

end Delivered

/-- A delivery during which no book rejects a request keeps every counter exact. -/
theorem step_counted {clients next : Clients} {delivery : Delivery}
    (counted : clients.Counted) (accepted : delivery.rejectsNothing = true)
    (taken : clients.step delivery = .ok next) : next.Counted := by
  unfold step handle at taken
  split at taken
  · cases taken
  · rename_i delivered program started
    obtain ⟨outcome, ran, same⟩ := map_eq_ok taken
    obtain ⟨value, finish⟩ := outcome
    change finish = next at same
    rw [← same]
    cases delivery with
    | makeNewOrderEntryConnection fresh userid =>
        simp only [deliver] at started
        split at started
        · cases started
        · cases started
          cases ran
          exact constructed_counted counted fresh userid
    | requested self success fresh userid => exact requested_counted counted started ran
    | firstRead self success message processing =>
        have quiet : processing.rejects = false := by
          simpa [Delivery.rejectsNothing] using accepted
        exact firstRead_counted counted quiet started ran
    | nextRead self success message processing =>
        have quiet : processing.rejects = false := by
          simpa [Delivery.rejectsNothing] using accepted
        exact nextRead_counted counted quiet started ran
    | written self position success => exact written_counted counted started ran
    | streamDone self => exact streamDone_counted counted started ran
    | shutdownServer order =>
        simp only [deliver] at started
        split at started
        · cases started
          exact shutdownServer_settles _ _ value finish counted ran
        · cases started

/-- Along every run in which no book rejects a request, the counter of each connection is
the number of its calls that have not completed, and a cancelled connection without such
calls has been released. -/
theorem counters_exact {deliveries : List Delivery}
    (accepted : Guarded step (fun _ delivery => delivery.rejectsNothing = true) start
      deliveries) :
    Always step (fun clients => ∀ connection, (clients.connections connection).Exact) start
      deliveries :=
  Guarded.always (fun _ counted connection => (counted connection).exact)
    (fun _ _ _ => step_counted) start_counted accepted

/-! ### A client that comes, asks to cancel an order, and leaves -/

/-- What is asked for is order 9 of user 7. -/
def asked : Info.OrderCommon :=
  { orderId := 9
    userId := 7
    ticker := 1 }

/-- The acknowledgement is all that is written if the order is there; the market data is
not part of this model. -/
def cancelsSomething : Processing :=
  { unset := asked
    orderId := 0
    timestamp := 0
    sends := [] }

def cancelsNothing : Processing :=
  { cancelsSomething with
    sends :=
      [(1, .rejection
        { orderCommon := asked
          rejectionResponse := .orderNotFound })] }

/-- The read that fails when the client leaves, after the writes; then the notification. -/
def visit (processing : Processing) (writes : List Delivery) : List Delivery :=
  [.makeNewOrderEntryConnection 1 0,
    .requested 1 true 2 0,
    .firstRead 1 true (.cancelOrder { orderCommon := asked }) processing] ++
  writes ++
  [.nextRead 1 false .notSet processing,
    .streamDone 1]

theorem visit_exact :
    Always step (fun clients => ∀ connection, (clients.connections connection).Exact) start
      (visit cancelsSomething [.written 1 0 true]) :=
  counters_exact (by decide +kernel)

/-- After a rejection nothing is outstanding, and the counter is still at one: the cancelled
connection is never released. -/
theorem rejected_visit_leaks :
    ∃ finish,
      run step start (visit cancelsNothing [.written 1 0 true, .written 1 0 true]) =
        .ok finish ∧
      (finish.connections 1).outstanding = 0 ∧
      (finish.connections 1).notified = true ∧
      (finish.connections 1).currentAsyncOps = 1 ∧
      (finish.connections 1).released = false := by
  have evaluated :
      (run step start (visit cancelsNothing [.written 1 0 true, .written 1 0 true])).toOption.map
          (fun clients =>
            ((clients.connections 1).outstanding, (clients.connections 1).notified,
              (clients.connections 1).currentAsyncOps, (clients.connections 1).released)) =
        some (0, true, 1, false) := by
    decide +kernel
  obtain ⟨finish, reached, seen⟩ := returns_of_view evaluated
  obtain ⟨outstanding, notified, counter, released⟩ := Prod.mk.inj seen |>.imp id
    (fun rest => (Prod.mk.inj rest).imp id Prod.mk.inj)
  exact ⟨finish, reached, outstanding, notified, counter, released⟩

end Clients

end Server
end SpotExchange
