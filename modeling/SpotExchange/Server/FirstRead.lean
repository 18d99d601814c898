/-
The first read of a connection: who is entered into the table of the clients, and when a user
id is read from a request that has none.
-/

import SpotExchange.Server.Termination

namespace SpotExchange
namespace Server

open Machine Program Wire OrderEntryStreamConnection

/-! ### What the instructions of a callback can do -/

/-- An instruction on a connection that always succeeds; the table stays as it is. -/
def KeepsTable : Instruction → Prop
  | .on _ (.sendFromQueue _) => False
  | .on _ _ => True
  | _ => False

/-- An instruction that nothing can keep from succeeding. -/
def Succeeds : Instruction → Prop
  | .createNewConn _ _ _ => False
  | .on _ (.sendFromQueue _) => False
  | _ => True

/-- An instruction on a connection other than a read and the next write of its queue: all that
the processing of a message consists of. -/
def Answers : Instruction → Prop
  | .on _ (.sendFromQueue _) => False
  | .on _ (.read _) => False
  | .on _ _ => True
  | _ => False

/-- The instruction starts no read. -/
def StartsNoRead : Instruction → Prop
  | .on _ (.read _) => False
  | _ => True

theorem Answers.keepsTable {instruction : Instruction} (answers : Answers instruction) :
    KeepsTable instruction := by
  cases instruction with
  | on self action =>
      cases action with
      | sendFromQueue success => exact answers
      | _ => trivial
  | _ => exact answers

theorem KeepsTable.succeeds {instruction : Instruction} (keeps : KeepsTable instruction) :
    Succeeds instruction := by
  cases instruction with
  | on self action =>
      cases action with
      | sendFromQueue success => exact keeps
      | _ => trivial
  | _ => exact absurd keeps id

namespace Clients

theorem effect_succeeds (clients : Clients) {instruction : Instruction}
    (succeeds : Succeeds instruction) :
    ∃ answer next, effect clients instruction = .ok (answer, next) := by
  cases instruction with
  | on self action =>
      cases action with
      | sendFromQueue success => exact absurd succeeds id
      | writeToClient response =>
          simp only [effect, Connection.act, ResponseQueue.writeToClient, Writer.enqueue]
          cases (clients.connections self).touch.responses.writeInProgress <;> exact ⟨_, _, rfl⟩
      | _ => exact ⟨_, _, rfl⟩
  | createNewConn self fresh userid => exact absurd succeeds id
  | _ => exact ⟨_, _, rfl⟩

theorem keepsTable_keeps {clients next : Clients} {instruction : Instruction} {answer : Bool}
    (keeps : KeepsTable instruction) (performed : effect clients instruction = .ok (answer, next)) :
    next.clientStreams = clients.clientStreams := by
  cases instruction with
  | on self action =>
      simp only [effect] at performed
      split at performed
      · cases performed
      · cases performed
        rfl
  | _ => exact absurd keeps id

/-- A program of such instructions leaves the table. -/
theorem ensures_table {α : Type} {program : Program Instruction α}
    {table : AList (fun _ : UserId => ConnectionRef)} (all : program.All KeepsTable) :
    Ensures effect (fun clients => clients.clientStreams = table) program
      (fun _ clients => clients.clientStreams = table) :=
  all.ensures (fun _ _ _ _ same keeps performed => (keepsTable_keeps keeps performed).trans same)

section Programs

variable {self : ConnectionRef}

theorem receive_answers (item : ConnectionRef × Send) : (receive item).All Answers := by
  obtain ⟨receiver, send⟩ := item
  cases send with
  | response response => exact All.perform trivial
  | rejection rejection => exact (All.perform trivial).bind (fun _ => All.perform trivial)

theorem handleOrderType_answers (processing : Processing) (common : Info.OrderCommon)
    (acknowledgement : OrderEntryResponse) :
    (handleOrderType self processing common acknowledgement).All Answers := by
  refine All.bind ?_ ?_
  · refine (All.ask trivial).bind ?_
    intro answer
    refine All.branch trivial ?_
    refine (All.perform trivial).bind ?_
    intro _
    exact (All.perform trivial).bind (fun _ => trivial)
  · intro rejected
    refine All.branch trivial ?_
    exact (All.perform trivial).bind (fun _ => All.each receive_answers processing.sends)

theorem processEntry_answers (processing : Processing) (request : OrderEntryRequest) :
    (processEntry self processing request).All Answers := by
  cases request with
  | newOrder order => exact handleOrderType_answers processing _ _
  | modifyOrder modify => exact handleOrderType_answers processing _ _
  | cancelOrder cancel => exact handleOrderType_answers processing _ _
  | notSet => trivial

theorem asyncOpFinished_all {allowed : Instruction → Prop}
    (decrements : allowed (.on self .decrement)) (cancelled : allowed (.on self .testCancelled))
    (counted : allowed (.on self .testNoAsyncOps))
    (terminates : allowed (.terminateConnection self)) : (asyncOpFinished self).All allowed := by
  refine (All.perform decrements).bind ?_
  intro _
  refine (All.ask cancelled).bind ?_
  intro flagged
  refine All.branch ?_ trivial
  refine (All.ask counted).bind ?_
  intro zero
  exact All.branch (All.perform terminates) trivial

end Programs

theorem asyncOpFinished_succeeds (self : ConnectionRef) : (asyncOpFinished self).All Succeeds :=
  asyncOpFinished_all trivial trivial trivial trivial

theorem readOrderEntryCallback_succeeds (self : ConnectionRef) (success : Bool)
    (request : OrderEntryRequest) (processing : Processing) :
    (readOrderEntryCallback self success request processing).All Succeeds := by
  refine (asyncOpFinished_succeeds self).bind ?_
  intro _
  refine All.branch ?_ trivial
  refine All.bind ((processEntry_answers processing request).mono
    (fun _ answers => answers.keepsTable.succeeds)) ?_
  intro _
  exact (All.perform trivial).bind (fun _ => All.perform trivial)

/-- The callback of the first read comes to its end. -/
theorem verifyID_returns (clients : Clients) (self : ConnectionRef) (success : Bool)
    (request : OrderEntryRequest) (processing : Processing) :
    ∃ finish, (verifyID self success request processing).alone effect clients =
      .ok ((), finish) := by
  have all : (verifyID self success request processing).All Succeeds := by
    refine (All.ask trivial).bind ?_
    intro known
    refine All.branch ?_ ?_
    · refine (asyncOpFinished_succeeds self).bind ?_
      intro _
      refine (All.perform trivial).bind ?_
      intro _
      exact (All.perform trivial).bind (fun _ => All.perform trivial)
    · refine (All.perform trivial).bind ?_
      intro _
      refine (All.perform trivial).bind ?_
      intro _
      exact readOrderEntryCallback_succeeds self success request processing
  obtain ⟨value, finish, ran⟩ :=
    all.returns (fun clients _ succeeds => effect_succeeds clients succeeds) clients
  exact ⟨finish, ran⟩

/-- The table, and what the deletion of a connection depends on. -/
structure Sees (connection : ConnectionRef) (streams : AList (fun _ : UserId => ConnectionRef))
    (cancelled : Bool) (ops : UInt64) (id : UserId) (clients : Clients) : Prop where
  table : clients.clientStreams = streams
  cancelled : (clients.connections connection).onStreamcancelledCalled = cancelled
  ops : (clients.connections connection).currentAsyncOps = ops
  userid : (clients.connections connection).userid = id

section Table

variable {self : ConnectionRef} {streams : AList (fun _ : UserId => ConnectionRef)}
  {cancelled : Bool} {ops after : UInt64} {id named : UserId} {clients : Clients}

theorem Sees.set (sees : Sees self streams cancelled ops id clients) {connection : Connection}
    (flagged : connection.onStreamcancelledCalled = cancelled)
    (counted : connection.currentAsyncOps = after) (called : connection.userid = named) :
    Sees self streams cancelled after named (clients.update self (fun _ => connection)) where
  table := sees.table
  cancelled := by
    rw [update_self]
    exact flagged
  ops := by
    rw [update_self]
    exact counted
  userid := by
    rw [update_self]
    exact called

theorem one_left (ops : UInt64) : (ops - 1 == 0) = (ops == 1) := by
  rw [Bool.eq_iff_iff, beq_iff_eq, beq_iff_eq]
  constructor
  · intro zero
    have one : ops - 1 + 1 = 0 + 1 := congrArg (· + 1) zero
    rwa [UInt64.sub_add_cancel] at one
  · intro one
    rw [one]
    rfl

/-- The counter goes down; a cancelled connection whose last call this was is deleted, with
the entry under its user id. -/
theorem asyncOpFinished_table :
    Ensures effect (Sees self streams cancelled ops id) (asyncOpFinished self)
      (fun _ clients => clients.clientStreams =
        if cancelled && ops == 1 then streams.erase id else streams) := by
  have decremented : Ensures effect (Sees self streams cancelled ops id)
      (perform (.on self .decrement)) (fun _ => Sees self streams cancelled (ops - 1) id) := by
    apply Ensures.perform
    intro clients answer next sees performed
    cases performed
    exact sees.set sees.cancelled (congrArg (· - 1) sees.ops) sees.userid
  have asked : Ensures effect (Sees self streams cancelled (ops - 1) id)
      (ask (.on self .testCancelled))
      (fun answer clients => Sees self streams cancelled (ops - 1) id clients ∧
        answer = cancelled) := by
    apply Ensures.ask
    intro clients answer next sees performed
    cases performed
    exact ⟨sees.set sees.cancelled sees.ops sees.userid, sees.cancelled⟩
  have tested : Ensures effect (Sees self streams cancelled (ops - 1) id)
      (ask (.on self .testNoAsyncOps))
      (fun answer clients => Sees self streams cancelled (ops - 1) id clients ∧
        answer = (ops == 1)) := by
    apply Ensures.ask
    intro clients answer next sees performed
    cases performed
    refine ⟨sees.set sees.cancelled sees.ops sees.userid, ?_⟩
    rw [← one_left, ← sees.ops]
    rfl
  have terminated : Ensures effect (Sees self streams cancelled (ops - 1) id)
      (perform (.terminateConnection self))
      (fun _ clients => clients.clientStreams = streams.erase id) := by
    apply Ensures.perform
    intro clients answer next sees performed
    cases performed
    change clients.clientStreams.erase (clients.connections self).userid = _
    rw [sees.table, sees.userid]
  have counted : Ensures effect (Sees self streams cancelled (ops - 1) id)
      (do
        if ← ask (.on self .testNoAsyncOps) then
          perform (.terminateConnection self))
      (fun _ clients => clients.clientStreams =
        if ops == 1 then streams.erase id else streams) := by
    refine Ensures.bind tested ?_
    intro answer
    apply Ensures.branch
    · rintro zero state value finish ⟨sees, same⟩ returned
      rw [← same, if_pos zero]
      exact terminated state value finish sees returned
    · intro some
      apply Ensures.done
      rintro clients ⟨sees, same⟩
      rw [← same, some, if_neg Bool.false_ne_true]
      exact sees.table
  refine Ensures.bind decremented ?_
  intro _
  refine Ensures.bind asked ?_
  intro answer
  apply Ensures.branch
  · rintro yes state value finish ⟨sees, same⟩ returned
    rw [← same, yes, Bool.true_and]
    exact counted state value finish sees returned
  · intro no
    apply Ensures.done
    rintro clients ⟨sees, same⟩
    rw [← same, no, Bool.false_and, if_neg Bool.false_ne_true]
    exact sees.table

/-- A later message leaves the table, unless the connection is deleted. -/
theorem readOrderEntryCallback_table {success : Bool} {request : OrderEntryRequest}
    {processing : Processing} :
    Ensures effect (Sees self streams cancelled ops id)
      (readOrderEntryCallback self success request processing)
      (fun _ clients => clients.clientStreams =
        if cancelled && ops == 1 then streams.erase id else streams) := by
  refine Ensures.bind asyncOpFinished_table ?_
  intro _
  apply Ensures.branch
  · intro _
    apply ensures_table
    refine All.bind ((processEntry_answers processing request).mono
      (fun _ answers => answers.keepsTable)) ?_
    intro _
    exact (All.perform trivial).bind (fun _ => All.perform trivial)
  · intro _
    exact Ensures.done (fun _ same => same)

/-- What the first message leaves of the table: its user id is entered where it is free, and
the entry of a connection that is deleted is removed. -/
def firstTable (streams : AList (fun _ : UserId => ConnectionRef)) (self : ConnectionRef)
    (deleted : Bool) (own userid : UserId) : AList (fun _ : UserId => ConnectionRef) :=
  if (streams.lookup userid).isSome then if deleted then streams.erase own else streams
  else if deleted then (streams.insert userid self).erase userid
  else streams.insert userid self

/-- A refused message leaves the table, unless the connection is deleted. -/
theorem refusal_table {common : Info.OrderCommon} :
    Ensures effect (Sees self streams cancelled ops id)
      (do
        asyncOpFinished self
        perform (.on self .setCancelled)
        perform (.on self .setCancelled)
        writeToClient self (usageRejection common))
      (fun _ clients => clients.clientStreams =
        if cancelled && ops == 1 then streams.erase id else streams) := by
  refine Ensures.bind asyncOpFinished_table ?_
  intro _
  apply ensures_table
  refine (All.perform trivial).bind ?_
  intro _
  exact (All.perform trivial).bind (fun _ => All.perform trivial)

theorem emplace_sees (free : streams.lookup named = none) :
    Ensures effect (Sees self streams cancelled ops id) (perform (.emplace self named))
      (fun _ => Sees self (streams.insert named self) cancelled ops id) := by
  apply Ensures.perform
  intro clients answer next sees performed
  cases performed
  have absent : (clients.clientStreams.lookup named).isSome = false := by
    rw [sees.table, free]
    rfl
  rw [emplace]
  simp only [absent, Bool.false_eq_true, if_false]
  have touched : Sees self streams cancelled ops id (clients.update self (fun connection =>
      { connection.touch with registered := named :: connection.registered })) :=
    sees.set sees.cancelled sees.ops sees.userid
  exact
    { table := congrArg (fun table => AList.insert named self table) sees.table
      cancelled := touched.cancelled
      ops := touched.ops
      userid := touched.userid }

/-- A message under a free id enters the connection, which is removed again if it is deleted. -/
theorem acceptance_table {success : Bool} {request : OrderEntryRequest} {processing : Processing}
    (free : streams.lookup named = none) :
    Ensures effect (Sees self streams cancelled ops id)
      (do
        perform (.emplace self named)
        perform (.on self (.setUserid named))
        readOrderEntryCallback self success request processing)
      (fun _ clients => clients.clientStreams =
        if cancelled && ops == 1 then (streams.insert named self).erase named
        else streams.insert named self) := by
  have called : Ensures effect (Sees self (streams.insert named self) cancelled ops id)
      (perform (.on self (.setUserid named)))
      (fun _ => Sees self (streams.insert named self) cancelled ops named) := by
    apply Ensures.perform
    intro clients answer next sees performed
    cases performed
    exact sees.set sees.cancelled sees.ops rfl
  refine Ensures.bind (emplace_sees free) ?_
  intro _
  refine Ensures.bind called ?_
  intro _
  exact readOrderEntryCallback_table

theorem verifyID_table {success : Bool} {request : OrderEntryRequest} {processing : Processing}
    {common : Info.OrderCommon}
    (read : (Exchange.orderCommon request).getD processing.unset = common) :
    Ensures effect (Sees self streams cancelled ops id)
      (verifyID self success request processing)
      (fun _ clients => clients.clientStreams =
        firstTable streams self (cancelled && ops == 1) id common.userId) := by
  unfold verifyID
  rw [read]
  have found : Ensures effect (Sees self streams cancelled ops id)
      (ask (.find self common.userId))
      (fun answer clients => Sees self streams cancelled ops id clients ∧
        answer = (streams.lookup common.userId).isSome) := by
    apply Ensures.ask
    intro clients answer next sees performed
    cases performed
    exact ⟨sees.set sees.cancelled sees.ops sees.userid,
      congrArg (fun table => (AList.lookup common.userId table).isSome) sees.table⟩
  refine Ensures.bind found ?_
  intro answer
  apply Ensures.branch
  · rintro known state value finish ⟨sees, same⟩ returned
    rw [firstTable, ← same, if_pos known]
    exact refusal_table state value finish sees returned
  · rintro unknown state value finish ⟨sees, same⟩ returned
    have free : streams.lookup common.userId = none :=
      Option.isNone_iff_eq_none.mp (Option.isSome_eq_false_iff.mp (same.symm.trans unknown))
    rw [firstTable, ← same, unknown, if_neg Bool.false_ne_true]
    exact acceptance_table free state value finish sees returned

end Table

/-! ### The first read is of a request that is not set -/

/-- A connection that still waits for its first message has none. -/
structure Unread (connection : Connection) : Prop where
  few : connection.pending.length ≤ 1
  blank : .verifyID ∈ connection.pending ∨ .initialiseOEConn ∈ connection.pending ∨
    connection.constructed = false → connection.oeRequest = .notSet

def AllUnread (clients : Clients) : Prop := ∀ connection, Unread (clients.connections connection)

/-- In a callback of a connection no call but writes of it is pending. -/
structure InCallback (owner : ConnectionRef) (isFirst : Bool) (clients : Clients) : Prop where
  idle : (clients.connections owner).pending = []
  constructed : (clients.connections owner).constructed = true
  blank : isFirst = true → (clients.connections owner).oeRequest = .notSet
  others : ∀ other, other ≠ owner → Unread (clients.connections other)

/-- The calls of a connection and its request are the same. -/
structure SameCalls (connection next : Connection) : Prop where
  pending : next.pending = connection.pending
  constructed : next.constructed = connection.constructed
  oeRequest : next.oeRequest = connection.oeRequest

section Reads

variable {self : ConnectionRef} {isFirst : Bool} {clients next : Clients}
  {connection after : Connection}

theorem SameCalls.refl (connection : Connection) : SameCalls connection connection :=
  ⟨rfl, rfl, rfl⟩

theorem touch_sameCalls (connection : Connection) : SameCalls connection connection.touch :=
  ⟨rfl, rfl, rfl⟩

theorem SameCalls.unread (same : SameCalls connection after) (unread : Unread connection) :
    Unread after where
  few := by
    rw [same.pending]
    exact unread.few
  blank := by
    rw [same.pending, same.constructed, same.oeRequest]
    exact unread.blank

theorem act_sameCalls {action : Connection.Action} {answer : Bool}
    (noRead : StartsNoRead (.on self action))
    (acted : connection.touch.act action = .ok (answer, after)) : SameCalls connection after := by
  cases action with
  | read callback => exact absurd noRead id
  | writeToClient response =>
      rcases Connection.act_writeToClient acted with ⟨-, rfl⟩ | ⟨-, rfl⟩ <;> exact ⟨rfl, rfl, rfl⟩
  | sendFromQueue success =>
      rcases Connection.act_sendFromQueue acted with ⟨rest, rfl⟩ | ⟨following, others, rfl⟩ <;>
        exact ⟨rfl, rfl, rfl⟩
  | _ =>
      cases acted
      exact ⟨rfl, rfl, rfl⟩

theorem changed_sameCalls {target : ConnectionRef}
    (changed : next.connections = Function.update clients.connections target after)
    (same : SameCalls (clients.connections target) after) (connection : ConnectionRef) :
    SameCalls (clients.connections connection) (next.connections connection) := by
  rw [changed]
  by_cases here : connection = target
  · rw [here, Function.update_self]
    exact same
  · rw [Function.update_of_ne here]
    exact SameCalls.refl _

/-- A call that a connection awaits is its only one. -/
theorem Unread.alone {callback : Callback} (unread : Unread connection)
    (awaits : connection.Awaits callback) : connection.pending.erase callback = [] := by
  obtain ⟨only, listed⟩ := List.length_eq_one_iff.mp
    (Nat.le_antisymm unread.few (List.length_pos_of_mem awaits.2))
  have member := awaits.2
  rw [listed, List.mem_singleton] at member
  rw [listed, member, List.erase_cons_head]

theorem AllUnread.enter (unread : AllUnread clients)
    (idle : after.pending = []) (constructed : after.constructed = true)
    (blank : isFirst = true → after.oeRequest = .notSet) :
    InCallback self isFirst (clients.update self (fun _ => after)) where
  idle := by
    rw [update_self]
    exact idle
  constructed := by
    rw [update_self]
    exact constructed
  blank := by
    rw [update_self]
    exact blank
  others := by
    intro other different
    rw [update_other _ _ different]
    exact unread other

theorem AllUnread.update (unread : AllUnread clients) (other : Unread after) :
    AllUnread (clients.update self (fun _ => after)) := by
  intro connection
  by_cases here : connection = self
  · rw [here, update_self]
    exact other
  · rw [update_other _ _ here]
    exact unread connection

theorem written_sameCalls (connection : Connection) (position : Nat) :
    SameCalls connection (connection.written position) :=
  ⟨rfl, rfl, rfl⟩

theorem notified_sameCalls (connection : Connection) :
    SameCalls connection { connection with notified := true } :=
  ⟨rfl, rfl, rfl⟩

end Reads

/-! ### How the first read is handled -/

/-- The id under which the first message has its connection entered into the table. -/
def accepted (clients : Clients) (success : Bool) (message : OrderEntryRequest) :
    Option UserId :=
  if success then
    ((Exchange.orderCommon message).map (fun common => common.userId)).filter
      (fun userid => !(clients.clientStreams.lookup userid).isSome)
  else none

/-- What the callback of the first read is for, whatever the read brings: it reads a user id
only where there is one, enters the connection where its message lets it, and otherwise
leaves the table, and nothing that the processing of a message would do is seen. -/
structure Handles (clients : Clients) (owner : ConnectionRef) (success : Bool)
    (message : OrderEntryRequest) : Prop where
  reads : ∀ processing unset,
    let request := ((clients.connections owner).reads .verifyID success message).oeRequest
    verifyID owner success request { processing with unset := unset } =
      verifyID owner success request processing
  registers : ∀ processing, ∃ finish,
    clients.step (.firstRead owner success message processing) = .ok finish ∧
      finish.clientStreams =
        match clients.accepted success message with
        | some userid => clients.clientStreams.insert userid owner
        | none => clients.clientStreams
  quiet : clients.accepted success message = none → ∀ processing other,
    clients.step (.firstRead owner success message processing) =
      clients.step (.firstRead owner success message other)

/-- The read succeeded and brought one of the three requests; if the callback is the last one
of a cancelled connection, the id of the message is in the table, and the one that the
connection had before is not. -/
structure Regular (clients : Clients) (owner : ConnectionRef) (success : Bool)
    (message : OrderEntryRequest) : Prop where
  succeeds : success = true
  present : (Exchange.orderCommon message).isSome = true
  known : (clients.connections owner).leaving = true →
    ∀ common, Exchange.orderCommon message = some common →
      (clients.clientStreams.lookup common.userId).isSome = true
  unnamed : (clients.connections owner).leaving = true →
    clients.clientStreams.lookup (clients.connections owner).userid = none

section First

variable {self : ConnectionRef} {success : Bool} {message request : OrderEntryRequest}
  {clients : Clients} {common : Info.OrderCommon}

theorem accepted_of_present (read : Exchange.orderCommon message = some common) :
    clients.accepted true message =
      if (clients.clientStreams.lookup common.userId).isSome then none
      else some common.userId := by
  cases known : (clients.clientStreams.lookup common.userId).isSome <;>
    simp [accepted, read, Option.filter, known]

/-- What the first message does to the table. -/
theorem firstRead_table (awaits : (clients.connections self).Awaits .verifyID)
    (processing : Processing)
    (read : (Exchange.orderCommon
      ((clients.connections self).reads .verifyID success message).oeRequest).getD
        processing.unset = common) :
    ∃ finish, clients.step (.firstRead self success message processing) = .ok finish ∧
      finish.clientStreams =
        firstTable clients.clientStreams self (clients.connections self).leaving
          (clients.connections self).userid common.userId := by
  let begun := clients.update self (fun connection => connection.reads .verifyID success message)
  obtain ⟨finish, ran⟩ := verifyID_returns begun self success
    ((clients.connections self).reads .verifyID success message).oeRequest processing
  have sees : Sees self clients.clientStreams
      (clients.connections self).onStreamcancelledCalled
      (clients.connections self).currentAsyncOps (clients.connections self).userid begun :=
    { table := rfl
      cancelled := by
        rw [update_self]
        rfl
      ops := by
        rw [update_self]
        rfl
      userid := by
        rw [update_self]
        rfl }
  refine ⟨finish, ?_, verifyID_table read begun () finish sees ran⟩
  simp only [step, handle, deliver, if_pos awaits]
  rw [ran]
  rfl

/-- The refusal of a first message does not depend on what its processing would do. -/
theorem firstRead_refused (read : Exchange.orderCommon message = some common)
    (known : (clients.clientStreams.lookup common.userId).isSome = true)
    (processing other : Processing) :
    clients.step (.firstRead self true message processing) =
      clients.step (.firstRead self true message other) := by
  have same : (verifyID self true message processing).alone effect
        (clients.update self (fun connection => connection.reads .verifyID true message)) =
      (verifyID self true message other).alone effect
        (clients.update self (fun connection => connection.reads .verifyID true message)) := by
    unfold verifyID
    simp only [read, Option.getD_some, alone_bind, ask, alone, effect]
    simp only [update, known, if_true]
  by_cases awaits : (clients.connections self).Awaits .verifyID
  · simp only [step, handle, deliver, if_pos awaits]
    exact congrArg (Except.map Prod.snd) same
  · simp only [step, handle, deliver, if_neg awaits]

/-- Where the request is not set, the id that is looked up comes from elsewhere. -/
theorem verifyID_unset {processing other : Processing}
    (unset : Exchange.orderCommon request = none)
    (same : verifyID self success request processing = verifyID self success request other) :
    processing.unset.userId = other.unset.userId := by
  unfold verifyID at same
  rw [unset] at same
  have first := (Program.act.inj same).1
  exact (Instruction.find.inj first).2

theorem erase_absent {streams : AList (fun _ : UserId => ConnectionRef)} {userid : UserId}
    (absent : streams.lookup userid = none) : streams.erase userid = streams := by
  apply AList.ext
  exact List.kerase_of_notMem_keys (AList.lookup_eq_none.mp absent)

/-- What a regular first message leaves of the table is what its id entitles to. -/
theorem Regular.table (regular : clients.Regular self success message)
    (read : Exchange.orderCommon message = some common) :
    firstTable clients.clientStreams self (clients.connections self).leaving
        (clients.connections self).userid common.userId =
      match clients.accepted success message with
      | some userid => clients.clientStreams.insert userid self
      | none => clients.clientStreams := by
  rw [regular.succeeds, accepted_of_present read, firstTable]
  cases known : (clients.clientStreams.lookup common.userId).isSome with
  | true =>
      simp only [if_true]
      split
      · rename_i leaving
        exact erase_absent (regular.unnamed leaving)
      · rfl
  | false =>
      simp only [Bool.false_eq_true, if_false]
      split
      · rename_i leaving
        have entered := regular.known leaving common read
        rw [known] at entered
        cases entered
      · rfl

theorem Regular.handles (regular : clients.Regular self success message)
    (awaits : (clients.connections self).Awaits .verifyID) :
    clients.Handles self success message := by
  obtain ⟨common, read⟩ := Option.isSome_iff_exists.mp regular.present
  have succeeds := regular.succeeds
  have seen : ((clients.connections self).reads .verifyID success message).oeRequest = message := by
    rw [succeeds]
    rfl
  constructor
  · intro processing unset
    simp only [seen]
    cases message with
    | newOrder order => rfl
    | modifyOrder modify => rfl
    | cancelOrder cancel => rfl
    | notSet => cases read
  · intro processing
    rw [← regular.table read]
    apply firstRead_table awaits processing
    rw [seen, read, Option.getD_some]
  · intro refused processing other
    rw [succeeds, accepted_of_present read] at refused
    have known : (clients.clientStreams.lookup common.userId).isSome = true := by
      by_contra free
      rw [if_neg free] at refused
      cases refused
    rw [succeeds]
    exact firstRead_refused read known processing other

/-- A message that is handled is one of the three requests. -/
theorem Handles.present (handles : clients.Handles self success message) :
    (Exchange.orderCommon
      ((clients.connections self).reads .verifyID success message).oeRequest).isSome = true := by
  by_contra absent
  have same := handles.reads cancelsSomething
    { asked with userId := 8 }
  have equal := verifyID_unset (Option.not_isSome_iff_eq_none.mp absent) same
  exact absurd equal (by decide)

theorem Handles.regular (handles : clients.Handles self success message)
    (blank : (clients.connections self).oeRequest = .notSet)
    (awaits : (clients.connections self).Awaits .verifyID) :
    clients.Regular self success message := by
  have present := handles.present
  have succeeds : success = true := by
    by_contra failed
    rw [Bool.not_eq_true] at failed
    rw [failed] at present
    simp only [Connection.reads, Bool.false_eq_true, if_false, blank] at present
    cases present
  have seen : ((clients.connections self).reads .verifyID success message).oeRequest = message := by
    rw [succeeds]
    rfl
  rw [seen] at present
  obtain ⟨common, read⟩ := Option.isSome_iff_exists.mp present
  obtain ⟨finish, taken, table⟩ := handles.registers cancelsSomething
  obtain ⟨other, again, first⟩ := @firstRead_table self success message clients common awaits
    cancelsSomething (by rw [seen, read, Option.getD_some])
  rw [taken] at again
  cases again
  rw [table, succeeds, accepted_of_present read, firstTable] at first
  have known : (clients.connections self).leaving = true →
      (clients.clientStreams.lookup common.userId).isSome = true := by
    intro leaving
    by_contra free
    rw [if_neg free, if_neg free, if_pos leaving] at first
    have looked := congrArg (AList.lookup common.userId) first
    rw [AList.lookup_insert, AList.lookup_erase] at looked
    cases looked
  refine
    { succeeds := succeeds
      present := present
      known := ?_
      unnamed := ?_ }
  · intro leaving other same
    rw [read] at same
    cases same
    exact known leaving
  · intro leaving
    rw [if_pos (known leaving), if_pos (known leaving), if_pos leaving] at first
    have looked := congrArg (AList.lookup (clients.connections self).userid) first
    rw [AList.lookup_erase] at looked
    exact looked

end First

end Clients

end Server
end SpotExchange
